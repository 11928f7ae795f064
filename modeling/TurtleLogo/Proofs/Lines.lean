import TurtleLogo.Proofs.Evaluation

/-!
# Lines do not matter

Tokens carry the lines they stand on, stored bodies keep them, and diagnostics name them. Nothing
else looks at them. `unlined` forgets the lines of whatever holds tokens or diagnostics, and
evaluation commutes with it: a program whose lines are forgotten does what the program itself does,
with the lines forgotten.
-/

set_option autoImplicit false

namespace TurtleLogo

namespace Table

variable {α β : Type}

def map (f : α → β) (t : Table α) : Table β :=
  ⟨t.entries.map fun (name, value) => (name, f value)⟩

theorem get?_map (f : α → β) (t : Table α) (name : Text) :
    (t.map f).get? name = (t.get? name).map f := by
  obtain ⟨entries⟩ := t
  simp only [get?, map]
  induction entries with
  | nil => rfl
  | cons entry rest ih =>
    obtain ⟨key, value⟩ := entry
    simp only [List.map_cons, List.lookup]
    cases name == key with
    | true => rfl
    | false => exact ih

theorem map_set (f : α → β) (t : Table α) (name : Text) (value : α) :
    (t.set name value).map f = (t.map f).set name (f value) := by
  obtain ⟨entries⟩ := t
  simp only [set, map, Table.mk.injEq]
  induction entries with
  | nil => rfl
  | cons entry rest ih =>
    obtain ⟨key, old⟩ := entry
    by_cases here : key = name
    · simp [setIn, here]
    · simp [setIn, here, ih]

end Table

/-! ## Forgetting lines -/

def Token.unlined (t : Token) : Token :=
  { t with line := 0 }

def Program.unlined (p : Program) : Program :=
  p.map Token.unlined

def Diagnostic.unlined (d : Diagnostic) : Diagnostic :=
  { d with line := 0 }

def Tables.unlined (tables : Tables) : Tables :=
  { tables with procedures := tables.procedures.map Program.unlined }

def Effect.unlined : Effect → Effect
  | .define name body => .define name (Program.unlined body)
  | .enter body again => .enter (Program.unlined body) again
  | effect => effect

def Outcome.unlined (o : Outcome) : Outcome :=
  { o with tables := o.tables.unlined, fault := o.fault.map Diagnostic.unlined }

def unlinedResult {α : Type} (unlined : α → α) : Except Diagnostic α → Except Diagnostic α
  | .error d => .error d.unlined
  | .ok result => .ok (unlined result)

@[simp] theorem Token.unlined_kind (t : Token) : t.unlined.kind = t.kind := rfl

@[simp] theorem Token.unlined_text (t : Token) : t.unlined.text = t.text := rfl

@[simp] theorem Tables.unlined_values (tables : Tables) : tables.unlined.values = tables.values := rfl

@[simp] theorem Program.unlined_nil : Program.unlined [] = [] := rfl

@[simp] theorem Program.unlined_cons (t : Token) (rest : Program) :
    Program.unlined (t :: rest) = t.unlined :: Program.unlined rest := rfl

@[simp] theorem Program.unlined_append (p q : Program) :
    Program.unlined (p ++ q) = Program.unlined p ++ Program.unlined q :=
  List.map_append

@[simp] theorem Program.unlined_eq_nil {p : Program} : Program.unlined p = [] ↔ p = [] :=
  List.map_eq_nil_iff

@[simp] theorem Diagnostic.unlined_withLine (d : Diagnostic) (line : Int) :
    (d.withLine line).unlined = d.unlined := by
  unfold withLine
  split <;> rfl

@[simp] theorem Diagnostic.cause_withLine (d : Diagnostic) (line : Int) :
    (d.withLine line).cause = d.cause := by
  unfold withLine
  split <;> rfl

@[simp] theorem Diagnostic.withLine_zero (d : Diagnostic) : d.withLine 0 = d := by
  simp [withLine]

/-! ## One head -/

namespace Program

theorem splitClosing_unlined {opens closes : Token → Bool}
    (opensAny : ∀ t : Token, opens t.unlined = opens t)
    (closesAny : ∀ t : Token, closes t.unlined = closes t) (depth : Nat) (p : Program) :
    splitClosing opens closes depth (unlined p) =
      (splitClosing opens closes depth p).map fun (body, after) => (unlined body, unlined after) := by
  induction p generalizing depth with
  | nil => rfl
  | cons t rest ih =>
    simp only [unlined_cons, splitClosing, opensAny, closesAny, ih]
    cases opens t with
    | true => cases splitClosing opens closes (depth + 1) rest <;> rfl
    | false =>
      cases closes t with
      | true =>
        cases depth with
        | zero => rfl
        | succ depth => cases inner : splitClosing opens closes depth rest <;> simp [inner]
      | false => cases splitClosing opens closes depth rest <;> rfl

theorem block?_unlined (p : Program) :
    block? (unlined p) = (block? p).map fun (body, after) => (unlined body, unlined after) := by
  cases p with
  | nil => rfl
  | cons t rest =>
    simp only [unlined_cons, block?, splitBlock_eq]
    rw [splitClosing_unlined (fun _ => rfl) (fun _ => rfl)]
    change (if t.kind = .opening then _ else none) = _
    split <;> rfl

theorem definition?_unlined (p : Program) :
    definition? (unlined p) =
      (definition? p).map fun (body, after) => (unlined body, unlined after) := by
  simp only [definition?, splitDefinition_eq]
  exact splitClosing_unlined (fun _ => rfl) (fun _ => rfl) 0 p

theorem startsBlock_unlined (p : Program) : startsBlock (unlined p) = startsBlock p := by
  cases p <;> rfl

theorem faultFrom_unlined (depth : Nat) (p : Program) :
    faultFrom depth (unlined p) = (faultFrom depth p).map Diagnostic.unlined := by
  induction p generalizing depth with
  | nil => cases depth <;> rfl
  | cons t rest ih =>
    rw [unlined_cons]
    unfold faultFrom
    rw [Token.unlined_kind]
    cases t.kind with
    | closing =>
      cases depth with
      | zero => rfl
      | succ depth => exact ih depth
    | _ => exact ih _

theorem fault?_unlined_eq_none {p : Program} : fault? (unlined p) = none ↔ fault? p = none := by
  rw [fault?, faultFrom_unlined, Option.map_eq_none_iff, fault?]

end Program

section Heads

variable (tables : Tables) (head : Token) (rest : Program)

theorem evaluate_argument_unlined (t : Token) :
    tables.unlined.evaluate t.unlined = unlinedResult id (tables.evaluate t) := by
  rw [Tables.evaluate, Tables.evaluate]
  by_cases behindColon : t.kind = .variable
  · have unlinedBehind : t.unlined.kind = .variable := behindColon
    rw [if_pos behindColon, if_pos unlinedBehind]
    simp only [Token.unlined_text, Tables.unlined_values]
    cases tables.values.get? (t.text.drop 1) <;> rfl
  · have unlinedPlain : ¬t.unlined.kind = .variable := behindColon
    rw [if_neg behindColon, if_neg unlinedPlain]
    simp only [Token.unlined_text, Tables.unlined_values]
    cases tables.values.get? t.text <;> rfl

theorem numberArgument_unlined (command : Text) (t : Token) :
    numberArgument tables.unlined command t.unlined =
      unlinedResult id (numberArgument tables command t) := by
  simp only [numberArgument, evaluate_argument_unlined]
  cases tables.evaluate t with
  | error d => rfl
  | ok v =>
    simp only [unlinedResult, id]
    cases v.float? <;> rfl

def unlinedPair (taken : Effect × Program) : Effect × Program :=
  (taken.1.unlined, Program.unlined taken.2)

theorem withNumber_unlined (line : Int) (name what : Text) (instruction : Float → Instruction) :
    withNumber tables.unlined 0 name what (Program.unlined rest) (fun x => .draw (instruction x)) =
      unlinedResult unlinedPair
        (withNumber tables line name what rest fun x => .draw (instruction x)) := by
  cases rest with
  | nil => rfl
  | cons t tail =>
    simp only [withNumber, argument, Program.unlined_cons, numberArgument_unlined]
    cases numberArgument tables name t <;> rfl

theorem interpretVariable_unlined (line : Int) :
    interpretVariable tables.unlined 0 (Program.unlined rest) =
      unlinedResult unlinedPair (interpretVariable tables line rest) := by
  cases rest with
  | nil => rfl
  | cons name tail =>
    cases tail with
    | nil => rfl
    | cons t tail =>
      simp only [interpretVariable, argument, Program.unlined_cons, numberArgument_unlined]
      cases numberArgument tables (utf8 "VAR") t <;> rfl

theorem interpretDefinition_unlined (line : Int) :
    interpretDefinition 0 (Program.unlined rest) =
      unlinedResult unlinedPair (interpretDefinition line rest) := by
  cases rest with
  | nil => rfl
  | cons name tail =>
    simp only [interpretDefinition, argument, Program.unlined_cons, Program.definition?_unlined]
    cases Program.definition? tail <;> rfl

theorem interpretLoop_unlined (line : Int) :
    interpretLoop tables.unlined 0 (Program.unlined rest) =
      unlinedResult unlinedPair (interpretLoop tables line rest) := by
  cases rest with
  | nil => rfl
  | cons t tail =>
    simp only [interpretLoop, argument, Program.unlined_cons, evaluate_argument_unlined]
    cases tables.evaluate t with
    | error d => rfl
    | ok v =>
      simp only [unlinedResult, id]
      cases v.int? with
      | none => rfl
      | some count =>
        simp only [Program.block?_unlined, Program.startsBlock_unlined]
        cases Program.block? tail with
        | none => rfl
        | some extent =>
          simp only [Option.map_some, Program.unlined_eq_nil]
          split <;> rfl

theorem interpretCommand_unlined (command : Command) (name : Text) (line : Int) :
    interpretCommand tables.unlined command name 0 (Program.unlined rest) =
      unlinedResult unlinedPair (interpretCommand tables command name line rest) := by
  cases command with
  | makeVariable => exact interpretVariable_unlined tables rest line
  | define => exact interpretDefinition_unlined rest line
  | loop => exact interpretLoop_unlined tables rest line
  | forward | back | right | left => exact withNumber_unlined tables rest line name _ _
  | setColor => cases rest <;> rfl
  | penUp | penDown | clear | nothing => rfl

theorem interpret_unlined :
    interpret tables.unlined head.unlined (Program.unlined rest) =
      unlinedResult unlinedPair (interpret tables head rest) := by
  simp only [interpret, Token.unlined]
  cases Command.named? (Text.upper head.text) with
  | some command => exact interpretCommand_unlined tables rest command _ head.line
  | none =>
    simp only [Tables.unlined, Table.get?_map]
    cases tables.procedures.get? (Text.upper head.text) <;> rfl

end Heads

/-! ## Whole programs -/

namespace Outcome

theorem unlined_andThen {o : Outcome} {next : Tables → Outcome} (next' : Tables → Outcome)
    (same : ∀ tables : Tables, next' tables.unlined = (next tables).unlined) :
    (o.andThen next).unlined = o.unlined.andThen next' := by
  obtain ⟨tables, instructions, steps, fault⟩ := o
  cases fault with
  | some d => rfl
  | none =>
    simp only [unlined, andThen, Option.map_none, same]

theorem unlined_tagged (o : Outcome) (line : Int) : (o.tagged line).unlined = o.unlined := by
  obtain ⟨tables, instructions, steps, fault⟩ := o
  cases fault <;> simp [tagged, unlined]

theorem tagged_zero (o : Outcome) : o.tagged 0 = o := by
  obtain ⟨tables, instructions, steps, fault⟩ := o
  cases fault <;> simp [tagged]

theorem unlined_times {once once' : Tables → Outcome}
    (same : ∀ tables : Tables, once' tables.unlined = (once tables).unlined) (n : Nat)
    (tables : Tables) : times n once' tables.unlined = (times n once tables).unlined := by
  induction n generalizing tables with
  | zero => rfl
  | succ n ih =>
    rw [times, times, unlined_andThen (times n once') ih, same]

end Outcome

namespace Machine

open Outcome

theorem update_unlined (tables : Tables) (effect : Effect) :
    effect.unlined.update tables.unlined = (effect.update tables).unlined := by
  cases effect with
  | define name body => simp [Effect.update, Effect.unlined, Tables.unlined, Table.map_set]
  | nothing | draw | assign | enter => rfl

theorem carryOut_unlined {limit depth : Nat} (tables : Tables) (head : Token) (effect : Effect)
    (deeper : depth < limit → ∀ (tables : Tables) (body : Program),
      evaluate limit (depth + 1) tables.unlined (Program.unlined body) =
        (evaluate limit (depth + 1) tables body).unlined) :
    carryOut limit depth tables.unlined head.unlined effect.unlined =
      (carryOut limit depth tables head effect).unlined := by
  cases effect with
  | enter body again =>
    simp only [carryOut, Effect.unlined]
    by_cases room : depth < limit
    · have passes : ∀ tables : Tables,
          times (again + 1) (fun tables => evaluate limit (depth + 1) tables (Program.unlined body))
              tables.unlined =
            (times (again + 1) (fun tables => evaluate limit (depth + 1) tables body) tables).unlined :=
        unlined_times (fun tables => deeper room tables body) (again + 1)
      rw [if_pos room, if_pos room, unlined_tagged, unlined_andThen _ passes]
      exact tagged_zero _
    · rw [if_neg room, if_neg room]
      simp only [stopped, unlined, Option.map_some, Diagnostic.unlined_withLine]
      simp only [Token.unlined, Diagnostic.withLine_zero, Diagnostic.unlined]
  | define name body =>
    rw [carryOut_of_plain rfl, carryOut_of_plain rfl, update_unlined]
    rfl
  | nothing | draw | assign => rfl

/-- Forgetting the lines of a program and of the procedures it starts with changes nothing but
lines: the evaluator gives the same instructions, takes as many steps, leaves the same tables up to
lines, and fails with the same cause or not at all. -/
theorem evaluate_unlined (limit depth : Nat) (tables : Tables) (p : Program) :
    evaluate limit depth tables.unlined (Program.unlined p) =
      (evaluate limit depth tables p).unlined := by
  -- The outer induction is on the levels that may still be opened, the inner one on the tokens.
  induction room : limit - depth using Nat.strongRecOn generalizing depth tables p with
  | ind levels deeper =>
    have inside : depth < limit → ∀ (tables : Tables) (body : Program),
        evaluate limit (depth + 1) tables.unlined (Program.unlined body) =
          (evaluate limit (depth + 1) tables body).unlined := by
      intro below tables body
      exact deeper (limit - (depth + 1)) (by omega) (depth + 1) tables body rfl
    induction size : p.length using Nat.strongRecOn generalizing p tables with
    | ind n shorter =>
      cases p with
      | nil => rw [Program.unlined_nil, evaluate_nil, evaluate_nil]; rfl
      | cons head rest =>
        have unlinedHead := interpret_unlined tables head rest
        rw [Program.unlined_cons]
        cases interpreted : interpret tables head rest with
        | error d =>
          rw [interpreted, unlinedResult] at unlinedHead
          rw [evaluate_of_error interpreted, evaluate_of_error unlinedHead]
          simp only [stopped, unlined, Option.map_some, Diagnostic.unlined_withLine]
          simp only [Token.unlined, Diagnostic.withLine_zero]
        | ok taken =>
          obtain ⟨effect, after⟩ := taken
          rw [interpreted, unlinedResult, unlinedPair] at unlinedHead
          have smaller : after.length < n := by
            have := interpret_length interpreted
            simp only [List.length_cons] at size
            omega
          rw [evaluate_of_ok interpreted, evaluate_of_ok unlinedHead,
            carryOut_unlined tables head effect inside]
          refine (unlined_andThen _ ?_).symm
          intro tables
          exact shorter after.length smaller tables after rfl

end Machine

end TurtleLogo
