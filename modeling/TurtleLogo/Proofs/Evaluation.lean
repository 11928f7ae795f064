import TurtleLogo.Proofs.Interpretation
import TurtleLogo.Proofs.Termination

/-!
# The recursive evaluator

`evaluate` says what a program means without a stack: heads are carried out one after another, and
a block or a procedure body is evaluated one level deeper, as often as it is to run, before the
tokens behind it. `resume` gives a meaning to a stack of frames that are only half run, by closing
them one after another from the innermost outwards. No step of a machine changes what its stack
still means, so a machine stepped to its end does what the evaluator says.
-/

set_option autoImplicit false

namespace TurtleLogo

/-- What evaluating some part of a program comes to: the tables it leaves, the instructions it gave
in order, the number of heads it carried out, and the diagnostic that stopped it, if one did. -/
structure Outcome where
  tables : Tables
  instructions : List Instruction
  steps : Nat
  fault : Option Diagnostic

namespace Outcome

def finished (tables : Tables) : Outcome :=
  ⟨tables, [], 0, none⟩

def moved (tables : Tables) (i : Option Instruction) : Outcome :=
  ⟨tables, i.toList, 1, none⟩

def stopped (tables : Tables) (d : Diagnostic) : Outcome :=
  ⟨tables, [], 1, some d⟩

def andThen (first : Outcome) (next : Tables → Outcome) : Outcome :=
  match first.fault with
  | some _ => first
  | none =>
    let second := next first.tables
    ⟨second.tables, first.instructions ++ second.instructions, first.steps + second.steps,
      second.fault⟩

def tagged (o : Outcome) (line : Int) : Outcome :=
  { o with fault := o.fault.map fun d => d.withLine line }

def times : Nat → (Tables → Outcome) → Tables → Outcome
  | 0, _, tables => finished tables
  | n + 1, once, tables => (once tables).andThen (times n once)

theorem andThen_of_failed {o : Outcome} {d : Diagnostic} (failed : o.fault = some d)
    (next : Tables → Outcome) : o.andThen next = o := by
  simp [andThen, failed]

@[simp] theorem finished_andThen (tables : Tables) (next : Tables → Outcome) :
    (finished tables).andThen next = next tables := by
  simp [andThen, finished]

@[simp] theorem andThen_finished (o : Outcome) : o.andThen finished = o := by
  obtain ⟨tables, instructions, steps, fault⟩ := o
  cases fault <;> simp [andThen, finished]

theorem andThen_assoc (o : Outcome) (f g : Tables → Outcome) :
    (o.andThen f).andThen g = o.andThen fun tables => (f tables).andThen g := by
  obtain ⟨tables, instructions, steps, fault⟩ := o
  cases fault with
  | some d => rfl
  | none =>
    cases second : (f tables).fault with
    | some d => simp [andThen, second]
    | none => simp [andThen, second, Nat.add_assoc]

theorem andThen_done {o : Outcome} {next : Tables → Outcome} :
    (o.andThen next).fault = none ↔ o.fault = none ∧ (next o.tables).fault = none := by
  cases fault : o.fault <;> simp [andThen, fault]

theorem andThen_congr {o : Outcome} {f g : Tables → Outcome} (same : f o.tables = g o.tables) :
    o.andThen f = o.andThen g := by
  simp only [andThen, same]

theorem andThen_of_eq {tables : Tables} {is : List Instruction} {steps : Nat}
    {next : Tables → Outcome} {second : Outcome} (eq : next tables = second) :
    andThen ⟨tables, is, steps, none⟩ next = andThen ⟨tables, is, steps, none⟩ fun _ => second := by
  simp only [andThen, eq]

/-- What comes after a success fails as it would have failed alone. -/
theorem tagged_andThen {o : Outcome} (done : o.fault = none) (next : Tables → Outcome)
    (line : Int) : (o.andThen next).tagged line = o.andThen fun tables => (next tables).tagged line := by
  obtain ⟨tables, instructions, steps, fault⟩ := o
  simp only at done
  subst done
  rfl

@[simp] theorem tagged_of_done {o : Outcome} (done : o.fault = none) (line : Int) :
    o.tagged line = o := by
  obtain ⟨tables, instructions, steps, fault⟩ := o
  simp only at done
  subst done
  rfl

end Outcome

@[simp] theorem Diagnostic.withLine_line (cause : Cause) (line : Int) :
    withLine ⟨cause, line⟩ line = ⟨cause, line⟩ := by
  simp [withLine]

namespace Machine

open Outcome

/-- Evaluates a program at the given depth, where at most `limit` levels may be open. A loop over a
block and the call of a procedure both enter a body: it is evaluated one level deeper, `again` times
after the first, and a failure in it takes the line of the head that entered it. -/
def evaluate (limit depth : Nat) (tables : Tables) (p : Program) : Outcome :=
  match p with
  | [] => finished tables
  | head :: rest =>
    match _interpreted : interpret tables head rest with
    | .error d => stopped tables (d.withLine head.line)
    | .ok (effect, after) =>
      (match effect with
      | .nothing => moved tables none
      | .draw i => moved tables (some i)
      | .assign name x => moved { tables with values := tables.values.set name x } none
      | .define name body => moved { tables with procedures := tables.procedures.set name body } none
      | .enter body again =>
        if room : depth < limit then
          ((moved tables none).andThen
            (times (again + 1) fun tables => evaluate limit (depth + 1) tables body)).tagged head.line
        else stopped tables (Diagnostic.withLine ⟨.tooDeep limit, head.line⟩ head.line)).andThen
      fun tables => evaluate limit depth tables after
termination_by (limit - depth, p.length)
decreasing_by
  · exact Prod.Lex.left _ _ (by omega)
  · have shorter := interpret_length _interpreted
    exact Prod.Lex.right _ (by simp only [List.length_cons]; omega)

def carryOut (limit depth : Nat) (tables : Tables) (head : Token) : Effect → Outcome
  | .enter body again =>
    if depth < limit then
      ((moved tables none).andThen
        (times (again + 1) fun tables => evaluate limit (depth + 1) tables body)).tagged head.line
    else stopped tables (Diagnostic.withLine ⟨.tooDeep limit, head.line⟩ head.line)
  | effect => moved (effect.update tables) effect.instruction?

section Equations

variable {limit depth : Nat} {tables : Tables} {head : Token} {rest after : Program}
  {effect : Effect}

@[simp] theorem evaluate_nil : evaluate limit depth tables [] = finished tables := by
  rw [evaluate]

theorem evaluate_of_error {d : Diagnostic} (interpreted : interpret tables head rest = .error d) :
    evaluate limit depth tables (head :: rest) = stopped tables (d.withLine head.line) := by
  rw [evaluate]
  split
  · rename_i d' interpreted'
    rw [interpreted] at interpreted'
    cases interpreted'
    rfl
  · rename_i effect after interpreted'
    rw [interpreted] at interpreted'
    cases interpreted'

theorem evaluate_of_ok (interpreted : interpret tables head rest = .ok (effect, after)) :
    evaluate limit depth tables (head :: rest) =
      (carryOut limit depth tables head effect).andThen
        fun tables => evaluate limit depth tables after := by
  rw [evaluate]
  split
  · rename_i d interpreted'
    rw [interpreted] at interpreted'
    cases interpreted'
  · rename_i effect' after' interpreted'
    rw [interpreted] at interpreted'
    cases interpreted'
    cases effect <;> rfl

theorem carryOut_of_plain (plain : effect.opens = false) :
    carryOut limit depth tables head effect =
      moved (effect.update tables) effect.instruction? := by
  cases effect with
  | enter body again => simp [Effect.opens] at plain
  | nothing | draw | assign | define => rfl

/-- A loop with a positive count over a block that is not empty evaluates the block that often, one
level deeper, and goes on behind it. -/
theorem evaluate_loop {t : Token} {tokens body : Program} {v : Value} {count : Int}
    (command : head.command? = some .loop) (value : tables.evaluate t = .ok v)
    (counts : v.int? = some count) (found : Program.block? tokens = some (body, after))
    (positive : 0 < count) (filled : body ≠ []) :
    evaluate limit depth tables (head :: t :: tokens) =
      (if depth < limit then
        ((moved tables none).andThen
          (times count.toNat fun tables => evaluate limit (depth + 1) tables body)).tagged head.line
      else stopped tables ⟨.tooDeep limit, head.line⟩).andThen
        fun tables => evaluate limit depth tables after := by
  have busy : ¬(count ≤ 0 ∨ body = []) := by
    rintro (idle | empty)
    · omega
    · exact filled empty
  have passes : count.toNat - 1 + 1 = count.toNat := by omega
  rw [evaluate_of_ok (interpret_of_interpreted (.loop command value counts found busy)), carryOut,
    passes, Diagnostic.withLine_line]

/-- A call evaluates the body that its name has at that moment, one level deeper, and goes on behind
the name. -/
theorem evaluate_call {body : Program} (unreserved : head.command? = none)
    (known : tables.procedures.get? (Text.upper head.text) = some body) :
    evaluate limit depth tables (head :: rest) =
      (if depth < limit then
        ((moved tables none).andThen
          fun tables => evaluate limit (depth + 1) tables body).tagged head.line
      else stopped tables ⟨.tooDeep limit, head.line⟩).andThen
        fun tables => evaluate limit depth tables rest := by
  rw [evaluate_of_ok (interpret_of_interpreted (.call unreserved known)), carryOut,
    Diagnostic.withLine_line]
  simp only [times, Outcome.andThen_finished]

end Equations

/-! ## Programs in sequence -/

/-- A program that succeeds has the same meaning in front of another one. -/
theorem evaluate_append {limit depth : Nat} {tables : Tables} {p : Program}
    (done : (evaluate limit depth tables p).fault = none) (q : Program) :
    evaluate limit depth tables (p ++ q) =
      (evaluate limit depth tables p).andThen fun tables => evaluate limit depth tables q := by
  -- A head may take any number of tokens, so the induction is on their number.
  induction size : p.length using Nat.strongRecOn generalizing p tables with
  | ind n ih =>
    cases p with
    | nil => rw [List.nil_append, evaluate_nil, finished_andThen]
    | cons head rest =>
      rw [List.cons_append]
      cases interpreted : interpret tables head rest with
      | error d => simp [evaluate_of_error interpreted, stopped] at done
      | ok taken =>
        obtain ⟨effect, after⟩ := taken
        have further := interpret_of_interpreted ((interpreted_of_interpret interpreted).append q)
        have shorter := interpret_length interpreted
        rw [evaluate_of_ok interpreted] at done ⊢
        rw [evaluate_of_ok further, andThen_assoc]
        obtain ⟨_, later⟩ := andThen_done.mp done
        have smaller : after.length < n := by
          simp only [List.length_cons] at size
          omega
        exact andThen_congr (ih after.length smaller later rfl)

/-! ## The meaning of a stack -/

/-- What a frame has still to do at the given depth: the rest of this pass, and the passes left. -/
def remainder (limit depth : Nat) (f : Frame) (tables : Tables) : Outcome :=
  (evaluate limit depth tables f.rest).andThen
    (times f.again fun tables => evaluate limit depth tables f.body)

/-- What follows an outcome inside the innermost of some frames: each of them does what it has still
to do, and gives a failure the line it was opened on. -/
def resume (limit : Nat) : Outcome → List Frame → Outcome
  | o, [] => o
  | o, f :: outer =>
    resume limit ((o.andThen (remainder limit (outer.length + 1) f)).tagged f.opened) outer

theorem resume_of_failed {limit : Nat} {o : Outcome} {d : Diagnostic} (failed : o.fault = some d)
    (frames : List Frame) :
    resume limit o frames =
      { o with fault := some (frames.foldl (fun d f => d.withLine f.opened) d) } := by
  induction frames generalizing o d with
  | nil =>
    rw [resume, List.foldl_nil, ← failed]
  | cons f outer ih =>
    rw [resume, andThen_of_failed failed]
    have failed' : (o.tagged f.opened).fault = some (d.withLine f.opened) := by
      simp [Outcome.tagged, failed]
    rw [ih failed', List.foldl_cons]
    rfl

/-- A turn of the search for the next head does not change what a stack means. -/
theorem resume_of_turn {limit : Nat} {o : Outcome} {frames frames' : List Frame}
    (done : o.fault = none) (turn : turn? frames = some frames') :
    resume limit o frames = resume limit o frames' := by
  cases frames with
  | nil => cases turn
  | cons f outer =>
    obtain ⟨body, rest, again, opened⟩ := f
    cases rest with
    | cons head tail => cases turn
    | nil =>
      cases again with
      | zero =>
        have idle : remainder limit (outer.length + 1) ⟨body, [], 0, opened⟩ = finished := by
          funext tables
          rw [remainder, evaluate_nil, finished_andThen, times]
        rw [resume, idle, andThen_finished, tagged_of_done done]
        cases turn
        rfl
      | succ again =>
        have exhausted : remainder limit (outer.length + 1) ⟨body, [], again + 1, opened⟩ =
            remainder limit (outer.length + 1) ⟨body, body, again, opened⟩ := by
          funext tables
          simp only [remainder, evaluate_nil, finished_andThen, times]
        rw [resume, exhausted]
        cases turn
        rfl

/-- Nor does the whole search. -/
theorem resume_settled {limit : Nat} {o : Outcome} (done : o.fault = none) (frames : List Frame) :
    resume limit o frames = resume limit o (settled frames) := by
  obtain ⟨j, turns⟩ := exists_turns_settled frames
  generalize settled frames = front at turns
  induction turns with
  | zero frames => rfl
  | succ turn later ih => rw [resume_of_turn done turn, ih]

section Heads

variable {limit depth : Nat} {tables : Tables} {head : Token} {rest after : Program}

/-- A head that fails stops everything; the failure passes through all frames. -/
theorem resume_of_stopped {d : Diagnostic} {f : Frame} {outer : List Frame}
    (failed : evaluate limit (outer.length + 1) tables (head :: rest) = stopped tables d)
    (is : List Instruction) (steps : Nat) :
    resume limit ⟨tables, is, steps, none⟩ ({ f with rest := head :: rest } :: outer) =
      ⟨tables, is, steps + 1, some ((f :: outer).foldl (fun d f => d.withLine f.opened) d)⟩ := by
  have stops : remainder limit (outer.length + 1) { f with rest := head :: rest } tables =
      stopped tables d := by
    simp only [remainder, failed]
    exact andThen_of_failed rfl _
  rw [resume, andThen_of_eq stops, resume_of_failed rfl]
  simp [andThen, Outcome.tagged, stopped]

theorem remainder_of_plain {effect : Effect} (f : Frame)
    (interpreted : interpret tables head rest = .ok (effect, after))
    (plain : effect.opens = false) :
    remainder limit depth { f with rest := head :: rest } tables =
      (moved (effect.update tables) effect.instruction?).andThen
        (remainder limit depth { f with rest := after }) := by
  simp only [remainder, evaluate_of_ok interpreted, carryOut_of_plain plain, andThen_assoc]
  rfl

theorem remainder_of_enter {body : Program} {again : Nat} (f : Frame)
    (interpreted : interpret tables head rest = .ok (.enter body again, after))
    (room : depth < limit) :
    remainder limit depth { f with rest := head :: rest } tables =
      (((moved tables none).andThen
        (remainder limit (depth + 1) (Frame.start body again head.line))).tagged head.line).andThen
        (remainder limit depth { f with rest := after }) := by
  simp only [remainder, evaluate_of_ok interpreted, carryOut, if_pos room, andThen_assoc]
  rfl

end Heads

/-! ## The machine follows the evaluator -/

/-- A step that moves does not change what is still to come, apart from what it did itself. -/
theorem resume_of_moved {m m' : Machine} {i : Option Instruction} (step : m.step = (.moved i, m'))
    (is : List Instruction) :
    resume m.limit ⟨m.tables, is, m.steps, none⟩ m.frames =
      resume m.limit ⟨m'.tables, is ++ i.toList, m'.steps, none⟩ m'.frames := by
  rw [resume_settled rfl]
  cases stepped_of_step step with
  | @opened head rest after body f outer again found interpreted room =>
    rw [settled_of_found found]
    simp only [Focus.stack, resume, List.length_cons]
    congr 2
    rw [andThen_of_eq (remainder_of_enter f interpreted room), ← andThen_assoc,
      ← tagged_andThen rfl, ← andThen_assoc]
    rfl
  | @carriedOut head rest after f outer effect found interpreted plain =>
    rw [settled_of_found found]
    simp only [Focus.stack, resume]
    congr 2
    rw [andThen_of_eq (remainder_of_plain f interpreted plain), ← andThen_assoc]
    rfl

theorem resume_of_ending {m m' : Machine} {fault : Option Diagnostic}
    (step : m.step = (.ending fault, m')) (is : List Instruction) :
    resume m.limit ⟨m.tables, is, m.steps, none⟩ m.frames = ⟨m'.tables, is, m'.steps, fault⟩ := by
  rw [resume_settled rfl]
  cases fault with
  | none =>
    cases stepped_of_step step with
    | ended exhausted =>
      rw [settled, exhausted]
      rfl
  | some d =>
    cases stepped_of_step step with
    | refused found interpreted =>
      rw [settled_of_found found]
      exact resume_of_stopped (evaluate_of_error interpreted) is m.steps
    | @blocked head rest after body f outer again found interpreted full =>
      have deep : evaluate m.limit (outer.length + 1) m.tables (head :: rest) =
          stopped m.tables (Diagnostic.withLine ⟨.tooDeep m.limit, head.line⟩ head.line) := by
        rw [evaluate_of_ok interpreted, carryOut, if_neg (Nat.not_lt_of_le full)]
        exact andThen_of_failed rfl _
      rw [settled_of_found found]
      exact resume_of_stopped deep is m.steps

theorem stepped_maxDepth {m m' : Machine} {progress : Progress} (stepped : Stepped m progress m') :
    m'.maxDepth = m.maxDepth := by
  cases stepped <;> rfl

theorem frames_of_ending {m m' : Machine} {fault : Option Diagnostic}
    (step : m.step = (.ending fault, m')) : m'.frames = [] := by
  cases fault with
  | none => cases stepped_of_step step; rfl
  | some d => cases stepped_of_step step <;> rfl

/-- Stepping a machine to its end does what its stack means. -/
theorem resume_of_ends {m final : Machine} {k : Nat} {is : List Instruction}
    {fault : Option Diagnostic} (ends : m.Ends k is fault final) (before : List Instruction) :
    resume m.limit ⟨m.tables, before, m.steps, none⟩ m.frames =
        ⟨final.tables, before ++ is, final.steps, fault⟩ ∧
      final.frames = [] ∧ final.maxDepth = m.maxDepth := by
  obtain ⟨last, moves, ending⟩ := ends
  induction moves generalizing before with
  | zero m =>
    refine ⟨?_, frames_of_ending ending, stepped_maxDepth (stepped_of_step ending)⟩
    rw [resume_of_ending ending, List.append_nil]
  | @succ m middle last i k is step later ih =>
    obtain ⟨meaning, closed, depth⟩ := ih (before ++ i.toList) ending
    refine ⟨?_, closed, depth.trans (stepped_maxDepth (stepped_of_step step))⟩
    rw [resume_of_moved step, ← step_limit step, meaning, List.append_assoc]

theorem load_of_balanced (m : Machine) {p : Program} (balanced : p.fault? = none) :
    m.load p =
      .ok { m with frames := if p.isEmpty then [] else [Frame.start p 0 0], steps := 0 } := by
  rw [load, balanced]

theorem balanced_of_load {m loaded : Machine} {p : Program} (load : m.load p = .ok loaded) :
    p.fault? = none := by
  unfold Machine.load at load
  split at load
  · cases load
  · assumption

theorem eq_of_load {m loaded : Machine} {p : Program} (load : m.load p = .ok loaded) :
    loaded = { m with frames := if p.isEmpty then [] else [Frame.start p 0 0], steps := 0 } :=
  Except.ok.inj (load.symm.trans (load_of_balanced m (balanced_of_load load)))

theorem run_of_fault {m : Machine} {src : Text} {d : Diagnostic}
    (fault : Program.fault? (Token.scan src) = some d) (waits : Waits) :
    m.run src waits = ⟨m, [], 0, some (.diagnosed d)⟩ := by
  have refused : m.load (Token.scan src) = .error d := by rw [load, fault]
  exact runProgram_refused refused waits

theorem resume_loaded (limit : Nat) (tables : Tables) (p : Program) :
    resume limit (finished tables) (if p.isEmpty then [] else [Frame.start p 0 0]) =
      evaluate limit 1 tables p := by
  cases p with
  | nil => simp [resume]
  | cons head rest =>
    have untagged : ∀ o : Outcome, o.tagged 0 = o := by
      intro o
      obtain ⟨tables, instructions, steps, fault⟩ := o
      cases fault <;> simp [Outcome.tagged, Diagnostic.withLine]
    simp [resume, Frame.start, remainder, times, untagged]

def left (m : Machine) (o : Outcome) : Machine :=
  ⟨o.tables, [], o.steps, m.maxDepth⟩

/-- A loaded machine, stepped to its end, does what the evaluator says. -/
theorem ends_evaluate {m loaded : Machine} {p : Program} (load : m.load p = .ok loaded) :
    ∃ k, loaded.Ends k (evaluate m.limit 1 m.tables p).instructions
      (evaluate m.limit 1 m.tables p).fault (m.left (evaluate m.limit 1 m.tables p)) := by
  obtain ⟨k, is, fault, final, ends⟩ := exists_ends (load_within load)
  obtain rfl := eq_of_load load
  obtain ⟨meaning, closed, depth⟩ := resume_of_ends ends []
  have evaluated : evaluate m.limit 1 m.tables p = ⟨final.tables, is, final.steps, fault⟩ := by
    rw [← resume_loaded]
    exact meaning
  have finalEq : m.left (evaluate m.limit 1 m.tables p) = final := by
    rw [evaluated, left, ← closed]
    cases final
    simp only at depth
    rw [depth]
  rw [finalEq, evaluated]
  exact ⟨k, ends⟩

/-- The machine is a faithful account of the evaluator: every program whose brackets are balanced
loads, and stepping it to its end gives the instructions, the tables, the number of heads and the
diagnostic that evaluating it at the first level gives. So does a run whose waits all go well. -/
theorem machine_refines_evaluate (m : Machine) (p : Program) (balanced : p.fault? = none) :
    let o := evaluate m.limit 1 m.tables p
    ∃ loaded k, m.load p = .ok loaded ∧ loaded.Ends k o.instructions o.fault (m.left o) ∧
      m.runProgram p Waits.never = ⟨m.left o, o.instructions, k, o.fault.map .diagnosed⟩ := by
  intro o
  have load := load_of_balanced m balanced
  obtain ⟨k, ends⟩ := ends_evaluate load
  exact ⟨_, k, load, ends, runProgram_never load ends⟩

/-- A procedure that redefines itself inside a loop. -/
theorem machine_refines_evaluate_redefinition :
    let p : Program := [⟨.word, utf8 "REPEAT", 1⟩, ⟨.number, utf8 "2", 1⟩, ⟨.opening, utf8 "[", 1⟩,
      ⟨.word, utf8 "DEF", 2⟩, ⟨.word, utf8 "A", 2⟩, ⟨.word, utf8 "DEF", 3⟩, ⟨.word, utf8 "A", 3⟩,
      ⟨.word, utf8 "PU", 3⟩, ⟨.word, utf8 "END", 3⟩, ⟨.word, utf8 "A", 4⟩, ⟨.word, utf8 "END", 4⟩,
      ⟨.word, utf8 "A", 5⟩, ⟨.closing, utf8 "]", 5⟩]
    let o := evaluate 3 1 .empty p
    p.fault? = none ∧ ∃ loaded k, (fresh 3).load p = .ok loaded ∧
      loaded.Ends k o.instructions o.fault ((fresh 3).left o) ∧
      (fresh 3).runProgram p Waits.never =
        ⟨(fresh 3).left o, o.instructions, k, o.fault.map .diagnosed⟩ :=
  ⟨rfl, machine_refines_evaluate (fresh 3) _ rfl⟩

end Machine

end TurtleLogo
