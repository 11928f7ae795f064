import TurtleLogo.Command
import TurtleLogo.Proofs.Extents

/-!
# What a head takes and does

`Interpreted` lists the ways in which a head can succeed: which tokens it takes as its arguments,
what it does, and which tokens it leaves. A head that succeeds looks no further than what it takes,
so more tokens behind it make no difference. `Refused` lists the ways in which a head can fail.
-/

set_option autoImplicit false

namespace TurtleLogo

def Token.command? (t : Token) : Option Command :=
  Command.named? (Text.upper t.text)

namespace Command

def motion? : Command → Option (Float → Instruction)
  | .forward => some fun x => .advance x
  | .back => some fun x => .advance (-x)
  | .right => some fun x => .turn x .clockwise
  | .left => some fun x => .turn x .counterClockwise
  | _ => none

def bare? : Command → Option Effect
  | .penUp => some (.draw (.pen false))
  | .penDown => some (.draw (.pen true))
  | .clear => some (.draw .reset)
  | .nothing => some .nothing
  | _ => none

end Command

/-- `Interpreted tables head rest effect after`: in front of `rest` the head has this effect, and
leaves the tokens `after`. -/
inductive Interpreted (tables : Tables) (head : Token) : Program → Effect → Program → Prop
  | assignment {name t : Token} {after : Program} {x : Float}
      (command : head.command? = some .makeVariable)
      (number : numberArgument tables (utf8 "VAR") t = .ok x) :
      Interpreted tables head (name :: t :: after) (.assign name.text x) after
  | definition {name : Token} {tokens body after : Program}
      (command : head.command? = some .define)
      (found : Program.definition? tokens = some (body, after)) :
      Interpreted tables head (name :: tokens) (.define (Text.upper name.text) body) after
  | noLoop {t : Token} {tokens body after : Program} {v : Value} {count : Int}
      (command : head.command? = some .loop) (value : tables.evaluate t = .ok v)
      (counts : v.int? = some count) (found : Program.block? tokens = some (body, after))
      (idle : count ≤ 0 ∨ body = []) : Interpreted tables head (t :: tokens) .nothing after
  | loop {t : Token} {tokens body after : Program} {v : Value} {count : Int}
      (command : head.command? = some .loop) (value : tables.evaluate t = .ok v)
      (counts : v.int? = some count) (found : Program.block? tokens = some (body, after))
      (busy : ¬(count ≤ 0 ∨ body = [])) :
      Interpreted tables head (t :: tokens) (.enter body (count.toNat - 1)) after
  | motion {command : Command} {instruction : Float → Instruction} {t : Token} {after : Program}
      {x : Float} (named : head.command? = some command)
      (moves : command.motion? = some instruction)
      (number : numberArgument tables (Text.upper head.text) t = .ok x) :
      Interpreted tables head (t :: after) (.draw (instruction x)) after
  | color {t : Token} {after : Program} (command : head.command? = some .setColor) :
      Interpreted tables head (t :: after) (.draw (.color t.text)) after
  | bare {command : Command} {effect : Effect} {after : Program}
      (named : head.command? = some command) (acts : command.bare? = some effect) :
      Interpreted tables head after effect after
  | call {body after : Program} (named : head.command? = none)
      (known : tables.procedures.get? (Text.upper head.text) = some body) :
      Interpreted tables head after (.enter body 0) after

section Inversion

variable {tables : Tables} {head : Token} {rest after : Program} {effect : Effect}

theorem interpreted_of_withNumber {command : Command} {instruction : Float → Instruction}
    {what : Text} (named : head.command? = some command)
    (moves : command.motion? = some instruction)
    (done : withNumber tables head.line (Text.upper head.text) what rest
      (fun x => .draw (instruction x)) = .ok (effect, after)) :
    Interpreted tables head rest effect after := by
  cases rest with
  | nil => cases done
  | cons t tail =>
    simp only [withNumber, argument] at done
    cases number : numberArgument tables (Text.upper head.text) t with
    | error d => simp [number] at done
    | ok x =>
      simp only [number] at done
      cases done
      exact .motion named moves number

theorem interpreted_of_variable (named : head.command? = some .makeVariable)
    (done : interpretVariable tables head.line rest = .ok (effect, after)) :
    Interpreted tables head rest effect after := by
  cases rest with
  | nil => cases done
  | cons name tail =>
    cases tail with
    | nil => cases done
    | cons t tail =>
      simp only [interpretVariable, argument] at done
      cases number : numberArgument tables (utf8 "VAR") t with
      | error d => simp [number] at done
      | ok x =>
        simp only [number] at done
        cases done
        exact .assignment named number

theorem interpreted_of_definition (named : head.command? = some .define)
    (done : interpretDefinition head.line rest = .ok (effect, after)) :
    Interpreted tables head rest effect after := by
  cases rest with
  | nil => cases done
  | cons name tail =>
    simp only [interpretDefinition, argument] at done
    cases found : Program.definition? tail with
    | none => simp [found] at done
    | some extent =>
      simp only [found] at done
      cases done
      exact .definition named found

theorem interpreted_of_loop (named : head.command? = some .loop)
    (done : interpretLoop tables head.line rest = .ok (effect, after)) :
    Interpreted tables head rest effect after := by
  cases rest with
  | nil => cases done
  | cons t tail =>
    simp only [interpretLoop, argument] at done
    cases value : tables.evaluate t with
    | error d => simp [value] at done
    | ok v =>
      cases counts : v.int? with
      | none => simp [value, counts] at done
      | some count =>
        cases found : Program.block? tail with
        | none => simp [value, counts, found] at done
        | some extent =>
          simp only [value, counts, found] at done
          split at done
          · rename_i idle
            cases done
            exact .noLoop named value counts found idle
          · rename_i busy
            cases done
            exact .loop named value counts found busy

theorem interpreted_of_color (named : head.command? = some .setColor)
    (done : interpretCommand tables .setColor (Text.upper head.text) head.line rest =
      .ok (effect, after)) :
    Interpreted tables head rest effect after := by
  cases rest with
  | nil => cases done
  | cons t tail =>
    cases done
    exact .color named

theorem interpreted_of_interpret (done : interpret tables head rest = .ok (effect, after)) :
    Interpreted tables head rest effect after := by
  rw [interpret] at done
  cases named : head.command? with
  | none =>
    have unnamed : Command.named? (Text.upper head.text) = none := named
    simp only [unnamed] at done
    split at done
    · rename_i body known
      cases done
      exact .call named known
    · cases done
  | some command =>
    have builtIn : Command.named? (Text.upper head.text) = some command := named
    simp only [builtIn] at done
    cases command with
    | makeVariable => exact interpreted_of_variable named done
    | define => exact interpreted_of_definition named done
    | loop => exact interpreted_of_loop named done
    | forward | back | right | left => exact interpreted_of_withNumber named rfl done
    | setColor => exact interpreted_of_color named done
    | penUp | penDown | clear | nothing =>
      cases done
      exact .bare named rfl

theorem interpret_of_interpreted (done : Interpreted tables head rest effect after) :
    interpret tables head rest = .ok (effect, after) := by
  unfold interpret
  cases done with
  | assignment command number =>
    rw [Token.command?] at command
    simp [command, interpretCommand, interpretVariable, argument, number]
  | definition command found =>
    rw [Token.command?] at command
    simp [command, interpretCommand, interpretDefinition, argument, found]
  | noLoop command value counts found idle =>
    rw [Token.command?] at command
    simp [command, interpretCommand, interpretLoop, argument, value, counts, found, idle]
  | loop command value counts found busy =>
    rw [Token.command?] at command
    simp only [command, interpretCommand, interpretLoop, argument, value, counts, found]
    rw [if_neg busy]
  | motion named moves number =>
    rename_i command _ _ _
    rw [Token.command?] at named
    simp only [named]
    cases command <;> cases moves <;> simp [interpretCommand, withNumber, argument, number]
  | color command =>
    rw [Token.command?] at command
    simp [command, interpretCommand, argument]
  | bare named acts =>
    rename_i command
    rw [Token.command?] at named
    simp only [named]
    cases command <;> cases acts <;> rfl
  | call named known =>
    rw [Token.command?] at named
    simp [named, known]

end Inversion

/-- The tokens that a head leaves are the last ones of those behind it. -/
theorem Interpreted.after_ends {tables : Tables} {head : Token} {rest after : Program}
    {effect : Effect} (done : Interpreted tables head rest effect after) : after <:+ rest := by
  cases done with
  | assignment => exact ⟨[_, _], rfl⟩
  | definition command found =>
    exact (Program.definition?_ends found).trans (List.suffix_cons _ _)
  | noLoop command value counts found _ | loop command value counts found _ =>
    exact (Program.block?_ends found).trans (List.suffix_cons _ _)
  | motion | color => exact ⟨[_], rfl⟩
  | bare | call => exact List.suffix_refl _

def Effect.body? : Effect → Option Program
  | .enter body _ => some body
  | .define _ body => some body
  | _ => none

/-- The body that a head opens or keeps is a contiguous part of the tokens behind it, unless the head
calls a procedure, which has its body in the table. -/
theorem Interpreted.body_source {tables : Tables} {head : Token} {rest after body : Program}
    {effect : Effect} (done : Interpreted tables head rest effect after)
    (has : effect.body? = some body) :
    body <:+: rest ∨ ∃ name, tables.procedures.get? name = some body := by
  cases done with
  | assignment | noLoop | motion | color => cases has
  | definition command found =>
    rename_i name _ _
    cases has
    obtain ⟨close, shape⟩ := Program.definition?_shape found
    refine .inl ⟨[name], close :: after, ?_⟩
    rw [shape, List.append_assoc]
    rfl
  | loop command value counts found busy =>
    rename_i t _ _ _ _
    cases has
    obtain ⟨opening, close, shape⟩ := Program.block?_shape found
    refine .inl ⟨[t, opening], close :: after, ?_⟩
    rw [shape, List.append_assoc]
    rfl
  | bare named acts =>
    rename_i command
    cases command <;> cases acts <;> cases has
  | call named known =>
    cases has
    exact .inr ⟨_, known⟩

/-- A head that succeeds does the same in front of more tokens. -/
theorem Interpreted.append {tables : Tables} {head : Token} {rest after : Program} {effect : Effect}
    (done : Interpreted tables head rest effect after) (more : Program) :
    Interpreted tables head (rest ++ more) effect (after ++ more) := by
  cases done with
  | assignment command number => exact .assignment command number
  | definition command found => exact .definition command (Program.definition?_append found more)
  | noLoop command value counts found idle =>
    exact .noLoop command value counts (Program.block?_append found more) idle
  | loop command value counts found busy =>
    exact .loop command value counts (Program.block?_append found more) busy
  | motion named moves number => exact .motion named moves number
  | color command => exact .color command
  | bare named acts => exact .bare named acts
  | call named known => exact .call named known

/-! ## What a head fails with -/

/-- The number of argument tokens that a command takes, not counting its block or body. -/
def Command.arity : Command → Nat
  | .makeVariable => 2
  | .define | .loop | .forward | .back | .right | .left | .setColor => 1
  | .penUp | .penDown | .clear | .nothing => 0

def Token.arguments (head : Token) (rest : Program) : Program :=
  rest.take ((head.command?.map Command.arity).getD 0)

/-- `Refused tables head rest d`: the ways in which a head in front of `rest` can fail. Where it is an
argument that does not do, the diagnostic has the line of the argument, and else that of the head. -/
inductive Refused (tables : Tables) (head : Token) : Program → Diagnostic → Prop
  | missing {rest : Program} (what : Text) :
      Refused tables head rest ⟨.missingArgument what, head.line⟩
  | unknownVariable {rest : Program} {t : Token} (argument : t ∈ head.arguments rest) (name : Text) :
      Refused tables head rest ⟨.unknownVariable name, t.line⟩
  | notANumber {rest : Program} {t : Token} (argument : t ∈ head.arguments rest) (command : Text) :
      Refused tables head rest ⟨.notANumber command t.text, t.line⟩
  | missingEnd {name : Token} {tokens : Program} (command : head.command? = some .define)
      (unended : Program.definition? tokens = none) :
      Refused tables head (name :: tokens) ⟨.missingEnd (Text.upper name.text), head.line⟩
  | loopWithoutBlock {t : Token} {tokens : Program} (command : head.command? = some .loop)
      (bare : Program.startsBlock tokens = false) :
      Refused tables head (t :: tokens) ⟨.loopWithoutBlock, head.line⟩
  | unclosedLoop {t : Token} {tokens : Program} (command : head.command? = some .loop)
      (starts : Program.startsBlock tokens = true) (unclosed : Program.block? tokens = none) :
      Refused tables head (t :: tokens) ⟨.unclosedLoop, head.line⟩
  | unknownCommand {rest : Program} (named : head.command? = none)
      (unknown : tables.procedures.get? (Text.upper head.text) = none) :
      Refused tables head rest ⟨.unknownCommand head.text, head.line⟩

section Refusals

variable {tables : Tables} {head : Token} {rest : Program} {d : Diagnostic}

theorem mem_arguments {command : Command} (named : head.command? = some command)
    (takes : 0 < command.arity) (t : Token) : t ∈ head.arguments (t :: rest) := by
  obtain ⟨n, arity⟩ : ∃ n, command.arity = n + 1 := ⟨command.arity - 1, by omega⟩
  simp [Token.arguments, named, arity]

theorem refused_of_evaluate {t : Token} (argument : t ∈ head.arguments rest)
    (failed : tables.evaluate t = .error d) : Refused tables head rest d := by
  simp only [Tables.evaluate] at failed
  split at failed
  · split at failed
    · cases failed
    · cases failed
      exact .unknownVariable argument _
  · split at failed <;> cases failed

theorem refused_of_numberArgument {command : Text} {t : Token} (argument : t ∈ head.arguments rest)
    (failed : numberArgument tables command t = .error d) : Refused tables head rest d := by
  unfold numberArgument at failed
  split at failed
  · rename_i value
    cases failed
    exact refused_of_evaluate argument value
  · split at failed
    · cases failed
    · cases failed
      exact .notANumber argument command

theorem refused_of_withNumber {command : Command} {name what : Text} {effect : Float → Effect}
    (named : head.command? = some command) (takes : 0 < command.arity)
    (failed : withNumber tables head.line name what rest effect = .error d) :
    Refused tables head rest d := by
  cases rest with
  | nil =>
    cases failed
    exact .missing _
  | cons t tail =>
    simp only [withNumber, argument] at failed
    cases number : numberArgument tables name t with
    | error d' =>
      simp only [number] at failed
      cases failed
      exact refused_of_numberArgument (mem_arguments named takes t) number
    | ok x => simp [number] at failed

theorem refused_of_variable (named : head.command? = some .makeVariable)
    (failed : interpretVariable tables head.line rest = .error d) :
    Refused tables head rest d := by
  cases rest with
  | nil =>
    cases failed
    exact .missing _
  | cons name tail =>
    cases tail with
    | nil =>
      cases failed
      exact .missing _
    | cons t tail =>
      simp only [interpretVariable, argument] at failed
      cases number : numberArgument tables (utf8 "VAR") t with
      | error d' =>
        simp only [number] at failed
        cases failed
        refine refused_of_numberArgument ?_ number
        simp [Token.arguments, named, Command.arity]
      | ok x => simp [number] at failed

theorem refused_of_definition (named : head.command? = some .define)
    (failed : interpretDefinition head.line rest = .error d) : Refused tables head rest d := by
  cases rest with
  | nil =>
    cases failed
    exact .missing _
  | cons name tail =>
    simp only [interpretDefinition, argument] at failed
    cases found : Program.definition? tail with
    | none =>
      simp only [found] at failed
      cases failed
      exact .missingEnd named found
    | some extent => simp [found] at failed

theorem refused_of_loop (named : head.command? = some .loop)
    (failed : interpretLoop tables head.line rest = .error d) : Refused tables head rest d := by
  cases rest with
  | nil =>
    cases failed
    exact .missing _
  | cons t tail =>
    simp only [interpretLoop, argument] at failed
    cases value : tables.evaluate t with
    | error d' =>
      simp only [value] at failed
      cases failed
      exact refused_of_evaluate (mem_arguments named (by decide) t) value
    | ok v =>
      cases counts : v.int? with
      | none =>
        simp only [value, counts] at failed
        cases failed
        exact .notANumber (mem_arguments named (by decide) t) _
      | some count =>
        cases found : Program.block? tail with
        | none =>
          simp only [value, counts, found] at failed
          cases starts : Program.startsBlock tail with
          | false =>
            simp only [starts] at failed
            cases failed
            exact .loopWithoutBlock named starts
          | true =>
            simp only [starts] at failed
            cases failed
            exact .unclosedLoop named starts found
        | some extent =>
          simp only [value, counts, found] at failed
          split at failed <;> cases failed

theorem refused_of_interpret (failed : interpret tables head rest = .error d) :
    Refused tables head rest d := by
  rw [interpret] at failed
  cases named : head.command? with
  | none =>
    have unnamed : Command.named? (Text.upper head.text) = none := named
    simp only [unnamed] at failed
    split at failed
    · cases failed
    · rename_i unknown
      cases failed
      exact .unknownCommand named unknown
  | some command =>
    have builtIn : Command.named? (Text.upper head.text) = some command := named
    simp only [builtIn] at failed
    cases command with
    | makeVariable => exact refused_of_variable named failed
    | define => exact refused_of_definition named failed
    | loop => exact refused_of_loop named failed
    | forward | back | right | left => exact refused_of_withNumber named (by decide) failed
    | setColor =>
      cases rest with
      | nil =>
        cases failed
        exact .missing _
      | cons t tail => cases failed
    | penUp | penDown | clear | nothing => cases failed

end Refusals

end TurtleLogo
