import TurtleLogo.Program
import TurtleLogo.Value
import TurtleLogo.Table
import TurtleLogo.Instruction

/-!
# Commands

A program is carried out head by head: the head token names a built-in command or a procedure and
takes the arguments it needs from the tokens behind it. `interpret` says what one head does, given
the variables and procedures known at that moment, without doing it: it yields a single effect and
the tokens that are left, or a diagnostic.
-/

set_option autoImplicit false

namespace TurtleLogo

/-- The values of variables and the bodies of procedures. Procedures go by their upper-case names. -/
structure Tables where
  values : Table Float
  procedures : Table Program

namespace Tables

def empty : Tables :=
  ⟨.empty, .empty⟩

instance : Inhabited Tables :=
  ⟨empty⟩

/-- The value of an argument. `:name` is the variable of that name, which must exist; any other
text is the variable of that name if there is one, and otherwise stands for itself. -/
def evaluate (tables : Tables) (t : Token) : Except Diagnostic Value :=
  if t.kind = .variable then
    let name := t.text.drop 1
    match tables.values.get? name with
    | some x => .ok (.number x)
    | none => .error ⟨.unknownVariable name, t.line⟩
  else
    match tables.values.get? t.text with
    | some x => .ok (.number x)
    | none => .ok (.word t.text)

end Tables

inductive Command where
  | makeVariable
  | define
  | loop
  | forward
  | back
  | right
  | left
  | penUp
  | penDown
  | clear
  | setColor
  | nothing
  deriving DecidableEq, Repr

namespace Command

def spellings : List (Text × Command) := [
  (utf8 "VAR", .makeVariable),
  (utf8 "DEF", .define),
  (utf8 "REPEAT", .loop),
  (utf8 "FD", .forward),
  (utf8 "FORWARD", .forward),
  (utf8 "BK", .back),
  (utf8 "BACK", .back),
  (utf8 "RT", .right),
  (utf8 "RIGHT", .right),
  (utf8 "LT", .left),
  (utf8 "LEFT", .left),
  (utf8 "PU", .penUp),
  (utf8 "PENUP", .penUp),
  (utf8 "PD", .penDown),
  (utf8 "PENDOWN", .penDown),
  (utf8 "CS", .clear),
  (utf8 "CLEARSCREEN", .clear),
  (utf8 "SETCOLOR", .setColor),
  (utf8 "END", .nothing),
  (utf8 "[", .nothing),
  (utf8 "]", .nothing)]

def named? (name : Text) : Option Command :=
  spellings.lookup name

end Command

/-- What carrying out one head does. `enter` opens a block or a procedure body, to be run `again`
more times after the first. -/
inductive Effect where
  | nothing
  | draw (instruction : Instruction)
  | assign (name : Text) (value : Float)
  | define (name : Text) (body : Program)
  | enter (body : Program) (again : Nat)

def argument (line : Int) (what : Text) : Program → Except Diagnostic (Token × Program)
  | [] => .error ⟨.missingArgument what, line⟩
  | t :: rest => .ok (t, rest)

def numberArgument (tables : Tables) (command : Text) (t : Token) : Except Diagnostic Float :=
  match tables.evaluate t with
  | .error d => .error d
  | .ok v =>
    match v.float? with
    | some x => .ok x
    | none => .error ⟨.notANumber command t.text, t.line⟩

def withNumber (tables : Tables) (line : Int) (name what : Text) (rest : Program)
    (effect : Float → Effect) : Except Diagnostic (Effect × Program) :=
  match argument line (what ++ utf8 " for " ++ name) rest with
  | .error d => .error d
  | .ok (t, rest) =>
    match numberArgument tables name t with
    | .error d => .error d
    | .ok x => .ok (effect x, rest)

def interpretVariable (tables : Tables) (line : Int) (rest : Program) :
    Except Diagnostic (Effect × Program) :=
  match argument line (utf8 "name for VAR") rest with
  | .error d => .error d
  | .ok (name, rest) =>
    match argument line (utf8 "value for VAR " ++ name.text) rest with
    | .error d => .error d
    | .ok (t, rest) =>
      match numberArgument tables (utf8 "VAR") t with
      | .error d => .error d
      | .ok x => .ok (.assign name.text x, rest)

def interpretDefinition (line : Int) (rest : Program) : Except Diagnostic (Effect × Program) :=
  match argument line (utf8 "name for DEF") rest with
  | .error d => .error d
  | .ok (name, rest) =>
    let procedure := Text.upper name.text
    match Program.definition? rest with
    | none => .error ⟨.missingEnd procedure, line⟩
    | some (body, after) => .ok (.define procedure body, after)

/-- `REPEAT count [ … ]` runs a block. A count that is not positive, or an empty block, does
nothing. -/
def interpretLoop (tables : Tables) (line : Int) (rest : Program) :
    Except Diagnostic (Effect × Program) :=
  match argument line (utf8 "count for REPEAT") rest with
  | .error d => .error d
  | .ok (t, rest) =>
    match tables.evaluate t with
    | .error d => .error d
    | .ok v =>
      match v.int? with
      | none => .error ⟨.notANumber (utf8 "REPEAT") t.text, t.line⟩
      | some count =>
        match Program.block? rest with
        | none =>
          .error ⟨if Program.startsBlock rest then .unclosedLoop else .loopWithoutBlock, line⟩
        | some (body, after) =>
          if count ≤ 0 ∨ body = [] then .ok (.nothing, after)
          else .ok (.enter body (count.toNat - 1), after)

def interpretCommand (tables : Tables) (command : Command) (name : Text) (line : Int)
    (rest : Program) : Except Diagnostic (Effect × Program) :=
  match command with
  | .makeVariable => interpretVariable tables line rest
  | .define => interpretDefinition line rest
  | .loop => interpretLoop tables line rest
  | .forward => withNumber tables line name (utf8 "distance") rest fun x => .draw (.advance x)
  | .back => withNumber tables line name (utf8 "distance") rest fun x => .draw (.advance (-x))
  | .right => withNumber tables line name (utf8 "angle") rest fun x => .draw (.turn x .clockwise)
  | .left =>
    withNumber tables line name (utf8 "angle") rest fun x => .draw (.turn x .counterClockwise)
  | .penUp => .ok (.draw (.pen false), rest)
  | .penDown => .ok (.draw (.pen true), rest)
  | .clear => .ok (.draw .reset, rest)
  | .setColor =>
    match argument line (utf8 "color for SETCOLOR") rest with
    | .error d => .error d
    | .ok (t, rest) => .ok (.draw (.color t.text), rest)
  | .nothing => .ok (.nothing, rest)

/-- What a head token does in front of `rest`: a built-in command wins over a procedure of the same
name, and anything else is unknown. -/
def interpret (tables : Tables) (head : Token) (rest : Program) :
    Except Diagnostic (Effect × Program) :=
  let name := Text.upper head.text
  match Command.named? name with
  | some command => interpretCommand tables command name head.line rest
  | none =>
    match tables.procedures.get? name with
    | some body => .ok (.enter body 0, rest)
    | none => .error ⟨.unknownCommand head.text, head.line⟩

end TurtleLogo
