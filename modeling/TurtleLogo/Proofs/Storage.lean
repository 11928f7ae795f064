import TurtleLogo.Proofs.Trace

/-!
# The machine in storage

Here the machine is laid out as it is kept: a frame holds all its tokens, a place among them and the
number of passes left, the current one included; the tables and the stack need not have been made
yet. Whatever is not there can be asked for, and that is a fault: a token behind the last one, the
name in an empty text, a table, the tables or the stack before they are made. A machine may start
with nothing at all.
-/

set_option autoImplicit false

namespace TurtleLogo

namespace Storage

inductive Fault where
  | noToken
  | noName
  | noTable
  | noContext
  | noStack
  deriving DecidableEq, Repr

/-- Why a head does not get done: a fault of the storage, or a diagnostic for the user. -/
inductive Stop where
  | fault (fault : Fault)
  | diagnosed (d : Diagnostic)
  deriving DecidableEq, Repr

/-! ## Tables -/

structure Context where
  values : Option (Table Float)
  procedures : Option (Table Program)

namespace Context

def fresh : Context :=
  ⟨some .empty, some .empty⟩

/-- Looking a name up in a table that was never made finds nothing. -/
def value? (c : Context) (name : Text) : Option Float :=
  c.values.bind fun table => table.get? name

def procedure? (c : Context) (name : Text) : Option Program :=
  c.procedures.bind fun table => table.get? name

/-- The value of an argument. The name of a variable stands behind its first byte. -/
def evaluate (c : Context) (t : Token) : Except Stop Value :=
  if t.kind = .variable then
    match t.text with
    | [] => .error (.fault .noName)
    | _ :: name =>
      match c.value? name with
      | some x => .ok (.number x)
      | none => .error (.diagnosed ⟨.unknownVariable name, t.line⟩)
  else
    match c.value? t.text with
    | some x => .ok (.number x)
    | none => .ok (.word t.text)

def number (c : Context) (command : Text) (t : Token) : Except Stop Float :=
  match c.evaluate t with
  | .error stop => .error stop
  | .ok v =>
    match v.float? with
    | some x => .ok x
    | none => .error (.diagnosed ⟨.notANumber command t.text, t.line⟩)

end Context

/-! ## Frames -/

structure Frame where
  tokens : Program
  place : Nat
  passes : Int
  opened : Int

namespace Frame

def token (f : Frame) : Except Stop Token :=
  match f.tokens[f.place]? with
  | some t => .ok t
  | none => .error (.fault .noToken)

def next (f : Frame) : Frame :=
  { f with place := f.place + 1 }

def argument (f : Frame) (line : Int) (what : Text) : Except Stop (Token × Frame) :=
  if f.tokens.length ≤ f.place then .error (.diagnosed ⟨.missingArgument what, line⟩)
  else
    match f.token with
    | .error stop => .error stop
    | .ok t => .ok (t, f.next)

def withNumber (f : Frame) (c : Context) (line : Int) (name what : Text) (effect : Float → Effect) :
    Except Stop (Effect × Frame) :=
  match f.argument line (what ++ utf8 " for " ++ name) with
  | .error stop => .error stop
  | .ok (t, f) =>
    match c.number name t with
    | .error stop => .error stop
    | .ok x => .ok (effect x, f)

def interpretVariable (f : Frame) (c : Context) (line : Int) : Except Stop (Effect × Frame) :=
  match f.argument line (utf8 "name for VAR") with
  | .error stop => .error stop
  | .ok (name, f) =>
    match f.argument line (utf8 "value for VAR " ++ name.text) with
    | .error stop => .error stop
    | .ok (t, f) =>
      match c.number (utf8 "VAR") t with
      | .error stop => .error stop
      | .ok x => .ok (.assign name.text x, f)

def interpretDefinition (f : Frame) (line : Int) : Except Stop (Effect × Frame) :=
  match f.argument line (utf8 "name for DEF") with
  | .error stop => .error stop
  | .ok (name, f) =>
    let procedure := Text.upper name.text
    let extent := Program.definitionAt f.tokens f.place
    if extent.found then .ok (.define procedure extent.body, { f with place := extent.next })
    else .error (.diagnosed ⟨.missingEnd procedure, line⟩)

def blockFault (f : Frame) (line : Int) : Stop :=
  if f.tokens.length ≤ f.place then .diagnosed ⟨.loopWithoutBlock, line⟩
  else
    match f.token with
    | .error stop => stop
    | .ok t => .diagnosed ⟨if t.kind = .opening then .unclosedLoop else .loopWithoutBlock, line⟩

def interpretLoop (f : Frame) (c : Context) (line : Int) : Except Stop (Effect × Frame) :=
  match f.argument line (utf8 "count for REPEAT") with
  | .error stop => .error stop
  | .ok (t, f) =>
    match c.evaluate t with
    | .error stop => .error stop
    | .ok v =>
      match v.int? with
      | none => .error (.diagnosed ⟨.notANumber (utf8 "REPEAT") t.text, t.line⟩)
      | some count =>
        let extent := Program.blockAt f.tokens f.place
        if extent.found then
          if count ≤ 0 ∨ extent.body = [] then .ok (.nothing, { f with place := extent.next })
          else .ok (.enter extent.body (count.toNat - 1), { f with place := extent.next })
        else .error (f.blockFault line)

def interpretCommand (f : Frame) (c : Context) (command : Command) (name : Text) (line : Int) :
    Except Stop (Effect × Frame) :=
  match command with
  | .makeVariable => f.interpretVariable c line
  | .define => f.interpretDefinition line
  | .loop => f.interpretLoop c line
  | .forward => f.withNumber c line name (utf8 "distance") fun x => .draw (.advance x)
  | .back => f.withNumber c line name (utf8 "distance") fun x => .draw (.advance (-x))
  | .right => f.withNumber c line name (utf8 "angle") fun x => .draw (.turn x .clockwise)
  | .left => f.withNumber c line name (utf8 "angle") fun x => .draw (.turn x .counterClockwise)
  | .penUp => .ok (.draw (.pen false), f)
  | .penDown => .ok (.draw (.pen true), f)
  | .clear => .ok (.draw .reset, f)
  | .setColor =>
    match f.argument line (utf8 "color for SETCOLOR") with
    | .error stop => .error stop
    | .ok (t, f) => .ok (.draw (.color t.text), f)
  | .nothing => .ok (.nothing, f)

def interpret (f : Frame) (c : Context) (head : Token) : Except Stop (Effect × Frame) :=
  let name := Text.upper head.text
  match Command.named? name with
  | some command => f.interpretCommand c command name head.line
  | none =>
    match c.procedure? name with
    | some body => .ok (.enter body 0, f)
    | none => .error (.diagnosed ⟨.unknownCommand head.text, head.line⟩)

end Frame

/-- Leaves the frames that are at their end, going back to the start of those that have passes left,
until a frame is not at its end. -/
def settle : List Frame → List Frame
  | [] => []
  | f :: outer =>
    if f.tokens.length ≤ f.place then
      if 0 < f.passes - 1 then settle ({ f with place := 0, passes := f.passes - 1 } :: outer)
      else settle outer
    else f :: outer
termination_by frames => (frames.length, ((frames.head?.map Frame.passes).getD 0).toNat)
decreasing_by
  · refine Prod.Lex.right _ ?_
    simp only [List.head?_cons, Option.map_some, Option.getD_some]
    omega
  · exact Prod.Lex.left _ _ (by simp)

/-! ## Machines -/

structure Machine where
  context : Option Context
  stack : Option (List Frame)
  steps : Nat
  maxDepth : Int

namespace Machine

def fresh (maxDepth : Int) : Machine :=
  ⟨some .fresh, some [], 0, maxDepth⟩

def zero (maxDepth : Int) : Machine :=
  ⟨none, none, 0, maxDepth⟩

def limit (m : Machine) : Nat :=
  if m.maxDepth ≤ 0 then defaultMaxDepth else m.maxDepth.toNat

def frames (m : Machine) : List Frame :=
  m.stack.getD []

def reset (m : Machine) : Machine :=
  { m with context := some .fresh, stack := some [], steps := 0 }

def load (m : Machine) (src : Text) : Option Diagnostic × Machine :=
  match Program.fault? (Token.scan src) with
  | some d => (some d, m)
  | none =>
    (none,
      { m with
        context := some (m.context.getD .fresh)
        stack := some (if (Token.scan src).isEmpty then [] else [⟨Token.scan src, 0, 1, 0⟩])
        steps := 0 })

def push (m : Machine) (tokens : Program) (passes line : Int) : Except Stop Machine :=
  match m.stack with
  | none => .error (.fault .noStack)
  | some frames =>
    if m.limit ≤ frames.length then .error (.diagnosed ⟨.tooDeep m.limit, line⟩)
    else .ok { m with stack := some (⟨tokens, 0, passes, line⟩ :: frames) }

/-- Does what a head asks for. A table that was never made cannot be written. -/
def perform (m : Machine) (c : Context) (head : Token) :
    Effect → Except Stop (Option Instruction × Machine)
  | .nothing => .ok (none, m)
  | .draw i => .ok (some i, m)
  | .assign name x =>
    match c.values with
    | none => .error (.fault .noTable)
    | some table =>
      .ok (none, { m with context := some { c with values := some (table.set name x) } })
  | .define name body =>
    match c.procedures with
    | none => .error (.fault .noTable)
    | some table =>
      .ok (none, { m with context := some { c with procedures := some (table.set name body) } })
  | .enter body again =>
    match m.push body (again + 1) head.line with
    | .error stop => .error stop
    | .ok m => .ok (none, m)

def dispatch (m : Machine) (head : Token) : Except Stop (Option Instruction × Machine) :=
  match m.context with
  | none => .error (.fault .noContext)
  | some c =>
    match m.stack with
    | none | some [] => .error (.fault .noStack)
    | some (f :: outer) =>
      match f.interpret c head with
      | .error stop => .error stop
      | .ok (effect, f) => ({ m with stack := some (f :: outer) }).perform c head effect

def unwind (m : Machine) (d : Diagnostic) : Except Fault (Diagnostic × Machine) :=
  match m.stack with
  | none => .error .noStack
  | some frames =>
    .ok (frames.foldl (fun d f => d.withLine f.opened) d, { m with stack := some [] })

def report (m : Machine) (head : Token) :
    Except Stop (Option Instruction × Machine) →
      Except Fault (TurtleLogo.Machine.Progress × Machine)
  | .ok (i, m) => .ok (.moved i, m)
  | .error (.fault fault) => .error fault
  | .error (.diagnosed d) =>
    match m.unwind (d.withLine head.line) with
    | .error fault => .error fault
    | .ok (d, m) => .ok (.failed d, m)

def step (m : Machine) : Except Fault (TurtleLogo.Machine.Progress × Machine) :=
  match m.stack with
  | none => .ok (.done, m)
  | some frames =>
    match settle frames with
    | [] => .ok (.done, { m with stack := some [] })
    | f :: outer =>
      match f.tokens[f.place]? with
      | none => .error .noToken
      | some head =>
        let taken := { m with stack := some (f.next :: outer), steps := m.steps + 1 }
        taken.report head (taken.dispatch head)

/-- `Finishes waits m made result`: stepping `m` on, with a wait after every step that moves and
`made` waits made before, comes to this result. -/
inductive Finishes (waits : Waits) : Machine → Nat → Except Fault Machine → Prop
  | faulted {m : Machine} {made : Nat} {fault : Fault} (step : m.step = .error fault) :
      Finishes waits m made (.error fault)
  | ended {m m' : Machine} {made : Nat} {fault : Option Diagnostic}
      (step : m.step = .ok (.ending fault, m')) : Finishes waits m made (.ok m')
  | interrupted {m m' : Machine} {made : Nat} {i : Option Instruction} {reason : Interruption}
      (step : m.step = .ok (.moved i, m')) (fails : waits (made + 1) = some reason) :
      Finishes waits m made (.ok { m' with stack := some [] })
  | moved {m m' : Machine} {made : Nat} {i : Option Instruction} {result : Except Fault Machine}
      (step : m.step = .ok (.moved i, m')) (well : waits (made + 1) = none)
      (later : Finishes waits m' (made + 1) result) : Finishes waits m made result

inductive Runs (waits : Waits) (m : Machine) (src : Text) : Except Fault Machine → Prop
  | refused {m' : Machine} {d : Diagnostic} (load : m.load src = (some d, m')) :
      Runs waits m src (.ok m')
  | loaded {m' : Machine} {result : Except Fault Machine} (load : m.load src = (none, m'))
      (finishes : Finishes waits m' 0 result) : Runs waits m src result

/-- `Reached maxDepth sources m`: loading and running source texts, stepping and resetting, in any
order, can lead to `m`. The texts that were accepted on the way are `sources`, the latest first. -/
inductive Reached (maxDepth : Int) : List Text → Machine → Prop
  | fresh : Reached maxDepth [] (.fresh maxDepth)
  | zero : Reached maxDepth [] (.zero maxDepth)
  | refused {sources : List Text} {m m' : Machine} {src : Text} {d : Diagnostic}
      (before : Reached maxDepth sources m) (load : m.load src = (some d, m')) :
      Reached maxDepth sources m'
  | loaded {sources : List Text} {m m' : Machine} {src : Text}
      (before : Reached maxDepth sources m) (load : m.load src = (none, m')) :
      Reached maxDepth (src :: sources) m'
  | stepped {sources : List Text} {m m' : Machine} {progress : TurtleLogo.Machine.Progress}
      (before : Reached maxDepth sources m) (step : m.step = .ok (progress, m')) :
      Reached maxDepth sources m'
  | ran {sources : List Text} {m loaded m' : Machine} {src : Text} {waits : Waits}
      (before : Reached maxDepth sources m) (load : m.load src = (none, loaded))
      (finishes : Finishes waits loaded 0 (.ok m')) : Reached maxDepth (src :: sources) m'
  | reset {sources : List Text} {m : Machine} (before : Reached maxDepth sources m) :
      Reached maxDepth sources m.reset

end Machine

/-! ## What is in storage -/

def Context.view (c : Context) : Tables :=
  ⟨c.values.getD .empty, c.procedures.getD .empty⟩

def Frame.left (f : Frame) : Program :=
  f.tokens.drop f.place

def Frame.view (f : Frame) : TurtleLogo.Frame :=
  ⟨f.tokens, f.left, (f.passes - 1).toNat, f.opened⟩

def Machine.view (m : Machine) : TurtleLogo.Machine :=
  ⟨(m.context.map Context.view).getD .empty, m.frames.map Frame.view, m.steps, m.maxDepth⟩

end Storage

end TurtleLogo
