import TurtleLogo.Command

/-!
# The machine

The machine carries a program out one head token at a time. Its stack holds a frame for the program
itself, for every block that is being repeated and for every procedure that is being called, the
innermost first. A step first leaves the frames that have come to their end, going back to the start
of those that have passes left, and then carries out one head. A failing step closes all frames.
-/

set_option autoImplicit false

namespace TurtleLogo

/-- A piece of program that is being run: all of it, what is left of the current pass, the number of
passes after the current one, and the line it was opened on, 0 for the program itself. -/
structure Frame where
  body : Program
  rest : Program
  again : Nat
  opened : Int
  deriving DecidableEq, Repr

def Frame.start (body : Program) (again : Nat) (opened : Int) : Frame :=
  ⟨body, body, again, opened⟩

def defaultMaxDepth : Nat := 512

structure Machine where
  tables : Tables
  frames : List Frame
  steps : Nat
  maxDepth : Int

namespace Machine

def fresh (maxDepth : Int) : Machine :=
  ⟨.empty, [], 0, maxDepth⟩

/-- The number of frames that may be open: the machine's own limit if that is positive. -/
def limit (m : Machine) : Nat :=
  if m.maxDepth ≤ 0 then defaultMaxDepth else m.maxDepth.toNat

def depth (m : Machine) : Nat :=
  m.frames.length

def reset (m : Machine) : Machine :=
  { m with tables := .empty, frames := [], steps := 0 }

/-- Puts a machine at the start of a program; one with unbalanced brackets is refused. -/
def load (m : Machine) (p : Program) : Except Diagnostic Machine :=
  match p.fault? with
  | some d => .error d
  | none =>
    .ok { m with frames := if p.isEmpty then [] else [Frame.start p 0 0], steps := 0 }

/-- The head token to be carried out next, the tokens behind it, the frame they stand in, and the
frames around that. -/
structure Focus where
  head : Token
  rest : Program
  frame : Frame
  outer : List Frame

/-- Leaves the frames that are at their end, and starts over the first that has passes left. -/
def next? : List Frame → Option Focus
  | [] => none
  | f :: outer =>
    match f.rest, f.again, f.body with
    | head :: rest, _, _ => some ⟨head, rest, f, outer⟩
    | [], again + 1, head :: rest => some ⟨head, rest, { f with again := again }, outer⟩
    | [], _, _ => next? outer

/-- Gives a diagnostic the first known line of a head and of the frames around it. -/
def tagged (d : Diagnostic) (line : Int) (frames : List Frame) : Diagnostic :=
  frames.foldl (fun d f => d.withLine f.opened) (d.withLine line)

inductive Progress where
  | done
  | failed (d : Diagnostic)
  | moved (instruction : Option Instruction)

def abort (m : Machine) (head : Token) (frames : List Frame) (d : Diagnostic) :
    Progress × Machine :=
  (.failed (tagged d head.line frames), { m with frames := [], steps := m.steps + 1 })

/-- Does what a head asks for; `frames` are those open once the head and its arguments are taken. -/
def perform (m : Machine) (head : Token) (frames : List Frame) : Effect → Progress × Machine
  | .nothing => (.moved none, { m with frames := frames, steps := m.steps + 1 })
  | .draw i => (.moved (some i), { m with frames := frames, steps := m.steps + 1 })
  | .assign name x =>
    (.moved none,
      { m with
        frames := frames
        steps := m.steps + 1
        tables := { m.tables with values := m.tables.values.set name x } })
  | .define name body =>
    (.moved none,
      { m with
        frames := frames
        steps := m.steps + 1
        tables := { m.tables with procedures := m.tables.procedures.set name body } })
  | .enter body again =>
    if m.limit ≤ frames.length then m.abort head frames ⟨.tooDeep m.limit, head.line⟩
    else
      (.moved none,
        { m with frames := Frame.start body again head.line :: frames, steps := m.steps + 1 })

def step (m : Machine) : Progress × Machine :=
  match next? m.frames with
  | none => (.done, { m with frames := [] })
  | some ⟨head, rest, f, outer⟩ =>
    match interpret m.tables head rest with
    | .error d => m.abort head (f :: outer) d
    | .ok (effect, rest) => m.perform head ({ f with rest := rest } :: outer) effect

end Machine

end TurtleLogo
