import TurtleLogo.Machine.Descent

/-!
# Runs

A run loads a program and steps it to its end, with a wait after every step that moved. What waits
can break a run off. Whatever ends a run, no frame stays open; what was drawn stays drawn.
-/

set_option autoImplicit false

namespace TurtleLogo

inductive Interruption where
  | canceled
  | timedOut
  | failed (message : Text)
  deriving DecidableEq, Repr

def Interruption.message : Interruption → Text
  | .canceled => utf8 "context canceled"
  | .timedOut => utf8 "context deadline exceeded"
  | .failed message => message

/-- What the successive waits of a run report; the first is number 1. -/
abbrev Waits := Nat → Option Interruption

def Waits.never : Waits := fun _ => none

def Waits.always (reason : Interruption) : Waits := fun _ => some reason

inductive RunError where
  | diagnosed (d : Diagnostic)
  | interrupted (steps : Nat) (reason : Interruption)
  deriving DecidableEq, Repr

def RunError.message : RunError → Text
  | .diagnosed d => d.message
  | .interrupted steps reason =>
    utf8 "vm: run interrupted after " ++ Text.ofNat steps ++ utf8 " steps: " ++ reason.message

/-- A run that has ended: the machine it leaves, the instructions it gave in order, the number of
waits it made, and why it failed, if it did. -/
structure Run where
  machine : Machine
  instructions : List Instruction
  waits : Nat
  error : Option RunError

namespace Machine

/-- Steps a machine to its end. `drawn` are the instructions given so far, the latest first, and
`made` the number of waits made. -/
def finish {n : Nat} (waits : Waits) (m : Machine) (within : m.Within n)
    (drawn : List Instruction) (made : Nat) : Run :=
  match stepped : m.step with
  | (.done, m') => ⟨m', drawn.reverse, made, none⟩
  | (.failed d, m') => ⟨m', drawn.reverse, made, some (.diagnosed d)⟩
  | (.moved i, m') =>
    let drawn := i.toList ++ drawn
    match waits (made + 1) with
    | some reason =>
      ⟨{ m' with frames := [] }, drawn.reverse, made + 1, some (.interrupted m'.steps reason)⟩
    | none => finish waits m' (step_within within stepped) drawn (made + 1)
termination_by work n m.frames
decreasing_by exact step_descends within.depth_le stepped

/-- Runs a program. One with unbalanced brackets is refused, and the machine stays as it is. -/
def runProgram (m : Machine) (p : Program) (waits : Waits) : Run :=
  match loaded : m.load p with
  | .error d => ⟨m, [], 0, some (.diagnosed d)⟩
  | .ok m' => finish waits m' (load_within loaded) [] 0

def run (m : Machine) (src : Text) (waits : Waits) : Run :=
  m.runProgram (Token.scan src) waits

end Machine

end TurtleLogo
