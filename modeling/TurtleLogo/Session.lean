import TurtleLogo.Machine.Run
import TurtleLogo.Sample
import TurtleLogo.Settings

/-!
# Sessions

A session is one machine with one turtle, on which one task runs at a time. Variables and procedures
stay from task to task, and so does the picture. A task goes through three phases: it takes hold of
the session, its program runs, and the session is let go. In between the phases others may use the
session: they find it busy, but can look at the canvas and clear it.
-/

set_option autoImplicit false

namespace TurtleLogo

/-- What a session runs: a program, or a sample, which starts on a clear canvas. -/
inductive Task where
  | program (source : Text)
  | sample (s : Sample)
  deriving DecidableEq, Repr

namespace Task

def name : Task → Text
  | .program _ => utf8 "program"
  | .sample s => s.name

def source : Task → Text
  | .program source => source
  | .sample s => s.source

def clears : Task → Bool
  | .program _ => false
  | .sample _ => true

def starting : Task → Text
  | .program _ => utf8 "Turtle is running..."
  | .sample s => utf8 "Inspiring " ++ s.title ++ utf8 " is starting!"

def finished : Task → Text
  | .program _ => utf8 "Turtle is finished!"
  | .sample s => s.title ++ utf8 " finished!"

def failed (e : RunError) : Task → Text
  | .program _ => utf8 "Oops! " ++ e.message
  | .sample _ => utf8 "Oops! Try again."

end Task

structure Session where
  machine : Machine
  turtle : Turtle
  running : Bool
  log : Logger

namespace Session

inductive Refusal where
  | busy
  | unknownSample (name : Text)
  deriving DecidableEq, Repr

def Refusal.message : Refusal → Text
  | .busy => utf8 "host: a program is already running"
  | .unknownSample name => utf8 "host: unknown sample: " ++ Text.quoted name

def clearedStatus : Text :=
  utf8 "Canvas cleared!"

def fresh (settings : Settings) (log : Logger) : Session where
  machine := Machine.fresh settings.running.maxDepth
  turtle := Turtle.home settings.turtleOptions
  running := false
  log := log.part (utf8 "session")

def sampleTask (name : Text) : Except Refusal Task :=
  match Sample.find? name with
  | some s => .ok (.sample s)
  | none => .error (.unknownSample name)

def take (s : Session) : Except Refusal Session :=
  if s.running then .error .busy else .ok { s with running := true }

def release (s : Session) : Session :=
  { s with running := false }

/-- Clears the canvas and sends the turtle home, also while a task runs. -/
def clear (s : Session) : Session :=
  { s with turtle := s.turtle.reset }

def prepare (s : Session) (t : Task) : Session :=
  if t.clears then s.clear else s

def begin (s : Session) (t : Task) : Except Refusal Session :=
  s.take.map (·.prepare t)

structure Report where
  steps : Nat
  waits : Nat
  error : Option RunError
  deriving DecidableEq, Repr

def opening (s : Session) (t : Task) : Text :=
  s.log.started t.name

/-- Runs the program of a task. The steps are those that the machine has counted since a program was
last loaded into it. -/
def execute (s : Session) (t : Task) (waits : Waits) : Session × Report :=
  let run := s.machine.run t.source waits
  ({ s with machine := run.machine, turtle := s.turtle.followAll run.instructions },
    ⟨run.machine.steps, run.waits, run.error⟩)

def closing (s : Session) (t : Task) (elapsed : Text) (r : Report) : List Text :=
  [s.log.completed t.name elapsed,
    s.log.ran t.name r.steps s.turtle.segments.size (r.error.map (·.message))]

def Report.status (r : Report) (t : Task) : Text :=
  match r.error with
  | some e => t.failed e
  | none => t.finished

def run (s : Session) (t : Task) (waits : Waits) : Except Refusal (Session × Report) :=
  match s.begin t with
  | .error refusal => .error refusal
  | .ok s =>
    let (s, report) := s.execute t waits
    .ok (s.release, report)

def forget (s : Session) : Except Refusal Session :=
  s.take.map fun s => { s with machine := s.machine.reset }.release

end Session

end TurtleLogo
