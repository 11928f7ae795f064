import TurtleLogo.Server
import TurtleLogo.Settings.File
import TurtleLogo.Store.Location

/-!
# The surroundings of the command line

What commands need from outside: files, two output streams, a clock. Commands are written for any
surroundings, so that they run in the real ones and in a `World` that is a plain value.
-/

set_option autoImplicit false

namespace TurtleLogo

namespace Shell

inductive FileProblem where
  | missing
  | notDirectory
  | isDirectory
  | nameTooLong
  | invalidName
  | other (message : Text)
  deriving DecidableEq, Repr

def FileProblem.message : FileProblem → Text
  | .missing => utf8 "no such file or directory"
  | .notDirectory => utf8 "not a directory"
  | .isDirectory => utf8 "is a directory"
  | .nameTooLong => utf8 "file name too long"
  | .invalidName => utf8 "invalid argument"
  | .other message => message

/-- What failed: to open a file, or to read it once it was open. -/
structure FileFault where
  opened : Bool
  path : Text
  problem : FileProblem
  deriving DecidableEq, Repr

def FileFault.message (f : FileFault) : Text :=
  (if f.opened then utf8 "read " else utf8 "open ") ++ f.path ++ utf8 ": " ++ f.problem.message

inductive StoreProblem where
  | unavailable
  | notStore
  deriving DecidableEq, Repr

class Surroundings (m : Type → Type) extends Monad m where
  readFile : (path : Text) → m (Except FileFault Text)
  writeFile : (path content : Text) → m (Except FileFault Unit)
  /-- The store in a file, which is created if there is none, unless it must be there. -/
  readStore : (path : Text) → (mustExist : Bool) → m (Except StoreProblem Store)
  writeStore : (path : Text) → Store → m (Except FileFault Unit)
  print : Text → m Unit
  printMessage : Text → m Unit
  record : (entry : Text) → m Unit
  now : m Int
  age : Int → m Text
  /-- Starts a clock; what it gives tells the time since then. -/
  stopwatch : m (m Text)
  pause : Duration → m Unit
  colored : m Bool
  /-- The directory of the user, empty if it is the current one. -/
  home : m Text
  identifier : m Text
  /-- Answers requests with a server at an address, until that fails; the result is the reason. -/
  serve : Server → (address : Text) → m Text

variable {m : Type → Type} [Surroundings m]

inductive Paint where
  | red
  | green
  | yellow

def Paint.code : Paint → Text
  | .red => utf8 "\x1b[31m"
  | .green => utf8 "\x1b[32m"
  | .yellow => utf8 "\x1b[33m"

def painted (p : Paint) (t : Text) : m Text := do
  let on ← Surroundings.colored
  return if on then p.code ++ t ++ utf8 "\x1b[0m" else t

def printLine (t : Text) : m Unit :=
  Surroundings.print (t ++ utf8 "\n")

def printMessageLine (t : Text) : m Unit :=
  Surroundings.printMessage (t ++ utf8 "\n")

def printError (t : Text) : m Unit := do
  printMessageLine (← painted .red t)

def recordEntry (entry : Text) : m Unit :=
  if entry.isEmpty then pure () else Surroundings.record entry

/-- The settings in a file. Without a path, or without such a file, they are the standard ones. -/
def loadSettings (path : Text) : m (Except Text Settings) := do
  if path.isEmpty then return .ok Settings.standard
  match ← Surroundings.readFile path with
  | .error fault =>
    if fault.problem = .missing then return .ok Settings.standard
    else if fault.opened then
      return .error (utf8 "config: parse " ++ path ++ utf8 ": yaml: input error: " ++ fault.message)
    else return .error (utf8 "config: open " ++ path ++ utf8 ": " ++ fault.message)
  | .ok t =>
    match Settings.ofFile t with
    | .error e => return .error (e.message (some path))
    | .ok s => return .ok s

def keepStore (path : Text) (s : Store) : m (Except FileFault Unit) :=
  match Store.Location.ofPath path with
  | .ok (.file file _) => Surroundings.writeStore file s
  | _ => pure (.ok ())

def openAt (path : Text) : Store.Location → m (Except Text Store)
  | .nowhere => return .ok Store.empty
  | .file file mustExist => do
    match ← Surroundings.readStore file mustExist with
    | .ok s => return .ok s
    | .error .notStore => return .error (utf8 "store: migrate: file is not a database (26)")
    | .error .unavailable =>
      return .error (utf8 "store: open " ++ path
        ++ utf8 ": unable to open database file: out of memory (14)")

def openStore (path : Text) : m (Except Text Store) := do
  let refused (problem : Text) : m (Except Text Store) :=
    return .error (utf8 "store: open " ++ path ++ utf8 ": " ++ problem)
  match Store.Location.ofPath path with
  | .error problem => refused problem
  | .ok location =>
    match ← openAt path location, Store.Location.problem? path with
    | .ok _, some problem => refused problem
    | found, _ => return found

def moment : m Store.Moment := do
  return ⟨← Surroundings.now, false⟩

/-- Writes the canvas to a file, or to the output if no path is given. -/
def writeDrawing (t : Turtle) (path : Text) : m (Except Text Unit) := do
  if path.isEmpty || path == utf8 "-" then
    Surroundings.print t.svg
    return .ok ()
  match ← Surroundings.writeFile path t.svg with
  | .ok () => return .ok ()
  | .error fault => return .error (utf8 "creating " ++ path ++ utf8 ": " ++ fault.message)

/-- Runs a task; `announce` is told each status. The pauses between its steps are made up at its
end. -/
def perform (s : Session) (t : Task) (delay : Duration) (announce : Text → m Unit) :
    m (Except Session.Refusal (Session × Session.Report)) := do
  match s.begin t with
  | .error refusal => return .error refusal
  | .ok s =>
    announce t.starting
    recordEntry (s.opening t)
    let elapsed ← Surroundings.stopwatch
    let (s, report) := s.execute t Waits.never
    Surroundings.pause (report.waits * delay)
    for entry in s.closing t (← elapsed) report do
      recordEntry entry
    announce (report.status t)
    return .ok (s.release, report)

def isFailure (status : Text) : Bool :=
  (utf8 "Oops!").isPrefixOf status

end Shell

end TurtleLogo
