import Std.Time
import TurtleLogo.Duration.Age
import TurtleLogo.Shell.Commands
import TurtleLogo.Store.File

/-!
# The program

The command line in its real surroundings.
-/

set_option autoImplicit false

namespace TurtleLogo

namespace Shell

def bytesOf (t : Text) : ByteArray :=
  ⟨t.toArray⟩

def systemName (t : Text) : String :=
  (String.fromUTF8? (bytesOf t)).getD ""

def problemOf : IO.Error → FileProblem
  | .noFileOrDirectory .. => .missing
  | .inappropriateType _ code details =>
    if code = 20 then .notDirectory
    else if code = 21 then .isDirectory
    else .other (utf8 details)
  | .permissionDenied .. => .other (utf8 "permission denied")
  | e => .other (utf8 e.toString)

/-- Reads a file; a directory can be opened, but not read. -/
def readSystemFile (path : Text) : IO (Except FileFault Text) := do
  try
    let content ← IO.FS.readBinFile (systemName path)
    return .ok content.data.toList
  catch e =>
    let problem := problemOf e
    return .error ⟨problem = .isDirectory, path, problem⟩

def writeSystemFile (path content : Text) : IO (Except FileFault Unit) := do
  try
    IO.FS.writeBinFile (systemName path) (bytesOf content)
    return .ok ()
  catch e => return .error ⟨false, path, problemOf e⟩

/-- Reads a store from its file, which is made if there is none. -/
def readSystemStore (path : Text) (mustExist : Bool) : IO (Except StoreProblem Store) := do
  let path := Store.Location.cleaned path
  match ← readSystemFile path with
  | .ok t =>
    match Store.ofFile? t with
    | some s => return .ok s
    | none => return .error .notStore
  | .error fault =>
    if fault.problem = .missing ∧ ¬ mustExist then
      match ← writeSystemFile path Store.empty.toFile with
      | .ok () => return .ok Store.empty
      | .error _ => return .error .unavailable
    else return .error .unavailable

def writeTo (stream : IO.FS.Stream) (t : Text) : IO Unit := do
  stream.write (bytesOf t)
  stream.flush

def timeOfDay : IO Text := do
  let t ← Std.Time.PlainTime.now
  let shown (width : Nat) (n : Int) : Text := Number.padded width n.toNat
  return shown 2 t.hour.val ++ utf8 ":" ++ shown 2 t.minute.val ++ utf8 ":" ++ shown 2 t.second.val
    ++ utf8 "." ++ shown 3 (t.nanosecond.val / 1000000)

def unixTime : IO Int := do
  return (← Std.Time.Timestamp.now).toSecondsSinceUnixEpoch.val

def randomIdentifier : IO Text := do
  let mut groups : List Text := []
  for width in [8, 4, 4, 4, 12] do
    groups := groups ++ [Text.hex width (← IO.rand 0 (Nat.pow 16 width - 1))]
  return Text.join (utf8 "-") groups

instance : Surroundings IO where
  readFile := readSystemFile
  writeFile := writeSystemFile
  readStore := readSystemStore
  writeStore path s := writeSystemFile (Store.Location.cleaned path) s.toFile
  print t := do writeTo (← IO.getStdout) t
  printMessage t := do writeTo (← IO.getStderr) t
  record entry := do writeTo (← IO.getStderr) ((← timeOfDay) ++ utf8 " " ++ entry)
  now := unixTime
  age time := do return Duration.age ((← unixTime) - time)
  stopwatch := do
    let start ← IO.monoMsNow
    return do
      let elapsed : Duration := ((← IO.monoMsNow) - start) * Duration.millisecond
      return elapsed.text
  pause d := IO.sleep (d.toNat / Duration.millisecond).toUInt32
  colored := do return (← (← IO.getStdout).isTty)
  home := do return utf8 ((← IO.getEnv "HOME").getD "")
  identifier := randomIdentifier
  serve _ _ := return utf8 "no network"

partial def readBytes (stream : IO.FS.Stream) (line : Text) : IO Text := do
  if bufferSize ≤ line.length then return line
  let next ← stream.read 1
  match next.data.toList with
  | [] => return line
  | b :: _ => if b == 0x0A then return line ++ [b] else readBytes stream (line ++ [b])

partial def converse (stream : IO.FS.Stream) (r : Repl) (unread : Text) : IO Unit := do
  Surroundings.print (prompt r.pending)
  let t ← readBytes stream unread
  if t.isEmpty then r.leaveAtEnd
  else
    let (line, unread) := firstLine t
    let r ← r.hear (.line line)
    if r.ended then r.leave else converse stream r unread

end Shell

end TurtleLogo

def main (args : List String) : IO UInt32 := do
  match ← TurtleLogo.Shell.run (args.map TurtleLogo.utf8) with
  | .exit code => return code.toUInt32
  | .converse r =>
    TurtleLogo.Shell.converse (← IO.getStdin) r []
    return 0
