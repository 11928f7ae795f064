import TurtleLogo.Text.Quoted
import TurtleLogo.Text.Caseless
import TurtleLogo.Number.Layout

/-!
# The log

A log entry is a line with its level, the path of the part of the program that wrote it, and a
message. A logger drops entries below its threshold. The time of an entry is added where the line
is written.
-/

set_option autoImplicit false

namespace TurtleLogo

namespace Log

inductive Level where
  | debug
  | info
  | warn
  | error
  deriving DecidableEq, Repr

namespace Level

def rank : Level → Int
  | .debug => 0
  | .info => 1
  | .warn => 2
  | .error => 3

def name : Level → Text
  | .debug => utf8 "DEBUG"
  | .info => utf8 "INFO"
  | .warn => utf8 "WARN"
  | .error => utf8 "ERROR"

def ofRank? (n : Int) : Option Level :=
  if n = 0 then some .debug
  else if n = 1 then some .info
  else if n = 2 then some .warn
  else if n = 3 then some .error
  else none

def nameOfRank (n : Int) : Text :=
  match ofRank? n with
  | some level => level.name
  | none => utf8 "UNKNOWN"

/-- The level that a setting names, in any casing; an empty setting means `info`. -/
def named? (t : Text) : Option Level :=
  if Text.spells t (utf8 "debug") then some .debug
  else if Text.spells t (utf8 "info") || t.isEmpty then some .info
  else if Text.spells t (utf8 "warn") || Text.spells t (utf8 "warning") then some .warn
  else if Text.spells t (utf8 "error") then some .error
  else none

def unknownMessage (t : Text) : Text :=
  utf8 "logger: unknown level " ++ Text.quoted t

def paint : Level → Text × Text
  | .debug => (utf8 "\x1b[90m", utf8 "\x1b[0m")
  | .info => (utf8 "\x1b[36m", utf8 "\x1b[0m")
  | .warn => (utf8 "\x1b[33m", utf8 "\x1b[0m")
  | .error => (utf8 "\x1b[31;1m", utf8 "\x1b[0;22m")

end Level

end Log

/-- Where log entries go: the least rank that is kept, the path shown with each entry, and whether
levels are coloured. -/
structure Logger where
  threshold : Int
  path : Text
  colored : Bool
  deriving DecidableEq, Repr

namespace Logger

open Log

def silent : Logger :=
  ⟨Level.error.rank + 1, [], false⟩

def part (l : Logger) (name : Text) : Logger :=
  { l with path := if l.path.isEmpty then name else l.path ++ utf8 "/" ++ name }

def tag (l : Logger) (level : Level) : Text :=
  if l.colored then level.paint.1 ++ level.name ++ level.paint.2 else level.name

/-- The line of an entry, or nothing when it is below the threshold. -/
def entry (l : Logger) (level : Level) (message : Text) : Text :=
  if level.rank < l.threshold then []
  else
    l.tag level ++ utf8 " "
      ++ (if l.path.isEmpty then [] else utf8 "[" ++ l.path ++ utf8 "] ") ++ message ++ utf8 "\n"

def debug (l : Logger) (message : Text) : Text :=
  l.entry .debug message

def info (l : Logger) (message : Text) : Text :=
  l.entry .info message

def warn (l : Logger) (message : Text) : Text :=
  l.entry .warn message

def error (l : Logger) (message : Text) : Text :=
  l.entry .error message

def started (l : Logger) (task : Text) : Text :=
  l.debug (utf8 "starting: " ++ task)

def completed (l : Logger) (task elapsed : Text) : Text :=
  l.debug (utf8 "completed: " ++ task ++ utf8 " (took " ++ elapsed ++ utf8 ")")

/-- A program has run: the number of steps it took, the number of segments on the canvas, and why it
failed, if it did. -/
def ran (l : Logger) (program : Text) (steps segments : Int) (failure : Option Text) : Text :=
  match failure with
  | some reason =>
    l.warn (program ++ utf8 " failed after " ++ Number.grouped steps ++ utf8 " steps: " ++ reason)
  | none =>
    l.info (program ++ utf8 " finished: " ++ Number.grouped steps ++ utf8 " steps, "
      ++ Number.grouped segments ++ utf8 " segments")

end Logger

end TurtleLogo
