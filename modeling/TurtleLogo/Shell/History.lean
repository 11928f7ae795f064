import TurtleLogo.Shell.Lines
import TurtleLogo.Text.Glyph

/-!
# The history of inputs

The inputs of earlier conversations and of this one, the oldest first, one to a line. It keeps only
the latest, and an input that repeats the one before it is not added.
-/

set_option autoImplicit false

namespace TurtleLogo

namespace Shell

abbrev History := List Text

namespace History

def limit : Nat := 1000

def latest (h : History) : History :=
  h.drop (h.length - limit)

def add (h : History) (input : Text) : History :=
  if h.getLast? == some input then h else latest (h ++ [input])

def isReadable (line : Text) : Bool :=
  (Glyph.read line).all fun
    | .char _ => true
    | .stray _ => false

/-- The inputs in a text of at most `fuel` bytes, up to the first line that is too long or not
valid. -/
def inputs : (fuel : Nat) → Text → History
  | 0, _ => []
  | _, [] => []
  | fuel + 1, t =>
    let (line, rest) := firstLine t
    if startsWhole t && isReadable line then line :: inputs fuel rest else []

def read (t : Text) : History :=
  latest (inputs t.length t)

def write (h : History) : Text :=
  h.flatMap fun input => input ++ utf8 "\n"

end History

end Shell

end TurtleLogo
