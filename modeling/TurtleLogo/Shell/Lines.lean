import TurtleLogo.Text

/-!
# Lines of input

A line ends with a line feed, which may follow a return. The last line may lack its end. A line that
is longer than the buffer for one is read in pieces.
-/

set_option autoImplicit false

namespace TurtleLogo

namespace Shell

def bufferSize : Nat := 4096

def withoutReturn (line : Text) : Text :=
  match line.getLast? with
  | some 0x0D => line.dropLast
  | _ => line

/-- A piece of the buffer's size. A return at its end is left for the next piece. -/
def fullPiece (t : Text) : Text :=
  withoutReturn (t.take bufferSize)

def firstLine (t : Text) : Text × Text :=
  let line := t.takeWhile (· != 0x0A)
  if bufferSize ≤ line.length then (fullPiece t, t.drop (fullPiece t).length)
  else
    match t.drop line.length with
    | [] => (line, [])
    | _ :: rest => (withoutReturn line, rest)

def startsWhole (t : Text) : Bool :=
  (t.takeWhile (· != 0x0A)).length < bufferSize

def linesWithin : (fuel : Nat) → Text → List Text
  | 0, _ => []
  | _, [] => []
  | fuel + 1, t =>
    let (line, rest) := firstLine t
    line :: linesWithin fuel rest

def lines (t : Text) : List Text :=
  linesWithin t.length t

end Shell

end TurtleLogo
