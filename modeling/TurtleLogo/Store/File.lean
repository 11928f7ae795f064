import TurtleLogo.Store

/-!
# Store files

A store is kept in a file as a heading and the fields of its rows, each field behind its length. A
file of at most one byte is an empty store.
-/

set_option autoImplicit false

namespace TurtleLogo

namespace Store

/-- The start of every store file. The zero at its end tells the file from texts. -/
def heading : Text :=
  utf8 "turtle programs\x00"

def writeField (t : Text) : Text :=
  Text.ofNat t.length ++ utf8 ":" ++ t

def readField? (t : Text) : Option (Text × Text) :=
  let digits := t.takeWhile Text.isDigit
  match t.drop digits.length with
  | 0x3A :: rest =>
    let n := Text.toNat digits
    if digits.isEmpty || rest.length < n then none else some (rest.take n, rest.drop n)
  | _ => none

def readInt? (t : Text) : Option Int :=
  let (negative, digits) :=
    match t with
    | 0x2D :: rest => (true, rest)
    | _ => (false, t)
  if digits.isEmpty || !digits.all Text.isDigit then none
  else some (if negative then -(Text.toNat digits : Int) else Text.toNat digits)

def Row.write (r : Row) : Text :=
  writeField r.name ++ writeField r.source ++ writeField (Text.ofInt r.createdAt)
    ++ writeField (Text.ofInt r.updatedAt) ++ writeField (Text.ofInt r.removedAt)
    ++ writeField (if r.deleted then utf8 "deleted" else utf8 "live")

/-- The first row of a text, and what follows. The fingerprint is that of the source. -/
def Row.read? (t : Text) : Option (Row × Text) := do
  let (name, t) ← readField? t
  let (source, t) ← readField? t
  let (createdAt, t) ← readField? t
  let (updatedAt, t) ← readField? t
  let (removedAt, t) ← readField? t
  let (state, t) ← readField? t
  let createdAt ← readInt? createdAt
  let updatedAt ← readInt? updatedAt
  let removedAt ← readInt? removedAt
  some (⟨name, source, Fingerprint.of source, createdAt, updatedAt, removedAt,
    state == utf8 "deleted"⟩, t)

def readRows? : (fuel : Nat) → Text → Option (List Row)
  | _, [] => some []
  | 0, _ => none
  | fuel + 1, t =>
    match Row.read? t with
    | none => none
    | some (r, rest) => (readRows? fuel rest).map (r :: ·)

def toFile (s : Store) : Text :=
  heading ++ s.rows.flatMap Row.write

def ofFile? (t : Text) : Option Store :=
  if t.length ≤ 1 then some empty
  else
    match heading.isPrefixOf? t with
    | none => none
    | some rest => (readRows? rest.length rest).map fun rows => ⟨rows, false⟩

end Store

end TurtleLogo
