/-!
# Texts

A text is the list of its bytes. Program sources, names, colours and messages are all texts; they
are usually UTF-8, but nothing requires it, so no byte of a source is ever lost on the way to a
message or a saved program.
-/

set_option autoImplicit false

namespace TurtleLogo

/-- A text is the list of its bytes, which need not be valid UTF-8. -/
abbrev Text := List UInt8

def utf8 (s : String) : Text :=
  s.toUTF8.data.toList

namespace Text

def newline : UInt8 := 0x0A

def isDigit (b : UInt8) : Bool :=
  0x30 ≤ b && b ≤ 0x39

def isLower (b : UInt8) : Bool :=
  0x61 ≤ b && b ≤ 0x7A

def isUpper (b : UInt8) : Bool :=
  0x41 ≤ b && b ≤ 0x5A

def isNameStart (b : UInt8) : Bool :=
  isLower b || isUpper b || b == 0x5F

def isNamePart (b : UInt8) : Bool :=
  isNameStart b || isDigit b

def isAscii (b : UInt8) : Bool :=
  b < 0x80

/-- The byte of the decimal or lower-case hexadecimal digit `d`, for `d < 16`. -/
def digitByte (d : Nat) : UInt8 :=
  if d < 10 then UInt8.ofNat (0x30 + d) else UInt8.ofNat (0x57 + d)

def digitValue (b : UInt8) : Nat :=
  b.toNat - 0x30

def ofNat (n : Nat) : Text :=
  (Nat.toDigits 10 n).map fun c => UInt8.ofNat c.toNat

def ofInt : Int → Text
  | .ofNat n => ofNat n
  | .negSucc n => utf8 "-" ++ ofNat (n + 1)

def toNat (digits : Text) : Nat :=
  digits.foldl (fun n b => n * 10 + digitValue b) 0

/-- The `width` lowest hexadecimal digits of `n`. -/
def hex : (width : Nat) → (n : Nat) → Text
  | 0, _ => []
  | width + 1, n => hex width (n / 16) ++ [digitByte (n % 16)]

def hexBytes (t : Text) : Text :=
  t.flatMap fun b => hex 2 b.toNat

/-- Splits a text at every occurrence of the byte `sep`; the pieces are as many as the separators
and one more. -/
def splitAt (sep : UInt8) : Text → List Text
  | [] => [[]]
  | b :: rest =>
    if b == sep then [] :: splitAt sep rest
    else
      match splitAt sep rest with
      | [] => [[b]]
      | piece :: pieces => (b :: piece) :: pieces

def join (sep : Text) : List Text → Text
  | [] => []
  | [t] => t
  | t :: rest => t ++ sep ++ join sep rest

/-- The order of texts byte by byte, a text before its extensions. -/
def precedes : Text → Text → Bool
  | [], [] => false
  | [], _ :: _ => true
  | _ :: _, [] => false
  | a :: s, b :: t => a < b || (a == b && precedes s t)

end Text

end TurtleLogo
