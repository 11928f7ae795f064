import TurtleLogo.Text

/-!
# Base 64

Four letters write three bytes. The last letters of a text may be replaced by padding; line ends
between the letters do not count.
-/

set_option autoImplicit false

namespace TurtleLogo

namespace Text

def sextet? (b : UInt8) : Option Nat :=
  if isUpper b then some (b.toNat - 0x41)
  else if isLower b then some (b.toNat - 0x61 + 26)
  else if isDigit b then some (b.toNat - 0x30 + 52)
  else if b == 0x2B then some 62
  else if b == 0x2F then some 63
  else none

def ofSextets (a b c d : Nat) : Text :=
  let n := ((a * 64 + b) * 64 + c) * 64 + d
  [UInt8.ofNat (n / 65536), UInt8.ofNat (n / 256), UInt8.ofNat n]

def ofLetters? : Text → Option Text
  | [] => some []
  | [a, b, 0x3D, 0x3D] => do
    let a ← sextet? a
    let b ← sextet? b
    some ((ofSextets a b 0 0).take 1)
  | [a, b, c, 0x3D] => do
    let a ← sextet? a
    let b ← sextet? b
    let c ← sextet? c
    some ((ofSextets a b c 0).take 2)
  | a :: b :: c :: d :: rest => do
    let a ← sextet? a
    let b ← sextet? b
    let c ← sextet? c
    let d ← sextet? d
    let more ← ofLetters? rest
    some (ofSextets a b c d ++ more)
  | _ => none

def ofBase64? (t : Text) : Option Text :=
  ofLetters? (t.filter fun b => b != 0x0A && b != 0x0D)

end Text

end TurtleLogo
