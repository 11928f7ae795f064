import TurtleLogo.Number.Decimal

/-!
# Written numbers

A number is written with the fewest digits that read back, either without an exponent however long
it gets (`plain`), or with one when it is very small or has more than six digits before the point
(`general`).
-/

set_option autoImplicit false

namespace TurtleLogo

namespace Number

def digitText (digits : List Nat) : Text :=
  digits.map Text.digitByte

def zeros (n : Nat) : Text :=
  List.replicate n 0x30

def sign (negative : Bool) : Text :=
  if negative then utf8 "-" else []

def special : Parts → Option Text
  | .nan => some (utf8 "NaN")
  | .infinite negative => some (utf8 (if negative then "-Inf" else "+Inf"))
  | .finite .. => none

def behindPoint (digits : Text) : Text :=
  if digits.isEmpty then [] else utf8 "." ++ digits

def positional (d : Decimal) : Text :=
  match d.exponent with
  | .ofNat k =>
    let whole := d.digits.take (k + 1)
    digitText whole ++ zeros (k + 1 - whole.length) ++ behindPoint (digitText (d.digits.drop (k + 1)))
  | .negSucc k => utf8 "0." ++ zeros k ++ digitText d.digits

def exponentText (e : Int) : Text :=
  let digits := Text.ofNat e.natAbs
  utf8 (if e < 0 then "e-" else "e+") ++ zeros (2 - digits.length) ++ digits

def withExponent (d : Decimal) : Text :=
  digitText (d.digits.take 1) ++ behindPoint (digitText (d.digits.drop 1)) ++ exponentText d.exponent

def digitsOfParts (m : Nat) (q : Int) : Decimal :=
  if m = 0 then ⟨[0], 0⟩ else shortest m q

def generalDecimal (d : Decimal) : Text :=
  if d.exponent < -4 ∨ 6 ≤ d.exponent then withExponent d else positional d

def general (x : Float) : Text :=
  match parts x with
  | .finite negative m q => sign negative ++ generalDecimal (digitsOfParts m q)
  | other => (special other).getD []

def plain (x : Float) : Text :=
  match parts x with
  | .finite negative m q => sign negative ++ positional (digitsOfParts m q)
  | other => (special other).getD []

def padded (width n : Nat) : Text :=
  let digits := Text.ofNat n
  zeros (width - digits.length) ++ digits

/-- Groups the digits of a number by threes; `digits` are the last first. -/
def groupThrees : Text → Text
  | a :: b :: c :: d :: rest => a :: b :: c :: 0x2C :: groupThrees (d :: rest)
  | few => few

def grouped (n : Int) : Text :=
  sign (n < 0) ++ (groupThrees (Text.ofNat n.natAbs).reverse).reverse

end Number

end TurtleLogo
