import TurtleLogo.Number.Binary

/-!
# Number literals

A literal is decimal, with an optional fraction and an optional exponent of ten, or hexadecimal
behind `0x`, with an exponent of two that must be there. Underscores may separate digits. A literal
reads as the nearest double; one beyond the largest double is refused.
-/

set_option autoImplicit false

namespace TurtleLogo

namespace Number

/-- An exponent grows no further once it has five digits: it is out of range for any literal. -/
def exponentDigits (digits : Text) : Nat :=
  digits.foldl (fun e b => if e < 10000 then e * 10 + Text.digitValue b else e) 0

def exponent? (t : Text) : Option Int :=
  let (negative, digits) :=
    match t with
    | 0x2B :: rest => (false, rest)
    | 0x2D :: rest => (true, rest)
    | _ => (false, t)
  if digits.isEmpty || !digits.all Text.isDigit then none
  else
    let e := exponentDigits digits
    some (if negative then -e else e)

/-- Digits with at most one point among them: the digits before it, those behind it, and the text
that follows. -/
def pointed (isDigit : UInt8 → Bool) (t : Text) : Text × Text × Text :=
  let whole := t.takeWhile isDigit
  match t.dropWhile isDigit with
  | 0x2E :: rest => (whole, rest.takeWhile isDigit, rest.dropWhile isDigit)
  | rest => (whole, [], rest)

def ofDecimal? (negative : Bool) (digits : Nat) : Int → Option Float
  | .ofNat k => ofRatio? negative (digits * Nat.pow 10 k) 1
  | .negSucc k => ofRatio? negative digits (Nat.pow 10 (k + 1))

def ofBinary? (negative : Bool) (digits : Nat) : Int → Option Float
  | .ofNat k => ofRatio? negative (digits * Nat.pow 2 k) 1
  | .negSucc k => ofRatio? negative digits (Nat.pow 2 (k + 1))

/-- Whether each underscore stands between two digits. `afterDigit` says whether a digit came just
before; a mark in front of the digits counts as one. -/
def separatorsFit (isDigit : UInt8 → Bool) (afterDigit : Bool) : Text → Bool
  | [] => true
  | b :: rest =>
    if b == 0x5F then
      afterDigit && (match rest with | c :: _ => isDigit c | [] => false) &&
        separatorsFit isDigit false rest
    else separatorsFit isDigit (isDigit b) rest

def withoutSeparators (t : Text) : Text :=
  t.filter (· != 0x5F)

def decimal? (negative : Bool) (t : Text) : Option Float :=
  if !separatorsFit Text.isDigit false t then none
  else
    let (whole, fraction, rest) := pointed Text.isDigit (withoutSeparators t)
    let digits := whole ++ fraction
    if digits.isEmpty then none
    else
      let scaled (e : Int) := ofDecimal? negative (Text.toNat digits) (e - fraction.length)
      match rest with
      | [] => scaled 0
      | b :: tail =>
        if b == 0x65 || b == 0x45 then (exponent? tail).bind scaled else none

def isHexDigit (b : UInt8) : Bool :=
  Text.isDigit b || (0x61 ≤ b && b ≤ 0x66) || (0x41 ≤ b && b ≤ 0x46)

def hexDigitValue (b : UInt8) : Nat :=
  if Text.isDigit b then b.toNat - 0x30
  else if b < 0x61 then b.toNat - 0x37
  else b.toNat - 0x57

def hexadecimal? (negative : Bool) (t : Text) : Option Float :=
  if !separatorsFit isHexDigit true t then none
  else
    let (whole, fraction, rest) := pointed isHexDigit (withoutSeparators t)
    let digits := whole ++ fraction
    if digits.isEmpty then none
    else
      let n := digits.foldl (fun n b => n * 16 + hexDigitValue b) 0
      match rest with
      | b :: tail =>
        if b == 0x70 || b == 0x50 then
          (exponent? tail).bind fun e => ofBinary? negative n (e - 4 * fraction.length)
        else none
      | [] => none

def unsigned? (negative : Bool) (t : Text) : Option Float :=
  match t with
  | 0x30 :: x :: b :: rest =>
    if x == 0x78 || x == 0x58 then hexadecimal? negative (b :: rest) else decimal? negative t
  | _ => decimal? negative t

def read? (t : Text) : Option Float :=
  unsigned? false t

def readSigned? (t : Text) : Option Float :=
  match t with
  | 0x2B :: rest => unsigned? false rest
  | 0x2D :: rest => unsigned? true rest
  | _ => unsigned? false t

end Number

end TurtleLogo
