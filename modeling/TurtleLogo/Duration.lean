import TurtleLogo.Number.Layout

/-!
# Durations

A duration is a whole number of nanoseconds that fits in 64 bits. It is written with the units that
suit its size, and read as a sequence of numbers with units.
-/

set_option autoImplicit false

namespace TurtleLogo

/-- A time span in nanoseconds. -/
abbrev Duration := Int

namespace Duration

def nanosecond : Nat := 1
def microsecond : Nat := 1000
def millisecond : Nat := 1000000
def second : Nat := 1000000000
def minute : Nat := 60 * second
def hour : Nat := 60 * minute

/-- The same span backwards. The longest span backwards has no opposite of 64 bits and is its own. -/
def opposite (d : Duration) : Duration :=
  if d = -Int.pow 2 63 then d else -d

/-- `n` units of size `10 ^ places`, with the rest as a fraction without zeros at its end. -/
def decimal (n places : Nat) : Text :=
  let digits := Number.padded places (n % Nat.pow 10 places)
  let fraction := (digits.reverse.dropWhile (· == 0x30)).reverse
  Text.ofNat (n / Nat.pow 10 places) ++ Number.behindPoint fraction

def shortText (n : Nat) : Text :=
  if n = 0 then utf8 "0s"
  else if n < microsecond then Text.ofNat n ++ utf8 "ns"
  else if n < millisecond then decimal n 3 ++ utf8 "µs"
  else decimal n 6 ++ utf8 "ms"

def longText (n : Nat) : Text :=
  let seconds := decimal (n % minute) 9 ++ utf8 "s"
  let minutes := n / minute
  if minutes = 0 then seconds
  else if minutes < 60 then Text.ofNat minutes ++ utf8 "m" ++ seconds
  else Text.ofNat (minutes / 60) ++ utf8 "h" ++ Text.ofNat (minutes % 60) ++ utf8 "m" ++ seconds

def text (d : Duration) : Text :=
  Number.sign (d < 0) ++ (if d.natAbs < second then shortText d.natAbs else longText d.natAbs)

def unit? (name : Text) : Option Nat :=
  if name == utf8 "ns" then some nanosecond
  else if name == utf8 "us" || name == utf8 "µs" || name == utf8 "μs" then some microsecond
  else if name == utf8 "ms" then some millisecond
  else if name == utf8 "s" then some second
  else if name == utf8 "m" then some minute
  else if name == utf8 "h" then some hour
  else none

/-- The digits of a fraction as a number and its scale. Digits that no longer fit in 63 bits do not
count. -/
def fractionOf (digits : Text) : Nat × Nat :=
  let (x, places, _) := digits.foldl
    (fun (x, places, full) b =>
      let y := x * 10 + Text.digitValue b
      if full || (Nat.pow 2 63 - 1) / 10 < x || Nat.pow 2 63 < y then (x, places, true)
      else (y, places + 1, false))
    (0, 0, false)
  (x, Nat.pow 10 places)

def fractionSpan (x scale unit : Nat) : Nat :=
  (Float.ofNat x * (Float.ofNat unit / Float.ofNat scale)).toUInt64.toNat

def isNumberByte (b : UInt8) : Bool :=
  b == 0x2E || Text.isDigit b

def term? (t : Text) : Option (Nat × Text) :=
  let whole := t.takeWhile Text.isDigit
  let (fraction, rest) :=
    match t.dropWhile Text.isDigit with
    | 0x2E :: tail => (tail.takeWhile Text.isDigit, tail.dropWhile Text.isDigit)
    | tail => ([], tail)
  if whole.isEmpty && fraction.isEmpty then none
  else
    match unit? (rest.takeWhile fun b => !isNumberByte b) with
    | none => none
    | some unit =>
      let n := Text.toNat whole
      let (x, scale) := fractionOf fraction
      if Nat.pow 2 63 < n || Nat.pow 2 63 / unit < n then none
      else
        let span := n * unit + (if x = 0 then 0 else fractionSpan x scale unit)
        if Nat.pow 2 63 < span then none
        else some (span, rest.dropWhile fun b => !isNumberByte b)

def sumTerms : (fuel : Nat) → Text → (total : Nat) → Option Nat
  | _, [], total => some total
  | 0, _ :: _, _ => none
  | fuel + 1, t, total =>
    match term? t with
    | none => none
    | some (span, rest) =>
      if Nat.pow 2 63 < total + span then none else sumTerms fuel rest (total + span)

/-- Reads a duration: an optional sign, then `0` alone or one or more numbers with their units. What
does not fit in 64 bits is refused. -/
def parse? (t : Text) : Option Duration :=
  let (negative, rest) :=
    match t with
    | 0x2D :: rest => (true, rest)
    | 0x2B :: rest => (false, rest)
    | _ => (false, t)
  if rest == utf8 "0" then some 0
  else if rest.isEmpty then none
  else
    match sumTerms rest.length rest 0 with
    | none => none
    | some total =>
      if negative then some (-(total : Int))
      else if total < Nat.pow 2 63 then some total
      else none

end Duration

end TurtleLogo
