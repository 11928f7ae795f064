import TurtleLogo.Number.Binary

/-!
# Decimal digits of a double

`shortest` finds the fewest decimal digits that read back as the same double, and of several such
decimals the nearest. For each number of digits it looks at the two decimals around the value and
asks whether they lie among the reals that round to it, in exact arithmetic.
-/

set_option autoImplicit false

namespace TurtleLogo

namespace Number

/-- Digits `d₁d₂…dₙ` and an exponent `e` stand for `d₁.d₂…dₙ * 10 ^ e`. -/
structure Decimal where
  digits : List Nat
  exponent : Int
  deriving DecidableEq, Repr

def digitsOf (n : Nat) : List Nat :=
  (Nat.toDigits 10 n).map fun c => c.toNat - 0x30

def trimZeros (digits : List Nat) : List Nat :=
  match (digits.reverse.dropWhile (· == 0)).reverse with
  | [] => [0]
  | kept => kept

def ratio (m : Nat) (q : Int) : Nat × Nat :=
  scaleRatio m 1 q

def scaledLe (a : Nat) (e : Int) (num den : Nat) : Bool :=
  match e with
  | .ofNat k => a * Nat.pow 10 k * den ≤ num
  | .negSucc k => a * den ≤ num * Nat.pow 10 (k + 1)

def leScaled (num den a : Nat) (e : Int) : Bool :=
  match e with
  | .ofNat k => num ≤ a * Nat.pow 10 k * den
  | .negSucc k => num * Nat.pow 10 (k + 1) ≤ a * den

/-- The exponent `e` with `10 ^ e ≤ num / den < 10 ^ (e + 1)`, for a positive ratio. -/
def decimalExponent (num den : Nat) : Int :=
  let guess : Int := ((digitsOf num).length : Int) - (digitsOf den).length
  if scaledLe 1 guess num den then guess else guess - 1

/-- `num / den * 10 ^ e`, rounded down, and whether twice the rest is below, at or above one. -/
def scaledFloor (num den : Nat) (e : Int) : Nat × Ordering :=
  let (n, d) :=
    match e with
    | .ofNat k => (num * Nat.pow 10 k, den)
    | .negSucc k => (num, den * Nat.pow 10 (k + 1))
  (n / d, compare (2 * (n % d)) d)

/-- The reals that round to a double: from `low` to `high`, the ends included or not. All are over
the one denominator `den`, as is the double itself. -/
structure Interval where
  low : Nat
  value : Nat
  high : Nat
  den : Nat
  closed : Bool

/-- The reals that round to `m * 2 ^ q`. Below a power of two the doubles are twice as dense. -/
def roundingInterval (m : Nat) (q : Int) : Interval :=
  let (unit, den) := ratio 1 (q - 2)
  let low := if m = Nat.pow 2 52 ∧ -1074 < q then 4 * m - 1 else 4 * m - 2
  ⟨low * unit, 4 * m * unit, (4 * m + 2) * unit, den, m % 2 == 0⟩

def Interval.holds (i : Interval) (a : Nat) (e : Int) : Bool :=
  if i.closed then leScaled i.low i.den a e && scaledLe a e i.high i.den
  else !scaledLe a e i.low i.den && !leScaled i.high i.den a e

/-- The decimal of the given number of digits that reads back, if there is one. Of two the nearer
one is taken, and of two equally near the even one. -/
def shortestWith (i : Interval) (e : Int) (count : Nat) : Option Nat :=
  let grid := e + 1 - count
  let (down, rest) := scaledFloor i.value i.den (-grid)
  let up := down + 1
  match i.holds down grid, i.holds up grid with
  | false, false => none
  | true, false => some down
  | false, true => some up
  | true, true =>
    match rest with
    | .lt => some down
    | .gt => some up
    | .eq => some (if down % 2 = 0 then down else up)

def shortestFrom (i : Interval) (e : Int) : (fuel count : Nat) → Nat × Nat
  | 0, count => ((scaledFloor i.value i.den (count - 1 - e)).1, count)
  | fuel + 1, count =>
    match shortestWith i e count with
    | some n => (n, count)
    | none => shortestFrom i e fuel (count + 1)

/-- The fewest digits that read back as the positive double `m * 2 ^ q`; seventeen always do. -/
def shortest (m : Nat) (q : Int) : Decimal :=
  let i := roundingInterval m q
  let e := decimalExponent i.value i.den
  let (n, count) := shortestFrom i e 17 1
  let digits := digitsOf n
  -- rounding up may carry into a new digit
  ⟨trimZeros digits, e + (digits.length - count)⟩

end Number

end TurtleLogo
