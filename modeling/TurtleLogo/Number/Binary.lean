import TurtleLogo.Text

/-!
# Doubles as exact numbers

A finite double is a natural number times a power of two, with a sign. `parts` takes it apart and
`ofRatio?` goes back: it gives the double nearest to a ratio of natural numbers, the even one of two
equally near. Everything that reads, writes or truncates a number goes through these two, so it is
exact arithmetic on natural numbers.
-/

set_option autoImplicit false

namespace TurtleLogo

namespace Number

/-- What a double stands for; `finite negative m q` is `m * 2 ^ q`, or its opposite. -/
inductive Parts where
  | nan
  | infinite (negative : Bool)
  | finite (negative : Bool) (m : Nat) (q : Int)
  deriving DecidableEq, Repr

def partsOfBits (bits : Nat) : Parts :=
  let negative : Bool := Nat.pow 2 63 ≤ bits
  let biased : Nat := bits / Nat.pow 2 52 % Nat.pow 2 11
  let fraction : Nat := bits % Nat.pow 2 52
  if biased = 2047 then
    if fraction = 0 then .infinite negative else .nan
  else if biased = 0 then .finite negative fraction (-1074)
  else .finite negative (Nat.pow 2 52 + fraction) ((biased : Int) - 1075)

def parts (x : Float) : Parts :=
  partsOfBits x.toBits.toNat

def isNaN (x : Float) : Bool :=
  parts x == .nan

/-- The integer nearest to `num / den`, the even one of two equally near. -/
def roundRatio (num den : Nat) : Nat :=
  let floor := num / den
  let twice := 2 * (num % den)
  if twice < den then floor
  else if den < twice then floor + 1
  else if floor % 2 = 0 then floor
  else floor + 1

def scaleRatio (num den : Nat) (q : Int) : Nat × Nat :=
  match q with
  | .ofNat k => (num * Nat.pow 2 k, den)
  | .negSucc k => (num, den * Nat.pow 2 (k + 1))

/-- The exponent `q` for which `num / den` lies in `2 ^ q * [2 ^ 52, 2 ^ 53)`, but never below that
of the smallest double. -/
def exponentOf (num den : Nat) : Int :=
  let guess : Int := (num.log2 : Int) - den.log2 - 52
  let (n, d) := scaleRatio num den (-guess)
  let exact := if n < d * Nat.pow 2 52 then guess - 1 else guess
  max exact (-1074)

/-- The bits of the positive double nearest to `num / den`; none when that is beyond the largest
one. -/
def bitsOfRatio? (num den : Nat) : Option Nat :=
  if num = 0 then some 0
  else
    let q := exponentOf num den
    let (n, d) := scaleRatio num den (-q)
    let m := roundRatio n d
    let bits := (q + 1074).toNat * Nat.pow 2 52 + m
    if bits < 2047 * Nat.pow 2 52 then some bits else none

def ofRatio? (negative : Bool) (num den : Nat) : Option Float :=
  (bitsOfRatio? num den).map fun bits =>
    Float.ofBits (UInt64.ofNat (if negative then Nat.pow 2 63 + bits else bits))

def truncate (m : Nat) : Int → Nat
  | .ofNat k => m * Nat.pow 2 k
  | .negSucc k => m / Nat.pow 2 (k + 1)

end Number

end TurtleLogo
