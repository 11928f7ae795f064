import TurtleLogo.Number.Literal
import TurtleLogo.Number.Layout

/-!
# Values

The value of an argument is a number that a variable holds, or the argument's own text, which may
be a number literal. Counts are numbers without their fraction, kept within the 64-bit integers.
-/

set_option autoImplicit false

namespace TurtleLogo

inductive Value where
  | void
  | number (x : Float)
  | word (text : Text)

namespace Value

/-- The number a value stands for: the number itself unless it is not one, or what a word that
starts with a digit reads as. -/
def float? : Value → Option Float
  | .void => none
  | .number x => if Number.isNaN x then none else some x
  | .word [] => none
  | .word (b :: rest) => if Text.isDigit b then Number.read? (b :: rest) else none

def leastCount : Int := -Int.pow 2 63

def greatestCount : Int := Int.pow 2 63 - 1

/-- The count a value stands for: its number without the fraction. What lies beyond the counts
becomes the last one on its side. The ends of their range are compared as doubles, for which the
greatest count is rounded up. -/
def int? (v : Value) : Option Int :=
  match v.float? with
  | none => none
  | some x =>
    match Number.parts x with
    | .finite negative m q =>
      if Float.ofInt greatestCount ≤ x then some greatestCount
      else if x ≤ Float.ofInt leastCount then some leastCount
      else
        let n : Int := Number.truncate m q
        some (if negative then -n else n)
    | _ => none

def text : Value → Text
  | .void => []
  | .number x => Number.general x
  | .word t => t

end Value

end TurtleLogo
