import TurtleLogo.Text

/-!
# Drawing instructions

All that a running program asks of the turtle.
-/

set_option autoImplicit false

namespace TurtleLogo

inductive Sense where
  | clockwise
  | counterClockwise
  deriving DecidableEq, Repr

def Sense.factor : Sense → Int
  | .clockwise => 1
  | .counterClockwise => -1

inductive Instruction where
  | advance (distance : Float)
  | turn (degrees : Float) (sense : Sense)
  | pen (down : Bool)
  | color (spec : Text)
  | reset

end TurtleLogo
