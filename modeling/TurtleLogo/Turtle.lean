import TurtleLogo.Instruction

/-!
# The turtle

The turtle stands on a canvas with its origin at the top left, looks in some direction and draws a
segment for every move it makes with the pen down. Heading 0 looks to the right and angles grow
clockwise; at home the turtle is in the centre and looks up.
-/

set_option autoImplicit false

namespace TurtleLogo

structure Point where
  x : Float
  y : Float

structure Segment where
  origin : Point
  target : Point
  color : Text
  width : Float

namespace Turtle

/-- The canvas, and the pen a turtle has at home. -/
structure Options where
  width : Float
  height : Float
  color : Text
  penWidth : Float
  background : Text
  showCursor : Bool

def Options.standard : Options :=
  ⟨800, 600, utf8 "#ff6b6b", 2, utf8 "#ffffff", true⟩

end Turtle

structure Turtle where
  options : Turtle.Options
  position : Point
  heading : Float
  penDown : Bool
  color : Text
  segments : Array Segment

namespace Turtle

def pi : Float := 3.141592653589793

def home (options : Options) : Turtle :=
  ⟨options, ⟨options.width / 2, options.height / 2⟩, -90, true, options.color, #[]⟩

def reset (t : Turtle) : Turtle :=
  home t.options

def ahead (t : Turtle) (distance : Float) : Point :=
  let angle := t.heading * pi / 180
  ⟨t.position.x + distance * Float.cos angle, t.position.y + distance * Float.sin angle⟩

def advance (t : Turtle) (distance : Float) : Turtle :=
  let target := t.ahead distance
  { t with
    position := target
    segments :=
      if t.penDown then t.segments.push ⟨t.position, target, t.color, t.options.penWidth⟩
      else t.segments }

/-- Turns by an angle in degrees, times a factor that gives the sense. -/
def turn (t : Turtle) (degrees : Float) (factor : Int) : Turtle :=
  { t with heading := t.heading + degrees * Float.ofInt factor }

def setPen (t : Turtle) (down : Bool) : Turtle :=
  { t with penDown := down }

def setColor (t : Turtle) (spec : Text) : Turtle :=
  { t with color := spec }

def follow (t : Turtle) : Instruction → Turtle
  | .advance distance => t.advance distance
  | .turn degrees sense => t.turn degrees sense.factor
  | .pen down => t.setPen down
  | .color spec => t.setColor spec
  | .reset => t.reset

def followAll (t : Turtle) (instructions : List Instruction) : Turtle :=
  instructions.foldl follow t

end Turtle

end TurtleLogo
