import TurtleLogo.Turtle
import TurtleLogo.Number.Layout

/-!
# Drawings

A drawing is written as a standalone SVG document: the background if there is one, a line for every
segment in the order they were drawn, and the turtle itself as a triangle. Coordinates have at most
three decimals. Colours are arbitrary texts and stand in quoted attributes, so the characters that
could end one are written as references.
-/

set_option autoImplicit false

namespace TurtleLogo

namespace Turtle

/-- A coordinate with at most three decimals and no negative zero. -/
def coordinate (x : Float) : Text :=
  Number.plain ((x * 1000).round / 1000 + 0)

def escapeByte (b : UInt8) : Text :=
  if b == 0x26 then utf8 "&amp;"
  else if b == 0x27 then utf8 "&#39;"
  else if b == 0x3C then utf8 "&lt;"
  else if b == 0x3E then utf8 "&gt;"
  else if b == 0x22 then utf8 "&#34;"
  else [b]

def escape (t : Text) : Text :=
  t.flatMap escapeByte

def openingTag (o : Options) : Text :=
  let width := coordinate o.width
  let height := coordinate o.height
  utf8 "<svg xmlns=\"http://www.w3.org/2000/svg\" width=\"" ++ width ++ utf8 "\" height=\"" ++ height
    ++ utf8 "\" viewBox=\"0 0 " ++ width ++ utf8 " " ++ height ++ utf8 "\">\n"

def backgroundElement (background : Text) : Text :=
  if background.isEmpty then []
  else utf8 "  <rect width=\"100%\" height=\"100%\" fill=\"" ++ escape background ++ utf8 "\"/>\n"

def lineElement (s : Segment) : Text :=
  utf8 "  <line x1=\"" ++ coordinate s.origin.x ++ utf8 "\" y1=\"" ++ coordinate s.origin.y
    ++ utf8 "\" x2=\"" ++ coordinate s.target.x ++ utf8 "\" y2=\"" ++ coordinate s.target.y
    ++ utf8 "\" stroke=\"" ++ escape s.color ++ utf8 "\" stroke-width=\"" ++ coordinate s.width
    ++ utf8 "\" stroke-linecap=\"round\"/>\n"

/-- The turtle: a triangle that looks up before it is rotated. -/
def cursorElement (t : Turtle) : Text :=
  utf8 "  <polygon points=\"0,-10 7,7 -7,7\" fill=\"" ++ escape t.color
    ++ utf8 "\" transform=\"translate(" ++ coordinate t.position.x ++ utf8 " "
    ++ coordinate t.position.y ++ utf8 ") rotate(" ++ coordinate (t.heading + 90) ++ utf8 ")\"/>\n"

def svg (t : Turtle) : Text :=
  openingTag t.options ++ backgroundElement t.options.background
    ++ t.segments.toList.flatMap lineElement
    ++ (if t.options.showCursor then cursorElement t else []) ++ utf8 "</svg>\n"

def writeError (reason : Text) : Text :=
  utf8 "turtle: write svg: " ++ reason

end Turtle

end TurtleLogo
