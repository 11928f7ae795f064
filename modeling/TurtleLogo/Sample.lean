import TurtleLogo.Text.Caseless

/-!
# Samples

Ready-made programs for new users. They are found by name, in any casing.
-/

set_option autoImplicit false

namespace TurtleLogo

structure Sample where
  name : Text
  title : Text
  source : Text
  deriving DecidableEq, Repr

namespace Sample

def starter : Text :=
  utf8 "DEF SQUARE\n  REPEAT 4 [ FD 100 RT 90 ]\nEND\n\nSQUARE"

def square : Sample :=
  ⟨utf8 "square", utf8 "Square", starter⟩

def star : Sample :=
  ⟨utf8 "star", utf8 "Star", utf8 "SETCOLOR gold\nREPEAT 5 [ FD 150 RT 144 ]"⟩

def flower : Sample :=
  ⟨utf8 "flower", utf8 "Flower",
    utf8 "DEF PETAL\n  REPEAT 36 [ FD 4 RT 5 ]\n  RT 180\n  REPEAT 36 [ FD 4 RT 5 ]\n  RT 180\nEND\n\n" ++
      utf8 "SETCOLOR hotpink\nREPEAT 8 [ PETAL RT 45 ]"⟩

def hexagons : Sample :=
  ⟨utf8 "hexagons", utf8 "Hexagon Ring",
    utf8 "DEF HEX\n  REPEAT 6 [ FD 60 RT 60 ]\nEND\n\nSETCOLOR teal\nREPEAT 12 [ HEX RT 30 ]"⟩

def stairs : Sample :=
  ⟨utf8 "stairs", utf8 "Stairs",
    utf8 "SETCOLOR orange\nPU BK 150 LT 90 FD 150 RT 90 PD\nREPEAT 6 [ FD 40 RT 90 FD 40 LT 90 ]"⟩

def all : List Sample :=
  [square, star, flower, hexagons, stairs]

def find? (name : Text) : Option Sample :=
  all.find? fun s => Text.variantOf name s.name

end Sample

end TurtleLogo
