import TurtleLogo.Text.Glyph

/-!
# Blanks

The blank characters are those with the Unicode property White_Space. Names are trimmed of blanks
at both ends, and a line of input is split into fields at its blanks.
-/

set_option autoImplicit false

namespace TurtleLogo

namespace Text

def isBlankCode (code : Nat) : Bool :=
  (0x09 ≤ code && code ≤ 0x0D) || code == 0x20 || code == 0x85 || code == 0xA0 || code == 0x1680
    || (0x2000 ≤ code && code ≤ 0x200A) || code == 0x2028 || code == 0x2029 || code == 0x202F
    || code == 0x205F || code == 0x3000

def isBlank : Glyph → Bool
  | .char code => isBlankCode code
  | .stray _ => false

def trim (t : Text) : Text :=
  Glyph.write ((((Glyph.read t).dropWhile isBlank).reverse.dropWhile isBlank).reverse)

/-- The runs of glyphs between blanks. `field` is the run read so far. -/
def fieldsFrom (field : List Glyph) : List Glyph → List (List Glyph)
  | [] => if field.isEmpty then [] else [field]
  | g :: rest =>
    if isBlank g then
      if field.isEmpty then fieldsFrom [] rest else field :: fieldsFrom [] rest
    else fieldsFrom (field ++ [g]) rest

def fields (t : Text) : List Text :=
  (fieldsFrom [] (Glyph.read t)).map Glyph.write

end Text

end TurtleLogo
