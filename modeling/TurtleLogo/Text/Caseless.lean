import TurtleLogo.Text.Glyph

/-!
# Caseless words

Names of log levels and of samples are plain Latin words, and any mixture of cases of one names it.
Beyond ASCII a few characters are case variants of Latin letters too; they are listed here once for
each way of comparing.
-/

set_option autoImplicit false

namespace TurtleLogo

namespace Text

def smallLetter (code : Nat) : Nat :=
  if 0x41 ≤ code ∧ code ≤ 0x5A then code + 0x20 else code

/-- The small letter of a code point, as far as it is Latin: the dotted capital I and the Kelvin
sign are the capitals of `i` and `k` beyond ASCII. -/
def lowered (code : Nat) : Nat :=
  if code = 0x130 then 0x69 else if code = 0x212A then 0x6B else smallLetter code

/-- The letter that stands for all case variants of a code point, as far as it is Latin: the long s
and the Kelvin sign are variants of `s` and `k`. -/
def folded (code : Nat) : Nat :=
  if code = 0x17F then 0x73 else if code = 0x212A then 0x6B else smallLetter code

def mapGlyphs (f : Nat → Nat) (t : Text) : List Glyph :=
  (Glyph.read t).map fun
    | .char code => .char (f code)
    | .stray b => .stray b

def spells (t word : Text) : Bool :=
  mapGlyphs lowered t == Glyph.read word

def variantOf (t word : Text) : Bool :=
  mapGlyphs folded t == Glyph.read word

end Text

end TurtleLogo
