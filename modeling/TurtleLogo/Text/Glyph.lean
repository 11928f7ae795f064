import TurtleLogo.Text

/-!
# Glyphs

A text is read as a list of glyphs: the characters of its well-formed UTF-8 sequences, and every
byte that belongs to none. Reading loses nothing: writing the glyphs back gives the same bytes.
-/

set_option autoImplicit false

namespace TurtleLogo

/-- A character of a text, or a byte that is part of no UTF-8 sequence. -/
inductive Glyph where
  | char (code : Nat)
  | stray (byte : UInt8)
  deriving DecidableEq, Repr

namespace Glyph

def isContinuation (b : UInt8) : Bool :=
  0x80 ≤ b && b ≤ 0xBF

def tailBits (b : UInt8) : Nat :=
  b.toNat - 0x80

def pair? (a : UInt8) : Text → Option (Nat × Nat)
  | b :: _ =>
    if isContinuation b then some ((a.toNat - 0xC0) * 0x40 + tailBits b, 1) else none
  | [] => none

/-- The sequence of three bytes that starts with `a`, if it is one. Codes below 0x800 and the
surrogates have none. -/
def triple? (a : UInt8) : Text → Option (Nat × Nat)
  | b :: c :: _ =>
    let code := (a.toNat - 0xE0) * 0x1000 + tailBits b * 0x40 + tailBits c
    if isContinuation b && isContinuation c && 0x800 ≤ code
        && !(0xD800 ≤ code && code ≤ 0xDFFF) then some (code, 2)
    else none
  | _ => none

def quadruple? (a : UInt8) : Text → Option (Nat × Nat)
  | b :: c :: d :: _ =>
    let code := (a.toNat - 0xF0) * 0x40000 + tailBits b * 0x1000 + tailBits c * 0x40 + tailBits d
    if isContinuation b && isContinuation c && isContinuation d && 0x10000 ≤ code
        && code ≤ 0x10FFFF then some (code, 3)
    else none
  | _ => none

/-- The character that starts with the byte `a` in front of `rest`, and how many bytes of `rest`
belong to it. -/
def sequence? (a : UInt8) (rest : Text) : Option (Nat × Nat) :=
  if a < 0x80 then some (a.toNat, 0)
  else if 0xC2 ≤ a && a ≤ 0xDF then pair? a rest
  else if 0xE0 ≤ a && a ≤ 0xEF then triple? a rest
  else if 0xF0 ≤ a && a ≤ 0xF4 then quadruple? a rest
  else none

def readAfter : (skip : Nat) → Text → List Glyph
  | _, [] => []
  | skip + 1, _ :: rest => readAfter skip rest
  | 0, b :: rest =>
    match sequence? b rest with
    | some (code, more) => .char code :: readAfter more rest
    | none => .stray b :: readAfter 0 rest

def read (t : Text) : List Glyph :=
  readAfter 0 t

def encode (code : Nat) : Text :=
  if code < 0x80 then [UInt8.ofNat code]
  else if code < 0x800 then
    [UInt8.ofNat (0xC0 + code / 0x40), UInt8.ofNat (0x80 + code % 0x40)]
  else if code < 0x10000 then
    [UInt8.ofNat (0xE0 + code / 0x1000), UInt8.ofNat (0x80 + code / 0x40 % 0x40),
      UInt8.ofNat (0x80 + code % 0x40)]
  else
    [UInt8.ofNat (0xF0 + code / 0x40000), UInt8.ofNat (0x80 + code / 0x1000 % 0x40),
      UInt8.ofNat (0x80 + code / 0x40 % 0x40), UInt8.ofNat (0x80 + code % 0x40)]

def replacement : Nat := 0xFFFD

def bytes : Glyph → Text
  | .char code => encode code
  | .stray b => [b]

def write (glyphs : List Glyph) : Text :=
  glyphs.flatMap bytes

end Glyph

end TurtleLogo
