import TurtleLogo.Text.Printable

/-!
# Quoted texts

Messages show a name between double quotes. What is printable stands as it is; quotes, backslashes,
control characters, unprintable characters and stray bytes are written as escapes.
-/

set_option autoImplicit false

namespace TurtleLogo

namespace Text

def shortEscape? (code : Nat) : Option Text :=
  match code with
  | 0x07 => some (utf8 "\\a")
  | 0x08 => some (utf8 "\\b")
  | 0x0C => some (utf8 "\\f")
  | 0x0A => some (utf8 "\\n")
  | 0x0D => some (utf8 "\\r")
  | 0x09 => some (utf8 "\\t")
  | 0x0B => some (utf8 "\\v")
  | _ => none

def quotedChar (code : Nat) : Text :=
  if code == 0x22 || code == 0x5C then [0x5C, UInt8.ofNat code]
  else if isPrintable code then Glyph.encode code
  else
    match shortEscape? code with
    | some escape => escape
    | none =>
      if code < 0x20 || code == 0x7F then utf8 "\\x" ++ hex 2 code
      else if code < 0x10000 then utf8 "\\u" ++ hex 4 code
      else utf8 "\\U" ++ hex 8 code

def quotedGlyph : Glyph → Text
  | .char code => quotedChar code
  | .stray b => utf8 "\\x" ++ hex 2 b.toNat

def quoted (t : Text) : Text :=
  utf8 "\"" ++ (Glyph.read t).flatMap quotedGlyph ++ utf8 "\""

end Text

end TurtleLogo
