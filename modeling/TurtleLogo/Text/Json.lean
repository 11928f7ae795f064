import TurtleLogo.Text.Glyph

/-!
# JSON texts

Values are written without blanks, the fields of an object in the order given. Characters that could
end a script or a tag around the text are escaped, and so are controls; a byte that is no character
is replaced.
-/

set_option autoImplicit false

namespace TurtleLogo

namespace Text

inductive Json where
  | string (t : Text)
  | number (n : Int)
  | array (items : List Json)
  | object (fields : List (Text × Json))

namespace Json

def numbered (code : Nat) : Text :=
  utf8 "\\u" ++ hex 4 code

/-- A character inside a string. The replacement for a byte that is none is not escaped itself. -/
def escaped : Glyph → Text
  | .stray _ => Glyph.encode Glyph.replacement
  | .char 0x22 => utf8 "\\\""
  | .char 0x5C => utf8 "\\\\"
  | .char 0x08 => utf8 "\\b"
  | .char 0x0C => utf8 "\\f"
  | .char 0x0A => utf8 "\\n"
  | .char 0x0D => utf8 "\\r"
  | .char 0x09 => utf8 "\\t"
  | .char 0x2028 => utf8 "\\u2028"
  | .char 0x2029 => utf8 "\\u2029"
  | .char code =>
    if code < 0x20 || code == 0x3C || code == 0x3E || code == 0x26 then numbered code
    else Glyph.encode code

def writeString (t : Text) : Text :=
  utf8 "\"" ++ (Glyph.read t).flatMap escaped ++ utf8 "\""

mutual

def write : Json → Text
  | .string t => writeString t
  | .number n => ofInt n
  | .array items => utf8 "[" ++ join (utf8 ",") (writeItems items) ++ utf8 "]"
  | .object fields => utf8 "\x7b" ++ join (utf8 ",") (writeFields fields) ++ utf8 "\x7d"

def writeItems : List Json → List Text
  | [] => []
  | item :: items => write item :: writeItems items

def writeFields : List (Text × Json) → List Text
  | [] => []
  | (name, value) :: fields =>
    (writeString name ++ utf8 ":" ++ write value) :: writeFields fields

end

end Json

end Text

end TurtleLogo
