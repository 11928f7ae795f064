import TurtleLogo.Text.Glyph
import TurtleLogo.Yaml.Fault

/-!
# Encodings of YAML texts

A text is UTF-8, or UTF-16 in either byte order if it starts with the byte order mark of that order.
`Encoding.decode` reads the character at the start of some bytes.
-/

set_option autoImplicit false

namespace TurtleLogo

namespace Yaml

inductive Encoding where
  | octets
  | units (big : Bool)
  deriving DecidableEq, Repr

def Encoding.announced : Text → Encoding × Nat
  | 0xFF :: 0xFE :: _ => (.units false, 2)
  | 0xFE :: 0xFF :: _ => (.units true, 2)
  | 0xEF :: 0xBB :: 0xBF :: _ => (.octets, 3)
  | _ => (.octets, 0)

/-- What stands at the start of some bytes: a character of so many bytes, the first part of one,
which is a problem if no bytes follow, or no character. -/
inductive Decoded where
  | character (code width : Nat)
  | partOf (problem : Text)
  | invalid (problem : Text)
  deriving DecidableEq, Repr

def isAllowed (c : Nat) : Bool :=
  c == 0x09 || c == 0x0A || c == 0x0D || (0x20 ≤ c && c ≤ 0x7E) || c == 0x85
    || (0xA0 ≤ c && c ≤ 0xD7FF) || (0xE000 ≤ c && c ≤ 0xFFFD) || (0x10000 ≤ c && c ≤ 0x10FFFF)

def announcedWidth (b : UInt8) : Nat :=
  if b < 0x80 then 1
  else if 0xC0 ≤ b && b ≤ 0xDF then 2
  else if 0xE0 ≤ b && b ≤ 0xEF then 3
  else if 0xF0 ≤ b && b ≤ 0xF7 then 4
  else 0

def leadingBits (b : UInt8) (width : Nat) : Nat :=
  match width with
  | 1 => b.toNat
  | 2 => b.toNat % 32
  | 3 => b.toNat % 16
  | _ => b.toNat % 8

/-- The least character for which a sequence of so many bytes is short enough. -/
def leastOfWidth : (width : Nat) → Nat
  | 0 | 1 => 0
  | 2 => 0x80
  | 3 => 0x800
  | _ => 0x10000

def decodeUtf8 (t : Text) : Decoded :=
  match t with
  | [] => .partOf (utf8 "incomplete UTF-8 octet sequence")
  | b :: rest =>
    let width := announcedWidth b
    let more := rest.take (width - 1)
    if width = 0 then .invalid (utf8 "invalid leading UTF-8 octet")
    else if more.length + 1 < width then
      .partOf (utf8 "incomplete UTF-8 octet sequence")
    else if !more.all Glyph.isContinuation then
      .invalid (utf8 "invalid trailing UTF-8 octet")
    else
      let code := more.foldl (fun n c => n * 64 + c.toNat % 64) (leadingBits b width)
      if code < leastOfWidth width then
        .invalid (utf8 "invalid length of a UTF-8 sequence")
      else if (0xD800 ≤ code && code ≤ 0xDFFF) || 0x10FFFF < code then
        .invalid (utf8 "invalid Unicode character")
      else .character code width

def unit16 (big : Bool) (a b : UInt8) : Nat :=
  if big then a.toNat * 256 + b.toNat else b.toNat * 256 + a.toNat

def decodeUtf16 (big : Bool) (t : Text) : Decoded :=
  match t with
  | a :: b :: rest =>
    let unit := unit16 big a b
    if unit / 1024 = 0x37 then .invalid (utf8 "unexpected low surrogate area")
    else if unit / 1024 = 0x36 then
      match rest with
      | c :: d :: _ =>
        let low := unit16 big c d
        if low / 1024 = 0x37 then .character (0x10000 + unit % 1024 * 1024 + low % 1024) 4
        else .invalid (utf8 "expected low surrogate area")
      | _ => .partOf (utf8 "incomplete UTF-16 surrogate pair")
    else .character unit 2
  | _ => .partOf (utf8 "incomplete UTF-16 character")

def Encoding.decode (e : Encoding) (t : Text) : Decoded :=
  let found :=
    match e with
    | .octets => decodeUtf8 t
    | .units big => decodeUtf16 big t
  match found with
  | .character code width =>
    if isAllowed code then .character code width
    else .invalid (utf8 "control characters are not allowed")
  | other => other

end Yaml

end TurtleLogo
