import TurtleLogo.Number.Literal
import TurtleLogo.Text.Base64
import TurtleLogo.Yaml.Fault
import TurtleLogo.Yaml.Timestamp

/-!
# What a scalar stands for

A scalar without quotes is a number, a truth value, a timestamp, nothing, the mark of a merge, or a
text, by the way it is spelled. The first character decides which spellings are tried. A tag in
front of a scalar asks for one of these, quotes for a text.
-/

set_option autoImplicit false

namespace TurtleLogo

namespace Yaml

inductive Resolved where
  | nothing
  | flag (b : Bool)
  | whole (n : Int)
  | real (x : Float)
  | timestamp
  | merge
  | text (content : Text)

namespace Tag

def nothing : Text := utf8 "!!null"

def text : Text := utf8 "!!str"

def binary : Text := utf8 "!!binary"

def real : Text := utf8 "!!float"

def timestamp : Text := utf8 "!!timestamp"

def merge : Text := utf8 "!!merge"

def sequence : Text := utf8 "!!seq"

def mapping : Text := utf8 "!!map"

end Tag

def Resolved.tag : Resolved → Text
  | .nothing => Tag.nothing
  | .flag _ => utf8 "!!bool"
  | .whole _ => utf8 "!!int"
  | .real _ => Tag.real
  | .timestamp => Tag.timestamp
  | .merge => Tag.merge
  | .text _ => Tag.text

def oneOf (names : List String) (t : Text) : Bool :=
  names.any fun name => utf8 name == t

def positiveInfinity : Float :=
  Float.ofBits 0x7FF0000000000000

def negativeInfinity : Float :=
  Float.ofBits 0xFFF0000000000000

def notANumber : Float :=
  Float.ofBits 0x7FF8000000000001

def named? (t : Text) : Option Resolved :=
  if oneOf ["", "~", "null", "Null", "NULL"] t then some .nothing
  else if oneOf ["true", "True", "TRUE"] t then some (.flag true)
  else if oneOf ["false", "False", "FALSE"] t then some (.flag false)
  else if oneOf [".nan", ".NaN", ".NAN"] t then some (.real notANumber)
  else if oneOf [".inf", ".Inf", ".INF", "+.inf", "+.Inf", "+.INF"] t then
    some (.real positiveInfinity)
  else if oneOf ["-.inf", "-.Inf", "-.INF"] t then some (.real negativeInfinity)
  else if oneOf ["<<"] t then some .merge
  else none

def digitsIn? (base : Nat) (t : Text) : Option Nat :=
  if t.isEmpty then none
  else
    t.foldl
      (fun n? b =>
        n?.bind fun n =>
          if Number.isHexDigit b && Number.hexDigitValue b < base then
            some (n * base + Number.hexDigitValue b)
          else none)
      (some 0)

def signed (t : Text) : Bool × Text :=
  match t with
  | 0x2B :: rest => (false, rest)
  | 0x2D :: rest => (true, rest)
  | _ => (false, t)

/-- A number whose first characters say its base: `0x`, `0o`, `0b`, or `0` alone for base eight. -/
def basedDigits? (t : Text) : Option Nat :=
  match t with
  | 0x30 :: b :: rest =>
    if b == 0x78 || b == 0x58 then digitsIn? 16 rest
    else if b == 0x6F || b == 0x4F then digitsIn? 8 rest
    else if b == 0x62 || b == 0x42 then digitsIn? 2 rest
    else digitsIn? 8 (b :: rest)
  | _ => digitsIn? 10 t

def fitting? (negative : Bool) (n : Nat) : Option Int :=
  if negative then if n ≤ Nat.pow 2 63 then some (-(n : Int)) else none
  else if n < Nat.pow 2 63 then some n
  else none

/-- A whole number that fits in 64 bits. Without a sign it may take the place of the sign too. -/
def whole? (t : Text) : Option Int :=
  let (negative, digits) := signed t
  match basedDigits? digits with
  | none => none
  | some n =>
    match fitting? negative n with
    | some n => some n
    | none => if n < Nat.pow 2 64 && digits == t then some n else none

/-- A whole number whose sign stands behind the mark of base two or eight. -/
def signedBehindBase? (t : Text) : Option Int :=
  let (base, rest) :=
    match t with
    | 0x30 :: 0x62 :: rest => (2, rest)
    | 0x30 :: 0x6F :: rest => (8, rest)
    | _ => (2, [])
  let (negative, digits) := signed rest
  (digitsIn? base digits).bind (fitting? negative)

def isDecimal (t : Text) : Bool :=
  let (_, t) := signed t
  let (whole, fraction, rest) := Number.pointed Text.isDigit t
  !(whole ++ fraction).isEmpty &&
    match rest with
    | [] => true
    | mark :: exponent => (mark == 0x65 || mark == 0x45) && (Number.exponent? exponent).isSome

def numeric? (t : Text) : Option Resolved :=
  let digits := Number.withoutSeparators t
  match whole? digits with
  | some n => some (.whole n)
  | none =>
    match if isDecimal digits then Number.readSigned? digits else none with
    | some x => some (.real x)
    | none => (signedBehindBase? digits).map .whole

/-- What a scalar stands for by its spelling; `dates` says whether it may be a timestamp. -/
def spelled (dates : Bool) (t : Text) : Resolved :=
  match named? t with
  | some r => r
  | none =>
    match t with
    | [] => .nothing
    | b :: _ =>
      if b == 0x2E then
        match Number.readSigned? t with
        | some x => .real x
        | none => .text t
      else if Text.isDigit b || b == 0x2B || b == 0x2D then
        if dates && isTimestamp t then .timestamp else (numeric? t).getD (.text t)
      else .text t

def realOf (n : Int) : Float :=
  (Number.ofRatio? (n < 0) n.natAbs 1).getD 0

/-- What a scalar behind a tag stands for. Every scalar is a text, and one in base 64 can be bytes;
a whole number of 63 bits is also a real. Otherwise the spelling has to agree with the tag. -/
def tagged (tag t : Text) : Except Fault Resolved :=
  if tag == Tag.text then .ok (.text t)
  else if tag == Tag.binary then
    match Text.ofBase64? t with
    | some content => .ok (.text content)
    | none => .error (.general (utf8 "!!binary value contains invalid base64 data"))
  else
    let r := spelled (tag == Tag.timestamp) t
    let mismatch : Fault :=
      .general (utf8 "cannot decode " ++ r.tag ++ utf8 " `" ++ t ++ utf8 "` as a " ++ tag)
    if r.tag == tag then .ok r
    else
      match r with
      | .whole n =>
        if tag == Tag.real && n < Int.pow 2 63 then .ok (.real (realOf n)) else .error mismatch
      | _ => .error mismatch

def resolve (t : Text) (quoted : Bool) (tag : Option Text) : Except Fault Resolved :=
  match tag with
  | some tag => tagged tag t
  | none => .ok (if quoted then .text t else spelled true t)

def tagOf (t : Text) (quoted : Bool) (tag : Option Text) : Text :=
  tag.getD (if quoted then Tag.text else (spelled true t).tag)

end Yaml

end TurtleLogo
