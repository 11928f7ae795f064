import TurtleLogo.Yaml.Scalar

/-!
# Lexemes of YAML texts

The lexemes of a text are its marks, names and scalars, and the starts and ends of blocks that
follow from the indentation. This module reads the lexemes that are more than a mark: anchors and
aliases, tags, and the directives in front of a document.
-/

set_option autoImplicit false

namespace TurtleLogo

namespace Yaml

inductive Lexeme where
  | version (major minor : Nat)
  | shorthand (handle expansion : Text)
  | documentStart
  | documentEnd
  | blockSequence
  | blockMapping
  | blockEnd
  | flowSequence
  | flowSequenceEnd
  | flowMapping
  | flowMappingEnd
  | dash
  | comma
  | key
  | value
  | reference (name : Text)
  | anchor (name : Text)
  | tag (handle suffix : Text)
  | scalar (text : Text) (quoted : Bool)
  | finish
  deriving DecidableEq, Repr

structure Placed where
  lexeme : Lexeme
  place : Place
  deriving DecidableEq, Repr

namespace Walk

def endsName (c : Nat) : Bool :=
  endsWord c || [0x3F, 0x3A, 0x2C, 0x5D, 0x7D, 0x25, 0x40, 0x60].contains c

def anchorName (start : Place) : Walk Text := do
  skip
  let name ← word
  if name.isEmpty || !endsName (← here) then
    refuse "did not find expected alphabetic or numeric character" start
  return encodeAll name

def isTagCharacter (c : Nat) : Bool :=
  isWordly c || [0x3B, 0x2F, 0x3F, 0x3A, 0x40, 0x26, 0x3D, 0x2B, 0x24, 0x2C, 0x2E, 0x21, 0x7E, 0x2A,
    0x27, 0x28, 0x29, 0x5B, 0x5D, 0x25].contains c

def escapedOctet (start : Place) : Walk UInt8 := do
  need 3
  let mark ← here
  match hexDigit? (← look 1), hexDigit? (← look 2) with
  | some high, some low =>
    if mark != 0x25 then refuse "did not find URI escaped octet" start
    return UInt8.ofNat (high * 16 + low)
  | _, _ => refuse "did not find URI escaped octet" start

def escapedTrail (start : Place) : (n : Nat) → (bytes : Text) → Walk Text
  | 0, bytes => pure bytes
  | n + 1, bytes => do
    let b ← escapedOctet start
    if !Glyph.isContinuation b then refuse "found an incorrect trailing UTF-8 octet" start
    skipMany 3
    escapedTrail start n (b :: bytes)

def escapedBytes (start : Place) (bytes : Text) : Walk Text := do
  let b ← escapedOctet start
  let width := announcedWidth b
  if width = 0 then refuse "found an incorrect leading UTF-8 octet" start
  skipMany 3
  escapedTrail start (width - 1) (b :: bytes)

def tagBytes (start : Place) : (fuel : Nat) → (bytes : Text) → Walk Text
  | 0, bytes => pure bytes
  | fuel + 1, bytes => do
    need 1
    let c ← here
    if !isTagCharacter c then return bytes
    else if c == 0x25 then tagBytes start fuel (← escapedBytes start bytes)
    else
      skip
      tagBytes start fuel (UInt8.ofNat c :: bytes)

/-- Reads a tag or the rest of one; something must be there unless `headed`. -/
def tagText (headed : Bool) (start : Place) : Walk Text := do
  let before := (← place).index
  let bytes ← tagBytes start (← bound) []
  if !headed && (← place).index == before then refuse "did not find expected tag URI" start
  return bytes.reverse

/-- Reads a handle: an exclamation mark, perhaps with a name and another mark. In a directive the
second mark must be there unless the handle is the first alone. -/
def tagHandle (directive : Bool) (start : Place) : Walk Text := do
  need 1
  if (← here) != 0x21 then refuse "did not find expected '!'" start
  skip
  let handle := 0x21 :: encodeAll (← word)
  if (← here) == 0x21 then
    skip
    return handle ++ [0x21]
  else
    if directive && handle != [0x21] then refuse "did not find expected '!'" start
    return handle

def isClosedHandle (handle : Text) : Bool :=
  1 < handle.length && handle.getLast? == some 0x21

def tag (start : Place) : Walk Lexeme := do
  need 2
  let found ←
    if (← look 1) == 0x3C then
      skipMany 2
      let suffix ← tagText false start
      if (← here) != 0x3E then refuse "did not find the expected '>'" start
      skip
      pure (Lexeme.tag [] suffix)
    else
      let handle ← tagHandle false start
      if isClosedHandle handle then
        pure (Lexeme.tag handle (← tagText false start))
      else
        -- what was read is no handle but the start of the tag behind the handle of one mark
        let suffix := handle.drop 1 ++ (← tagText true start)
        pure (if suffix.isEmpty then Lexeme.tag [] handle else Lexeme.tag [0x21] suffix)
  need 1
  if !endsWord (← here) then refuse "did not find expected whitespace or line break" start
  return found

def versionNumber (start : Place) : (fuel : Nat) → (length n : Nat) → Walk Nat
  | 0, _, n => pure n
  | fuel + 1, length, n => do
    need 1
    let c ← here
    if isDigit c then
      if length = 2 then refuse "found extremely long version number" start
      skip
      versionNumber start fuel (length + 1) (n * 10 + (c - 0x30))
    else
      if length = 0 then refuse "did not find expected version number" start
      return n

def version (start : Place) : Walk Lexeme := do
  skipBlanks
  let major ← versionNumber start 4 0 0
  if (← here) != 0x2E then refuse "did not find expected digit or '.' character" start
  skip
  let minor ← versionNumber start 4 0 0
  return .version major minor

def shorthand (start : Place) : Walk Lexeme := do
  skipBlanks
  let handle ← tagHandle true start
  need 1
  if !isBlank (← here) then refuse "did not find expected whitespace" start
  skipBlanks
  let expansion ← tagText false start
  need 1
  if !endsWord (← here) then refuse "did not find expected whitespace or line break" start
  return .shorthand handle expansion

def directive (start : Place) : Walk Lexeme := do
  skip
  let name := encodeAll (← word)
  if name.isEmpty then refuse "could not find expected directive name" start
  if !endsWord (← here) then refuse "found unexpected non-alphabetical character" start
  let found ←
    if name == utf8 "YAML" then version start
    else if name == utf8 "TAG" then shorthand start
    else refuse "found unknown directive name" start
  skipBlanks
  if (← here) == 0x23 then skipLine
  if !endsLine (← here) then refuse "did not find expected comment or line break" start
  discard lineBreak
  return found

end Walk

end Yaml

end TurtleLogo
