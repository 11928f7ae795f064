import TurtleLogo.Yaml.Feed

/-!
# Walking over characters

The classes of characters that matter in YAML texts, and a cursor that moves over characters and
keeps its place. Behind the end of a text stands the character zero, which no text contains.
-/

set_option autoImplicit false

namespace TurtleLogo

namespace Yaml

def isBlank (c : Nat) : Bool :=
  c == 0x20 || c == 0x09

def isBreak (c : Nat) : Bool :=
  c == 0x0A || c == 0x0D || c == 0x85 || c == 0x2028 || c == 0x2029

def endsLine (c : Nat) : Bool :=
  c == 0 || isBreak c

def endsWord (c : Nat) : Bool :=
  isBlank c || endsLine c

def isDigit (c : Nat) : Bool :=
  0x30 ≤ c && c ≤ 0x39

def isWordly (c : Nat) : Bool :=
  isDigit c || (0x41 ≤ c && c ≤ 0x5A) || (0x61 ≤ c && c ≤ 0x7A) || c == 0x5F || c == 0x2D

def hexDigit? (c : Nat) : Option Nat :=
  if isDigit c then some (c - 0x30)
  else if 0x41 ≤ c ∧ c ≤ 0x46 then some (c - 0x37)
  else if 0x61 ≤ c ∧ c ≤ 0x66 then some (c - 0x57)
  else none

def encodeAll (codes : List Nat) : Text :=
  codes.flatMap Glyph.encode

/-- What is still to be read, the place where it starts, and whether only blanks were read since the
last line break. `size` bounds the number of characters of the text. -/
structure Cursor where
  feed : Feed
  place : Place
  onNewLine : Bool
  size : Nat

def Cursor.ofText (t : Text) : Cursor :=
  ⟨Feed.ofText t, Place.start, false, t.length + 1⟩

abbrev Walk := StateT Cursor (Except Fault)

namespace Walk

/-- Makes `n` characters readable, or all that are left. -/
def need (n : Nat) : Walk Unit := fun c =>
  match c.feed.need n with
  | .error fault => .error fault
  | .ok feed => .ok ((), { c with feed := feed })

def place : Walk Place :=
  return (← get).place

def bound : Walk Nat :=
  return (← get).size

/-- The `k`-th character from here, zero behind the end. -/
def look (k : Nat) : Walk Nat :=
  return ((← get).feed.ahead.drop k).headD 0

def here : Walk Nat :=
  return (← get).feed.ahead.headD 0

def skip : Walk Unit :=
  modify fun c =>
    { c with
      feed := c.feed.skip
      place := ⟨c.place.index + 1, c.place.line, c.place.column + 1⟩
      onNewLine := c.onNewLine && isBlank (c.feed.ahead.headD 0) }

def skipWide (width : Nat) : Walk Unit :=
  modify fun c =>
    { c with
      feed := if width = 2 then c.feed.skip.skip else c.feed.skip
      place := ⟨c.place.index + width, c.place.line + 1, 0⟩
      onNewLine := true }

/-- Moves over a line break, if one is here, and gives it as it counts in a scalar: a return and a
line feed together are one, and all but the two separators of Unicode are line feeds. -/
def lineBreak : Walk (List Nat) := do
  need 2
  let a ← here
  let b ← look 1
  if a == 0x0D && b == 0x0A then
    skipWide 2
    return [0x0A]
  else if isBreak a then
    skipWide 1
    return [if a == 0x2028 || a == 0x2029 then a else 0x0A]
  else return []

def skipWhile (p : Nat → Bool) : (fuel : Nat) → Walk Unit
  | 0 => pure ()
  | fuel + 1 => do
    need 1
    if p (← here) then
      skip
      skipWhile p fuel

/-- Moves over the characters of a class and gives them, last first, in front of `taken`. -/
def takeWhile (p : Nat → Bool) : (fuel : Nat) → (taken : List Nat) → Walk (List Nat)
  | 0, taken => pure taken
  | fuel + 1, taken => do
    need 1
    let c ← here
    if p c then
      skip
      takeWhile p fuel (c :: taken)
    else return taken

def skipBlanks : Walk Unit := do
  skipWhile isBlank (← bound)

def skipLine : Walk Unit := do
  skipWhile (fun c => !endsLine c) (← bound)

def word : Walk (List Nat) := do
  return (← takeWhile isWordly (← bound) []).reverse

/-- A fault in a lexeme that started at `context`, noticed here. -/
def refuse {α : Type} (problem : String) (context : Place) : Walk α := do
  throw (.lexeme (utf8 problem) context (← place))

def atMarker (mark : Nat) : Walk Bool := do
  let c ← get
  match c.feed.ahead with
  | a :: b :: d :: rest =>
    return c.place.column == 0 && a == mark && b == mark && d == mark && endsWord (rest.headD 0)
  | _ => return false

def atAnyMarker : Walk Bool := do
  if ← atMarker 0x2D then return true else atMarker 0x2E

/-- The number of blanks in front of a comment on this line, if one follows within 512 characters. -/
def blanksToComment : (fuel : Nat) → (n : Nat) → Walk (Option Nat)
  | 0, _ => pure none
  | fuel + 1, n => do
    need (n + 1)
    let c ← look n
    if isBlank c then blanksToComment fuel (n + 1)
    else if c == 0x23 then return some n
    else return none

def lineComment : Walk Unit := do
  unless (← get).onNewLine do
    if (← blanksToComment 512 0).isSome then skipLine

/-- The number of blanks and line breaks in front of another comment line, if one follows within 512
characters. -/
def gapToComment : (fuel : Nat) → (n : Nat) → Walk (Option Nat)
  | 0, _ => pure none
  | fuel + 1, n => do
    need (n + 1)
    let c ← look n
    if isBlank c || c == 0x0A || c == 0x0D then gapToComment fuel (n + 1)
    else if c == 0x23 then return some n
    else return none

def skipTo (index : Nat) : (fuel : Nat) → Walk Unit
  | 0 => pure ()
  | fuel + 1 => do
    if (← place).index < index then
      need 1
      if isBreak (← here) then discard lineBreak else skip
      skipTo index fuel

def comments : (fuel : Nat) → Walk Unit
  | 0 => pure ()
  | fuel + 1 => do
    skipLine
    let c ← here
    if c == 0 || c == 0x0A || c == 0x0D then
      match ← gapToComment 511 1 with
      | none => pure ()
      | some n =>
        skipTo ((← place).index + n) (← bound)
        comments fuel

end Walk

end Yaml

end TurtleLogo
