import TurtleLogo.Yaml.Characters

/-!
# Scalars in YAML texts

A plain scalar runs up to what cannot be part of it, a quoted one up to its closing quote; both may
go over several lines, which are joined by a blank, or by the empty lines between them. A block
scalar holds the lines below it that are indented further, as they are or joined.

The texts here are built with the last character first.
-/

set_option autoImplicit false

namespace TurtleLogo

namespace Yaml

/-- Blanks and line breaks inside a scalar. Once a break was met, blanks do not count any more;
an escaped break counts as met, though it is none of the breaks. -/
structure Gap where
  broken : Bool
  blanks : List Nat
  firstBreak : List Nat
  moreBreaks : List Nat

namespace Gap

def empty : Gap :=
  ⟨false, [], [], []⟩

def escaped : Gap :=
  ⟨true, [], [], []⟩

def joined (g : Gap) : List Nat :=
  if !g.broken then g.blanks
  else if g.firstBreak == [0x0A] then if g.moreBreaks.isEmpty then [0x20] else g.moreBreaks
  else g.moreBreaks ++ g.firstBreak

def addBlank (g : Gap) (b : Nat) : Gap :=
  if g.broken then g else { g with blanks := b :: g.blanks }

def addBreak (g : Gap) (codes : List Nat) : Gap :=
  if g.broken then { g with moreBreaks := codes ++ g.moreBreaks } else ⟨true, [], codes, []⟩

end Gap

namespace Walk

/-- Reads over blanks and line breaks. With an `indent`, a tab left of it on a new line is refused. -/
def gap (indent : Option Int) (start : Place) : (fuel : Nat) → Gap → Walk Gap
  | 0, g => pure g
  | fuel + 1, g => do
    need 1
    let c ← here
    if isBlank c then
      let column : Int := (← place).column
      if g.broken && c == 0x09 && indent.any (column < ·) then
        refuse "found a tab character that violates indentation" start
      skip
      gap indent start fuel (g.addBlank c)
    else if isBreak c then
      gap indent start fuel (g.addBreak (← lineBreak))
    else return g

def isFlowMark (c : Nat) : Bool :=
  c == 0x2C || c == 0x3F || c == 0x5B || c == 0x5D || c == 0x7B || c == 0x7D

/-- Reads a plain scalar up to a gap or to what ends it. The gap in front counts if a character
follows it. -/
def plainRun (inFlow : Bool) : (fuel : Nat) → (text : List Nat) → Gap → Walk (List Nat × Gap)
  | 0, text, g => pure (text, g)
  | fuel + 1, text, g => do
    let c ← here
    if endsWord c || (c == 0x3A && endsWord (← look 1)) || (inFlow && isFlowMark c) then
      return (text, g)
    else
      skip
      need 2
      plainRun inFlow fuel (c :: (g.joined ++ text)) Gap.empty

/-- Reads a plain scalar in a block that has to be indented to `indent`. `g` is the gap that was
read in front. The result says whether the scalar ends on a later line. -/
def plain (inFlow : Bool) (indent : Int) (start : Place) :
    (fuel : Nat) → (text : List Nat) → Gap → Walk (List Nat × Bool)
  | 0, text, g => pure (text, g.broken)
  | fuel + 1, text, g => do
    need 4
    if (← atAnyMarker) then return (text, g.broken)
    if (← here) == 0x23 then return (text, g.broken)
    let (text, g) ← plainRun inFlow (← bound) text g
    let c ← here
    if !(isBlank c || isBreak c) then return (text, g.broken)
    let g ← gap (some indent) start (← bound) g
    let column : Int := (← place).column
    if !inFlow && column < indent then return (text, g.broken)
    plain inFlow indent start fuel text g

def letterEscape? (c : Nat) : Option Nat :=
  match c with
  | 0x30 => some 0x00
  | 0x61 => some 0x07
  | 0x62 => some 0x08
  | 0x74 => some 0x09
  | 0x09 => some 0x09
  | 0x6E => some 0x0A
  | 0x76 => some 0x0B
  | 0x66 => some 0x0C
  | 0x72 => some 0x0D
  | 0x65 => some 0x1B
  | 0x20 => some 0x20
  | 0x22 => some 0x22
  | 0x27 => some 0x27
  | 0x5C => some 0x5C
  | 0x4E => some 0x85
  | 0x5F => some 0xA0
  | 0x4C => some 0x2028
  | 0x50 => some 0x2029
  | _ => none

def hexWidth? (c : Nat) : Option Nat :=
  match c with
  | 0x78 => some 2
  | 0x75 => some 4
  | 0x55 => some 8
  | _ => none

def hexNumber? : (width : Nat) → List Nat → (n : Nat) → Option Nat
  | 0, _, n => some n
  | _ + 1, [], _ => none
  | width + 1, c :: rest, n =>
    match hexDigit? c with
    | some d => hexNumber? width rest (n * 16 + d)
    | none => none

def skipMany : (n : Nat) → Walk Unit
  | 0 => pure ()
  | n + 1 => do
    skip
    skipMany n

def hexCharacter (width : Nat) (start : Place) : Walk Nat := do
  need width
  match hexNumber? width (← get).feed.ahead 0 with
  | none => refuse "did not find expected hexdecimal number" start
  | some code =>
    if (0xD800 ≤ code && code ≤ 0xDFFF) || 0x10FFFF < code then
      refuse "found invalid Unicode character escape code" start
    skipMany width
    return code

def escape (start : Place) : Walk Nat := do
  let letter ← look 1
  match letterEscape? letter, hexWidth? letter with
  | some code, _ =>
    skipMany 2
    return code
  | none, some width =>
    skipMany 2
    hexCharacter width start
  | none, none => refuse "found unknown escape character" start

/-- Reads characters of a quoted scalar up to a gap or the closing quote, which are not read, or
over an escaped line break, which the result tells. -/
def quotedRun (double : Bool) (start : Place) :
    (fuel : Nat) → (text : List Nat) → Walk (List Nat × Bool)
  | 0, text => pure (text, false)
  | fuel + 1, text => do
    let c ← here
    let next ← look 1
    if endsWord c then return (text, false)
    else if !double && c == 0x27 && next == 0x27 then
      skipMany 2
      need 2
      quotedRun double start fuel (0x27 :: text)
    else if c == (if double then 0x22 else 0x27) then return (text, false)
    else if double && c == 0x5C && isBreak next then
      need 3
      skip
      discard lineBreak
      return (text, true)
    else if double && c == 0x5C then
      let code ← escape start
      need 2
      quotedRun double start fuel (code :: text)
    else
      skip
      need 2
      quotedRun double start fuel (c :: text)

def quoted (double : Bool) (start : Place) : (fuel : Nat) → (text : List Nat) → Walk (List Nat)
  | 0, text => pure text
  | fuel + 1, text => do
    need 4
    if (← atAnyMarker) then refuse "found unexpected document indicator" start
    if (← here) == 0 then refuse "found unexpected end of stream" start
    let (text, escaped) ← quotedRun double start (← bound) text
    need 1
    if (← here) == (if double then 0x22 else 0x27) then
      skip
      return text
    let g ← gap none start (← bound) (if escaped then Gap.escaped else Gap.empty)
    quoted double start fuel (g.joined ++ text)

inductive Chomping where
  | strip
  | clip
  | keep
  deriving DecidableEq, Repr

def chomping? (c : Nat) : Option Chomping :=
  if c == 0x2B then some .keep else if c == 0x2D then some .strip else none

def indentation (start : Place) : Walk Nat := do
  need 1
  let c ← here
  if !isDigit c then return 0
  if c == 0x30 then refuse "found an indentation indicator equal to 0" start
  skip
  return c - 0x30

def chomping : Walk (Option Chomping) := do
  need 1
  match chomping? (← here) with
  | none => return none
  | some kept =>
    skip
    return some kept

/-- Reads the indicators behind the mark of a block scalar, which come in either order, and the rest
of the line. -/
def blockHeader (start : Place) : Walk (Chomping × Nat) := do
  let before ← chomping
  let increment ← indentation start
  let behind ← if before.isNone && increment != 0 then chomping else pure none
  skipBlanks
  if (← here) == 0x23 then
    lineComment
    skipLine
  if !endsLine (← here) then refuse "did not find expected comment or line break" start
  discard lineBreak
  return ((before.or behind).getD .clip, increment)

/-- Reads over indentation and empty lines in a block scalar. `deepest` is the deepest column that
was reached; with an `indent` of zero every column counts as indentation. -/
def emptyLines (indent : Nat) (start : Place) :
    (fuel : Nat) → (deepest : Nat) → (breaks : List Nat) → Walk (Nat × List Nat)
  | 0, deepest, breaks => pure (deepest, breaks)
  | fuel + 1, deepest, breaks => do
    need 1
    let column := (← place).column
    let inside := indent == 0 || column < indent
    let c ← here
    if inside && c == 0x20 then
      skip
      emptyLines indent start fuel deepest breaks
    else
      let deepest := max deepest column
      if inside && c == 0x09 then
        refuse "found a tab character where an indentation space is expected" start
      if isBreak c then
        emptyLines indent start fuel deepest ((← lineBreak) ++ breaks)
      else return (deepest, breaks)

/-- Reads the lines of a block scalar that are indented to `indent`. `lineEnd` is the break of the
last line, `breaks` are those of the empty lines behind it, and `blankBefore` says whether the last
line started with a blank. -/
def blockLines (literal : Bool) (indent : Nat) (start : Place) :
    (fuel : Nat) → (text : List Nat) → (lineEnd breaks : List Nat) → (blankBefore : Bool) →
      Walk (List Nat × List Nat × List Nat)
  | 0, text, lineEnd, breaks, _ => pure (text, lineEnd, breaks)
  | fuel + 1, text, lineEnd, breaks, blankBefore => do
    need 1
    let c ← here
    if (← place).column != indent || c == 0 then return (text, lineEnd, breaks)
    let blank := isBlank c
    let text :=
      if !literal && !blankBefore && !blank && lineEnd == [0x0A] then
        if breaks.isEmpty then 0x20 :: text else text
      else lineEnd ++ text
    let text ← takeWhile (fun c => !endsLine c) (← bound) (breaks ++ text)
    let lineEnd ← lineBreak
    let (_, breaks) ← emptyLines indent start (← bound) 0 []
    blockLines literal indent start fuel text lineEnd breaks blank

/-- Reads a block scalar behind its mark. `outer` is the column of the block it is in. -/
def blockScalar (literal : Bool) (outer : Int) (start : Place) : Walk (List Nat) := do
  let (chomping, increment) ← blockHeader start
  let fixed := if increment = 0 then 0 else (max outer 0).toNat + increment
  let (deepest, breaks) ← emptyLines fixed start (← bound) 0 []
  let indent := if fixed = 0 then max deepest (max (outer + 1) 1).toNat else fixed
  let (text, lineEnd, breaks) ← blockLines literal indent start (← bound) [] [] breaks false
  match chomping with
  | .strip => return text
  | .clip => return lineEnd ++ text
  | .keep => return breaks ++ lineEnd ++ text

end Walk

end Yaml

end TurtleLogo
