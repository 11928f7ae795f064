import TurtleLogo.Yaml.Lexeme

/-!
# Lexemes read ahead

Whether a lexeme starts a key of a mapping is only known when the colon behind it is met; until then
it is a candidate for a key, and the lexemes that make it one are put in front of it. So lexemes are
read ahead of the one that is taken next: two of them always, and more as long as the next one is a
candidate. `peek` gives the next lexeme, `advance` takes it.
-/

set_option autoImplicit false

namespace TurtleLogo

namespace Yaml

/-- A lexeme that may turn out to start a key: its place, its number among the lexemes, and whether
it must be a key. A candidate that is not open any more is none. -/
structure Candidate where
  isOpen : Bool
  required : Bool
  number : Nat
  place : Place

/-- The state of reading lexemes: those read so far and how many of them are taken; the columns of
the blocks around the cursor, and the candidate of each bracket around it with one for the block
around them all, both from the inside out; whether a key may start here. `levels` tells for the
numbers of candidates how many brackets were around them. -/
structure Lookahead where
  cursor : Cursor
  lexemes : Array Placed
  taken : Nat
  settled : Bool
  indents : List Nat
  candidates : List Candidate
  levels : List (Nat × Nat)
  keyAllowed : Bool

abbrev Scan := StateT Lookahead (Except Fault)

namespace Lookahead

def ofText (t : Text) : Lookahead :=
  { cursor := Cursor.ofText t
    lexemes := #[]
    taken := 0
    settled := false
    indents := []
    candidates := [⟨false, false, 0, Place.start⟩]
    levels := []
    keyAllowed := true }

def inFlow (s : Lookahead) : Bool :=
  match s.candidates with
  | _ :: _ :: _ => true
  | _ => false

/-- The column of the innermost block, -1 outside all blocks. -/
def indent (s : Lookahead) : Int :=
  match s.indents with
  | [] => -1
  | column :: _ => column

def candidate? (s : Lookahead) (level : Nat) : Option Candidate :=
  if level < s.candidates.length then s.candidates[s.candidates.length - 1 - level]? else none

def close (s : Lookahead) (level : Nat) : Lookahead :=
  { s with
    candidates :=
      s.candidates.modify (s.candidates.length - 1 - level) fun k => { k with isOpen := false } }

/-- Puts a lexeme in front of the one with the given number, or behind all others if that one has
been taken. -/
def insert (s : Lookahead) (number : Nat) (p : Placed) : Lookahead :=
  if s.taken ≤ number then { s with lexemes := s.lexemes.insertIdxIfInBounds number p }
  else { s with lexemes := s.lexemes.push p }

end Lookahead

namespace Scan

def walk {α : Type} (w : Walk α) : Scan α := fun s =>
  match w s.cursor with
  | .error fault => .error fault
  | .ok (a, cursor) => .ok (a, { s with cursor := cursor })

def place : Scan Place :=
  return (← get).cursor.place

def inFlow : Scan Bool :=
  return (← get).inFlow

def refuse {α : Type} (problem : String) (context : Place) : Scan α :=
  walk (Walk.refuse problem context)

def emitAt (start : Place) (lexeme : Lexeme) : Scan Unit :=
  modify fun s => { s with lexemes := s.lexemes.push ⟨lexeme, start⟩ }

def emit (lexeme : Lexeme) (width : Nat) : Scan Unit := do
  emitAt (← place) lexeme
  walk (Walk.skipMany width)

def allowKey (allowed : Bool) : Scan Unit :=
  modify fun s => { s with keyAllowed := allowed }

def missingColon {α : Type} (k : Candidate) : Scan α :=
  refuse "could not find expected ':'" k.place

def maxNesting : Nat :=
  10000

def closeBlocks (column : Int) (start : Place) : (indents : List Nat) → Scan Unit
  | [] => modify fun s => { s with indents := [] }
  | i :: outer => do
    if column < i then
      emitAt start .blockEnd
      closeBlocks column start outer
    else modify fun s => { s with indents := i :: outer }

def unroll (column : Int) (start : Place) : Scan Unit := do
  unless ← inFlow do
    closeBlocks column start (← get).indents

/-- Opens a block at a column further in than the innermost one, its lexeme being put in front of
the one with the given number. -/
def roll (column number : Nat) (lexeme : Lexeme) (start : Place) : Scan Unit := do
  let s ← get
  if !s.inFlow && s.indent < column then
    set { s with indents := column :: s.indents }
    if maxNesting ≤ s.indents.length then
      refuse "exceeded max depth of 10000" (((s.candidates.head?).map (·.place)).getD Place.start)
    modify fun s => s.insert number ⟨lexeme, start⟩

def nextNumber : Scan Nat :=
  return (← get).lexemes.size

/-- Whether a candidate inside so many brackets may still become a key: it is on this line, and at
most 1024 characters back. One that may not is closed, and one that must be a key is a fault. -/
def isViable (level : Nat) : Scan Bool := do
  let s ← get
  match s.candidate? level with
  | none => return false
  | some k =>
    let now := s.cursor.place
    if !k.isOpen then return false
    else if k.place.line < now.line || k.place.index + 1024 < now.index then
      if k.required then missingColon k
      set (s.close level)
      return false
    else return true

def level : Scan Nat :=
  return (← get).candidates.length - 1

def dropCandidate : Scan Unit := do
  let s ← get
  match s.candidates with
  | k :: outer =>
    if k.isOpen then
      if k.required then missingColon k
      set { s with
        candidates := { k with isOpen := false } :: outer
        levels := s.levels.filter (·.1 != k.number) }
  | [] => pure ()

def propose : Scan Unit := do
  if (← get).keyAllowed then
    dropCandidate
    let s ← get
    let number ← nextNumber
    let required := !s.inFlow && s.indent == s.cursor.place.column
    let k : Candidate := ⟨true, required, number, s.cursor.place⟩
    set { s with
      candidates := k :: s.candidates.drop 1
      levels := (number, s.candidates.length - 1) :: s.levels.filter (s.taken ≤ ·.1) }

/-- Moves over blanks, comments and line breaks. Outside brackets a new line may start a key, and
tabs do not indent it. A character at the start of a line is left out if a byte order mark is held
in front. -/
def skipGap : (fuel : Nat) → Scan Unit
  | 0 => pure ()
  | fuel + 1 => do
    walk (Walk.need 1)
    let s ← get
    if s.cursor.place.column = 0 && s.cursor.feed.marked then walk Walk.skip
    let tabs := s.inFlow || !s.keyAllowed
    walk (Walk.skipWhile (fun c => c == 0x20 || (tabs && c == 0x09)) s.cursor.size)
    if (← walk Walk.here) == 0x23 then walk (Walk.comments s.cursor.size)
    if isBreak (← walk Walk.here) then
      discard (walk Walk.lineBreak)
      unless s.inFlow do allowKey true
      skipGap fuel

/-- The end of the text, which counts as the start of a line. -/
def finish : Scan Unit := do
  modify fun s =>
    let p := s.cursor.place
    if p.column = 0 then s
    else { s with cursor := { s.cursor with place := ⟨p.index, p.line + 1, 0⟩ } }
  unroll (-1) (← place)
  dropCandidate
  allowKey false
  emitAt (← place) .finish

def endBlocks : Scan Unit := do
  unroll (-1) (← place)
  dropCandidate
  allowKey false

def marker (lexeme : Lexeme) : Scan Unit := do
  endBlocks
  emit lexeme 3

def directive : Scan Unit := do
  endBlocks
  let start ← place
  emitAt start (← walk (Walk.directive start))

def openFlow (lexeme : Lexeme) : Scan Unit := do
  propose
  let number ← nextNumber
  let start ← place
  modify fun s => { s with candidates := ⟨false, false, number, start⟩ :: s.candidates }
  if maxNesting < (← level) then refuse "exceeded max depth of 10000" start
  allowKey true
  emit lexeme 1

def closeFlow (lexeme : Lexeme) : Scan Unit := do
  dropCandidate
  let s ← get
  match s.candidates with
  | k :: outer =>
    if s.inFlow then
      set { s with candidates := outer, levels := s.levels.filter (·.1 != k.number) }
  | [] => pure ()
  allowKey false
  emit lexeme 1

def separator : Scan Unit := do
  dropCandidate
  allowKey true
  emit .comma 1

def item : Scan Unit := do
  let s ← get
  let start := s.cursor.place
  if !s.inFlow && !s.keyAllowed then
    refuse "block sequence entries are not allowed in this context" start
  roll start.column (← nextNumber) .blockSequence start
  dropCandidate
  allowKey true
  emit .dash 1

def explicitKey : Scan Unit := do
  let s ← get
  let start := s.cursor.place
  if !s.inFlow && !s.keyAllowed then
    refuse "mapping keys are not allowed in this context" start
  roll start.column (← nextNumber) .blockMapping start
  dropCandidate
  allowKey !s.inFlow
  emit .key 1

def colon : Scan Unit := do
  let innermost ← level
  let viable ← isViable innermost
  let s ← get
  let start := s.cursor.place
  match s.candidate? innermost with
  | some k =>
    if viable then
      modify fun s => s.insert k.number ⟨.key, k.place⟩
      roll k.place.column k.number .blockMapping k.place
      modify fun s => { s.close innermost with levels := s.levels.filter (·.1 != k.number) }
      allowKey false
    else
      if !s.inFlow && !s.keyAllowed then
        refuse "mapping values are not allowed in this context" start
      roll start.column (← nextNumber) .blockMapping start
      allowKey !s.inFlow
  | none => pure ()
  emit .value 1

def proposed (read : Place → Walk Lexeme) : Scan Unit := do
  propose
  allowKey false
  let start ← place
  emitAt start (← walk (read start))

def quoted (double : Bool) : Scan Unit :=
  proposed fun start => do
    Walk.skip
    return .scalar (encodeAll (← Walk.quoted double start (← Walk.bound) []).reverse) true

def plain : Scan Unit := do
  propose
  let s ← get
  let start := s.cursor.place
  let (text, onNewLine) ←
    walk (Walk.plain s.inFlow (s.indent + 1) start s.cursor.size [] Gap.empty)
  emitAt start (.scalar (encodeAll text.reverse) false)
  allowKey onNewLine

def blockScalar (literal : Bool) : Scan Unit := do
  dropCandidate
  allowKey true
  let s ← get
  let start := s.cursor.place
  walk Walk.skip
  let text ← walk (Walk.blockScalar literal s.indent start)
  emitAt start (.scalar (encodeAll text.reverse) true)

def isIndicator (c : Nat) : Bool :=
  [0x2D, 0x3F, 0x3A, 0x2C, 0x5B, 0x5D, 0x7B, 0x7D, 0x23, 0x26, 0x2A, 0x21, 0x7C, 0x3E, 0x27, 0x22,
    0x25, 0x40, 0x60].contains c

def startsPlain (inFlow : Bool) (c next : Nat) : Bool :=
  !(isIndicator c || endsWord c)
    || (c == 0x2D && !isBlank next)
    || (!inFlow && (c == 0x3F || c == 0x3A) && !endsWord next)

def lexemeAt (c next : Nat) : Scan Unit := do
  let inFlow ← inFlow
  if c == 0x5B then openFlow .flowSequence
  else if c == 0x7B then openFlow .flowMapping
  else if c == 0x5D then closeFlow .flowSequenceEnd
  else if c == 0x7D then closeFlow .flowMappingEnd
  else if c == 0x2C then separator
  else if c == 0x2D && endsWord next then item
  else if c == 0x3F && (inFlow || endsWord next) then explicitKey
  else if c == 0x3A && (inFlow || endsWord next) then colon
  else if c == 0x2A then proposed fun start => return .reference (← Walk.anchorName start)
  else if c == 0x26 then proposed fun start => return .anchor (← Walk.anchorName start)
  else if c == 0x21 then proposed Walk.tag
  else if c == 0x7C && !inFlow then blockScalar true
  else if c == 0x3E && !inFlow then blockScalar false
  else if c == 0x27 then quoted false
  else if c == 0x22 then quoted true
  else if startsPlain inFlow c next then plain
  else refuse "found character that cannot start any token" (← place)

/-- Reads one more lexeme, and a comment behind it unless it is a dash. -/
def readNext : Scan Unit := do
  walk (Walk.need 1)
  let before ← place
  skipGap (← get).cursor.size
  unroll (← place).column before
  walk (Walk.need 4)
  let c ← walk Walk.here
  if c == 0 then finish
  else if c == 0x25 && (← place).column == 0 then directive
  else if (← walk (Walk.atMarker 0x2D)) then marker .documentStart
  else if (← walk (Walk.atMarker 0x2E)) then marker .documentEnd
  else
    lexemeAt c (← walk (Walk.look 1))
    if ((← get).lexemes.back?).map (·.lexeme) != some .dash then walk Walk.lineComment

/-- Reads ahead until the next lexeme is settled. -/
def readAhead : (fuel : Nat) → Scan Unit
  | 0 => pure ()
  | fuel + 1 => do
    let s ← get
    let unsettled ←
      if s.lexemes.size ≤ s.taken + 2 then pure true
      else
        match s.levels.lookup s.taken with
        | none => pure false
        | some level => isViable level
    if unsettled then
      readNext
      readAhead fuel

def peek : Scan Placed := do
  unless (← get).settled do
    readAhead ((← get).cursor.size + 4)
    modify fun s => { s with settled := true }
  let s ← get
  return s.lexemes.getD s.taken ⟨.finish, s.cursor.place⟩

def advance : Scan Unit :=
  modify fun s => { s with settled := false, taken := s.taken + 1 }

end Scan

end Yaml

end TurtleLogo
