import TurtleLogo.Yaml.Lookahead

/-!
# YAML nodes

The first document of a text is a tree of mappings, sequences, scalars and aliases, which stand for
a node with an anchor. `document` reads it; a text without a document has none.
-/

set_option autoImplicit false

namespace TurtleLogo

namespace Yaml

/-- A node, the tag that is written in front of it, and the line it starts on, counted from one. An
alias has the name and the number of the anchor, and the index of the character where it stands. -/
inductive Node where
  | scalar (text : Text) (quoted : Bool) (tag : Option Text) (line : Nat)
  | sequence (items : List Node) (tag : Option Text) (line : Nat)
  | mapping (entries : List (Node × Node)) (tag : Option Text) (line : Nat)
  | reference (name : Text) (anchor index line : Nat)

namespace Node

def line : Node → Nat
  | .scalar _ _ _ line | .sequence _ _ line | .mapping _ _ line | .reference _ _ _ line => line

def absent (place : Place) : Node :=
  .scalar [] false none (place.line + 1)

end Node

/-- A tag in its short form; the mark alone is no tag. -/
def shortTag? (tag : Text) : Option Text :=
  let common := utf8 "tag:yaml.org,2002:"
  if tag.isEmpty || tag == [0x21] then none
  else if common.isPrefixOf tag then some (utf8 "!!" ++ tag.drop common.length)
  else some tag

/-- The state of reading nodes: the lexemes, what the handles of tags stand for, the number of the
last anchor of each name, and the nodes with anchors that are complete. -/
structure Arrangement where
  lookahead : Lookahead
  handles : List (Text × Text)
  anchors : List (Text × Nat)
  anchored : List (Nat × Node)

abbrev Arrange := StateT Arrangement (Except Fault)

structure Properties where
  start : Place
  anchor : Option Text
  tag : Option Text

namespace Arrange

def scan {α : Type} (r : Scan α) : Arrange α := fun s =>
  match r s.lookahead with
  | .error fault => .error fault
  | .ok (a, lookahead) => .ok (a, { s with lookahead := lookahead })

def peek : Arrange Placed :=
  scan Scan.peek

def advance : Arrange Unit :=
  scan Scan.advance

def unexpected {α : Type} (problem : String) (context : Place) (p : Placed) : Arrange α :=
  throw (.arrangement (utf8 problem) context p.place)

def anchor? : Arrange (Option Text) := do
  match (← peek).lexeme with
  | .anchor name =>
    advance
    return some name
  | _ => return none

def tag? : Arrange (Option (Text × Text × Place)) := do
  let p ← peek
  match p.lexeme with
  | .tag handle suffix =>
    advance
    return some (handle, suffix, p.place)
  | _ => return none

/-- Reads an anchor and a tag in either order. The handle of a tag has to be known. -/
def properties : Arrange Properties := do
  let start := (← peek).place
  let before ← anchor?
  let tag ← tag?
  let behind ← if before.isNone && tag.isSome then anchor? else pure none
  match tag with
  | none => return ⟨start, before, none⟩
  | some (handle, suffix, tagged) =>
    if handle.isEmpty then return ⟨start, before.or behind, some suffix⟩
    else
      match (← get).handles.lookup handle with
      | some expansion => return ⟨start, before.or behind, some (expansion ++ suffix)⟩
      | none => throw (.arrangement (utf8 "found undefined tag handle") start tagged)

/-- Gives a node its anchor, which can be used inside the node already. -/
def withAnchor (name : Option Text) (read : Arrange Node) : Arrange Node := do
  match name with
  | none => read
  | some name =>
    let number := (← get).anchors.length
    modify fun s => { s with anchors := (name, number) :: s.anchors }
    let node ← read
    modify fun s => { s with anchored := (number, node) :: s.anchored }
    return node

def reference (name : Text) (start : Place) : Arrange Node := do
  match (← get).anchors.lookup name with
  | some number =>
    advance
    return .reference name number start.index (start.line + 1)
  | none => throw (.general (utf8 "unknown anchor '" ++ name ++ utf8 "' referenced"))

/-- Whether a lexeme starts no node of a block: the next key or value of a mapping, or the end. -/
def endsEntry : Lexeme → Bool
  | .key | .value | .blockEnd => true
  | _ => false

def endsFlow (closing : Lexeme) (lexeme : Lexeme) : Bool :=
  lexeme == .comma || lexeme == closing

mutual

/-- Reads a node. `block` says whether it may be a block, `indentless` whether it may be a sequence
whose dashes are not indented. -/
def node : (fuel : Nat) → (block indentless : Bool) → Arrange Node
  | 0, _, _ => throw (.general (utf8 "did not find expected node content"))
  | fuel + 1, block, indentless => do
    let p ← peek
    match p.lexeme with
    | .reference name => reference name p.place
    | _ =>
      let props ← properties
      withAnchor props.anchor (content fuel block indentless props)

def content : (fuel : Nat) → (block indentless : Bool) → Properties → Arrange Node
  | 0, _, _, _ => throw (.general (utf8 "did not find expected node content"))
  | fuel + 1, block, indentless, props => do
    let p ← peek
    let line := props.start.line + 1
    let tag := props.tag.bind shortTag?
    match p.lexeme with
    | .scalar text quoted =>
      advance
      return .scalar text quoted tag line
    | .flowSequence =>
      advance
      return .sequence (← flowSequence fuel true p.place) tag line
    | .flowMapping =>
      advance
      return .mapping (← flowMapping fuel true p.place) tag line
    | lexeme =>
      if indentless && lexeme == .dash then return .sequence (← indentlessSequence fuel) tag line
      else if block && lexeme == .blockSequence then
        advance
        return .sequence (← blockSequence fuel p.place) tag line
      else if block && lexeme == .blockMapping then
        advance
        return .mapping (← blockMapping fuel p.place) tag line
      else if props.anchor.isSome || props.tag.isSome then return .scalar [] false tag line
      else unexpected "did not find expected node content" props.start p

def blockMapping : (fuel : Nat) → (start : Place) → Arrange (List (Node × Node))
  | 0, _ => pure []
  | fuel + 1, start => do
    let p ← peek
    match p.lexeme with
    | .blockEnd =>
      advance
      return []
    | .key =>
      advance
      let key ←
        if endsEntry (← peek).lexeme then pure (Node.absent p.place) else node fuel true true
      let value ← blockValue fuel
      return (key, value) :: (← blockMapping fuel start)
    | _ => unexpected "did not find expected key" start p

def blockValue : (fuel : Nat) → Arrange Node
  | 0 => pure (Node.absent Place.start)
  | fuel + 1 => do
    let p ← peek
    match p.lexeme with
    | .value =>
      advance
      if endsEntry (← peek).lexeme then return Node.absent p.place else node fuel true true
    | _ => return Node.absent p.place

def blockSequence : (fuel : Nat) → (start : Place) → Arrange (List Node)
  | 0, _ => pure []
  | fuel + 1, start => do
    let p ← peek
    match p.lexeme with
    | .blockEnd =>
      advance
      return []
    | .dash =>
      advance
      let next := (← peek).lexeme
      let item ←
        if next == .dash || next == .blockEnd then pure (Node.absent p.place)
        else node fuel true false
      return item :: (← blockSequence fuel start)
    | _ => unexpected "did not find expected '-' indicator" start p

def indentlessSequence : (fuel : Nat) → Arrange (List Node)
  | 0 => pure []
  | fuel + 1 => do
    let p ← peek
    match p.lexeme with
    | .dash =>
      advance
      let next := (← peek).lexeme
      let item ←
        if next == .dash || endsEntry next then pure (Node.absent p.place)
        else node fuel true false
      return item :: (← indentlessSequence fuel)
    | _ => return []

def flowSequence : (fuel : Nat) → (first : Bool) → (start : Place) → Arrange (List Node)
  | 0, _, _ => pure []
  | fuel + 1, first, start => do
    let p ← peek
    if p.lexeme == .flowSequenceEnd then
      advance
      return []
    if !first then
      if p.lexeme == .comma then advance
      else unexpected "did not find expected ',' or ']'" start p
    let p ← peek
    if p.lexeme == .flowSequenceEnd then
      advance
      return []
    let item ← if p.lexeme == .key then flowPair fuel p.place else node fuel false false
    return item :: (← flowSequence fuel false start)

/-- Reads a mapping of one entry that stands as an item in brackets. A mark where its key should be
is read over. -/
def flowPair : (fuel : Nat) → (start : Place) → Arrange Node
  | 0, start => pure (Node.absent start)
  | fuel + 1, start => do
    advance
    let p ← peek
    let key ←
      if p.lexeme == .value || endsFlow .flowSequenceEnd p.lexeme then do
        advance
        pure (Node.absent p.place)
      else node fuel false false
    let value ← flowValue fuel .flowSequenceEnd
    return .mapping [(key, value)] none (start.line + 1)

def flowValue : (fuel : Nat) → (closing : Lexeme) → Arrange Node
  | 0, _ => pure (Node.absent Place.start)
  | fuel + 1, closing => do
    let p ← peek
    match p.lexeme with
    | .value =>
      advance
      let next ← peek
      if endsFlow closing next.lexeme then return Node.absent next.place
      else node fuel false false
    | _ => return Node.absent p.place

def flowMapping : (fuel : Nat) → (first : Bool) → (start : Place) → Arrange (List (Node × Node))
  | 0, _, _ => pure []
  | fuel + 1, first, start => do
    let p ← peek
    if p.lexeme == .flowMappingEnd then
      advance
      return []
    if !first then
      if p.lexeme == .comma then advance
      else unexpected "did not find expected ',' or '\x7d'" start p
    let p ← peek
    match p.lexeme with
    | .flowMappingEnd =>
      advance
      return []
    | .key =>
      advance
      let next ← peek
      let key ←
        if next.lexeme == .value || endsFlow .flowMappingEnd next.lexeme then
          pure (Node.absent next.place)
        else node fuel false false
      let value ← flowValue fuel .flowMappingEnd
      return (key, value) :: (← flowMapping fuel false start)
    | _ =>
      let key ← node fuel false false
      let behind ← peek
      return (key, Node.absent behind.place) :: (← flowMapping fuel false start)

end

/-- Reads the directives in front of a document: the version, which must be 1.1, and what handles
stand for. -/
def directives : (fuel : Nat) → (versioned : Bool) → Arrange Unit
  | 0, _ => pure ()
  | fuel + 1, versioned => do
    let p ← peek
    match p.lexeme with
    | .version major minor =>
      if versioned then unexpected "found duplicate %YAML directive" Place.start p
      if major != 1 || minor != 1 then
        unexpected "found incompatible YAML document" Place.start p
      advance
      directives fuel true
    | .shorthand handle expansion =>
      if ((← get).handles.lookup handle).isSome then
        unexpected "found duplicate %TAG directive" Place.start p
      modify fun s => { s with handles := s.handles ++ [(handle, expansion)] }
      advance
      directives fuel versioned
    | _ => pure ()

def commonHandles : List (Text × Text) :=
  [(utf8 "!", utf8 "!"), (utf8 "!!", utf8 "tag:yaml.org,2002:")]

def opensDocument : Lexeme → Bool
  | .version .. | .shorthand .. | .documentStart => true
  | _ => false

/-- Whether a document that was announced has no content. -/
def endsDocument : Lexeme → Bool
  | .documentEnd | .finish => true
  | lexeme => opensDocument lexeme

def document (fuel : Nat) : Arrange (Option Node) := do
  let p ← peek
  if p.lexeme == .finish then return none
  let explicit := opensDocument p.lexeme
  directives fuel false
  modify fun s => { s with handles := s.handles ++ commonHandles }
  if explicit then
    let p ← peek
    if p.lexeme != .documentStart then
      unexpected "did not find expected <document start>" Place.start p
    advance
  let p ← peek
  let root ←
    if explicit && endsDocument p.lexeme then pure (Node.absent p.place)
    else node fuel true false
  discard peek
  return some root

end Arrange

/-- A document: its root, and the nodes that aliases stand for by their numbers. -/
structure Document where
  root : Node
  anchored : List (Nat × Node)

def document (t : Text) : Except Fault (Option Document) :=
  match Arrange.document (4 * t.length + 16) ⟨Lookahead.ofText t, [], [], []⟩ with
  | .error fault => .error fault
  | .ok (root?, s) => .ok (root?.map fun root => ⟨root, s.anchored⟩)

end Yaml

end TurtleLogo
