import TurtleLogo.Settings
import TurtleLogo.Text.Quoted
import TurtleLogo.Yaml.Node
import TurtleLogo.Yaml.Resolved

/-!
# Settings files

A settings file is a YAML mapping of sections to mappings of fields. What it does not mention, or
leaves empty, keeps its standard value. All that does not fit is reported together, in the order of
the file; only a file without such complaints is checked for settings out of range.
-/

set_option autoImplicit false

namespace TurtleLogo

namespace Settings

/-- The ways in which a well-formed file can fail to describe settings, with the line. -/
inductive Complaint where
  | repeatedKey (key : Text) (line firstLine : Nat)
  | unknownField (name type : Text) (line : Nat)
  | repeatedField (name type : Text) (line : Nat)
  | unfit (tag text type : Text) (line : Nat)
  deriving DecidableEq, Repr

def excerpt (t : Text) : Text :=
  if 10 < t.length then t.take 7 ++ utf8 "..." else t

/-- A node as a complaint shows it: its tag, and its text unless it has items or entries. -/
def shownNode (tag text : Text) : Text :=
  if tag == Yaml.Tag.sequence || tag == Yaml.Tag.mapping then tag
  else tag ++ utf8 " `" ++ excerpt text ++ utf8 "`"

def Complaint.message : Complaint → Text
  | .repeatedKey key line firstLine =>
    utf8 "line " ++ Text.ofNat line ++ utf8 ": mapping key " ++ Text.quoted key
      ++ utf8 " already defined at line " ++ Text.ofNat firstLine
  | .unknownField name type line =>
    utf8 "line " ++ Text.ofNat line ++ utf8 ": field " ++ name ++ utf8 " not found in type " ++ type
  | .repeatedField name type line =>
    utf8 "line " ++ Text.ofNat line ++ utf8 ": field " ++ name ++ utf8 " already set in type "
      ++ type
  | .unfit tag text type line =>
    utf8 "line " ++ Text.ofNat line ++ utf8 ": cannot unmarshal " ++ shownNode tag text
      ++ utf8 " into " ++ type

/-- What a field holds, and the change that a new value makes. -/
inductive Slot where
  | real (put : Float → Settings → Settings)
  | whole (put : Int → Settings → Settings)
  | span (put : Duration → Settings → Settings)
  | flag (put : Bool → Settings → Settings)
  | words (put : Text → Settings → Settings)

def Slot.type : Slot → Text
  | .real _ => utf8 "float64"
  | .whole _ => utf8 "int"
  | .span _ => utf8 "time.Duration"
  | .flag _ => utf8 "bool"
  | .words _ => utf8 "string"

structure Section where
  name : Text
  type : Text
  fields : List (Text × Slot)

def sections : List Section := [
  { name := utf8 "canvas"
    type := utf8 "config.CanvasConfig"
    fields := [
      (utf8 "width", .real fun x s => { s with canvas.width := x }),
      (utf8 "height", .real fun x s => { s with canvas.height := x }),
      (utf8 "background", .words fun t s => { s with canvas.background := t }),
      (utf8 "show_cursor", .flag fun b s => { s with canvas.showCursor := b })] },
  { name := utf8 "turtle"
    type := utf8 "config.TurtleConfig"
    fields := [
      (utf8 "color", .words fun t s => { s with pen.color := t }),
      (utf8 "pen_width", .real fun x s => { s with pen.width := x })] },
  { name := utf8 "run"
    type := utf8 "config.RunConfig"
    fields := [
      (utf8 "step_delay", .span fun d s => { s with running.stepDelay := d }),
      (utf8 "max_depth", .whole fun n s => { s with running.maxDepth := n })] },
  { name := utf8 "store"
    type := utf8 "config.StoreConfig"
    fields := [
      (utf8 "path", .words fun t s => { s with storage.path := t }),
      (utf8 "retention", .span fun d s => { s with storage.retention := d }),
      (utf8 "purge_interval", .span fun d s => { s with storage.purgeInterval := d })] },
  { name := utf8 "server"
    type := utf8 "config.ServerConfig"
    fields := [
      (utf8 "addr", .words fun t s => { s with serving.address := t }),
      (utf8 "cache_entries", .whole fun n s => { s with serving.cacheEntries := n }),
      (utf8 "max_body_bytes", .whole fun n s => { s with serving.maxBodyBytes := n }),
      (utf8 "render_timeout", .span fun d s => { s with serving.renderTimeout := d })] },
  { name := utf8 "log"
    type := utf8 "config.LogConfig"
    fields := [
      (utf8 "level", .words fun t s => { s with logging.level := t }),
      (utf8 "color", .flag fun b s => { s with logging.color := b })] }]

/-- The whole part of a real for a field of 64 bits. Up to `2 ^ 63` every real is taken, and one
that does not fit counts as the least number. -/
def wholeOf? (x : Float) : Option Int :=
  let least : Int := -Int.pow 2 63
  match Number.parts x with
  | .nan => none
  | .infinite negative => if negative then some least else none
  | .finite negative m q =>
    let n : Int := Number.truncate m q
    let n := if negative then -n else n
    if x ≤ Yaml.realOf (Int.pow 2 63) then
      some (if least ≤ n ∧ n < Int.pow 2 63 then n else least)
    else none

def flagNamed? (t : Text) : Option Bool :=
  if Yaml.oneOf ["y", "Y", "yes", "Yes", "YES", "on", "On", "ON"] t then some true
  else if Yaml.oneOf ["n", "N", "no", "No", "NO", "off", "Off", "OFF"] t then some false
  else none

def Slot.take? (slot : Slot) (r : Yaml.Resolved) (source : Text) : Option (Settings → Settings) :=
  match slot, r with
  | .words put, .text content => some (put content)
  | .words put, _ => some (put source)
  | .real put, .whole n => some (put (Yaml.realOf n))
  | .real put, .real x => some (put x)
  | .whole put, .whole n => if n < Int.pow 2 63 then some (put n) else none
  | .whole put, .real x => (wholeOf? x).map put
  | .span put, .text content => (Duration.parse? content).map put
  | .flag put, .flag b => some (put b)
  | .flag put, .text content => (flagNamed? content).map put
  | _, _ => none

/-- What a node is read for: the name of a field, the text of a key, or a value of settings. -/
inductive Target where
  | name
  | key
  | file
  | part (p : Section)
  | field (slot : Slot)

def Target.type : Target → Text
  | .name => utf8 "string"
  | .key => []
  | .file => utf8 "config.Config"
  | .part p => p.type
  | .field slot => slot.type

def Target.member? : Target → Option (Text → Option Target)
  | .file => some fun name => (sections.find? (·.name == name)).map .part
  | .part p => some fun name => (p.fields.find? (·.1 == name)).map fun (_, slot) => .field slot
  | _ => none

def keyText : Yaml.Node → Text
  | .scalar text .. => text
  | .reference name .. => name
  | _ => []

def sameKey (a b : Yaml.Node) : Bool :=
  match a, b with
  | .scalar s .., .scalar t .. => s == t
  | .reference s .., .reference t .. => s == t
  | .sequence .., .sequence .. => true
  | .mapping .., .mapping .. => true
  | _, _ => false

def repeatedKeys : (keys : List Yaml.Node) → List Complaint
  | [] => []
  | key :: keys =>
    (keys.filter (sameKey key)).map
        (fun again => .repeatedKey (keyText again) again.line key.line)
      ++ repeatedKeys keys

def isMerge : Yaml.Node → Bool
  | .scalar text quoted tag _ => text == utf8 "<<" && Yaml.tagOf text quoted tag == Yaml.Tag.merge
  | _ => false

/-- Settings read so far and the complaints on the way, last first. While mappings are merged,
`merged` holds the names that are taken. The nodes read are counted, and those among them that were
reached through an alias. -/
structure Progress where
  settings : Settings
  complaints : List Complaint
  merged : Option (List Text)
  visits : Nat
  aliasVisits : Nat

abbrev Decode := StateT Progress (Except Yaml.Fault)

def complain (c : Complaint) : Decode Unit :=
  modify fun s => { s with complaints := c :: s.complaints }

def failing {α : Type} (problem : Text) : Decode α :=
  throw (.general problem)

/-- Counts a node. A file that is nearly all aliases is refused. -/
def count (throughAlias : Bool) : Decode Unit := do
  modify fun s =>
    { s with
      visits := s.visits + 1
      aliasVisits := if throughAlias then s.aliasVisits + 1 else s.aliasVisits }
  let s ← get
  if 100 < s.aliasVisits && 1000 < s.visits && 99 * s.visits < 100 * s.aliasVisits then
    failing (utf8 "document contains excessive aliasing")

def readScalar (text : Text) (quoted : Bool) (tag : Option Text) (line : Nat) (target : Target) :
    Decode (Option Text) := do
  match Yaml.resolve text quoted tag, target with
  | .error fault, _ => throw fault
  | .ok .nothing, _ => return none
  | .ok (.text content), .name | .ok (.text content), .key => return some content
  | .ok _, .name => return some text
  | .ok .merge, .key => return some text
  | .ok _, .key => return none
  | .ok r, .field slot =>
    match slot.take? r text with
    | some change => modify fun s => { s with settings := change s.settings }
    | none => complain (.unfit (Yaml.tagOf text quoted tag) text slot.type line)
    return none
  | .ok _, target =>
    complain (.unfit (Yaml.tagOf text quoted tag) text target.type line)
    return none

/-- The state of reading a mapping: the names that are taken while mappings are merged, the fields
that were set, and the node that asks for a merge. -/
structure Pass where
  taken : Option (List Text)
  set : List Text
  merge : Option Yaml.Node

def readEntry (read : Yaml.Node → Target → Decode (Option Text)) (type : Text)
    (member? : Text → Option Target) (pass : Pass) (entry : Yaml.Node × Yaml.Node) :
    Decode Pass := do
  let (key, value) := entry
  if isMerge key then return { pass with merge := some value }
  match ← read key .name with
  | none => return pass
  | some name =>
    if pass.taken.any (·.contains name) then return pass
    let pass := { pass with taken := pass.taken.map (name :: ·) }
    match member? name with
    | none =>
      complain (.unknownField name type key.line)
      return pass
    | some target =>
      if pass.set.contains name then
        complain (.repeatedField name type key.line)
        return pass
      else
        discard (read value target)
        return { pass with set := name :: pass.set }

def setMerged (names : Option (List Text)) : Decode Unit :=
  modify fun s => { s with merged := names }

/-- Reads the mapping, or the mappings in a sequence, that a merge asks for. The names in the mapping
that asks are taken. `isMapping` looks through an alias. -/
def readMerge (read : Yaml.Node → Target → Decode (Option Text)) (isMapping : Yaml.Node → Bool)
    (keys : List Yaml.Node) (target : Target) (node : Yaml.Node) : Decode Unit := do
  let merged := (← get).merged
  if merged.isNone then
    setMerged (some (← keys.filterMapM fun key => read key .key))
  let readOne (node : Yaml.Node) : Decode Unit := do
    if isMapping node then discard (read node target)
    else failing (utf8 "map merge requires map or sequence of maps as the value")
  match node with
  | .sequence items _ _ => items.forM readOne
  | node => readOne node
  if merged.isNone then setMerged none

def readEntries (read : Yaml.Node → Target → Decode (Option Text)) (isMapping : Yaml.Node → Bool)
    (target : Target) (member? : Text → Option Target) (entries : List (Yaml.Node × Yaml.Node)) :
    Decode Unit := do
  let taken := (← get).merged
  setMerged none
  let pass ← entries.foldlM (readEntry read target.type member?) ⟨taken, [], none⟩
  setMerged pass.taken
  match pass.merge with
  | none => pure ()
  | some node => readMerge read isMapping (entries.map (·.1)) target node

/-- Reads a node for a target. `through` holds the aliases on the way to it; a mapping with a
repeated key is not read. -/
def readNode (anchored : List (Nat × Yaml.Node)) :
    (fuel : Nat) → (through : List Nat) → Yaml.Node → Target → Decode (Option Text)
  | 0, _, _, _ => pure none
  | fuel + 1, through, node, target => do
    count !through.isEmpty
    match node with
    | .scalar text quoted tag line => readScalar text quoted tag line target
    | .reference name number index _ =>
      if through.contains index then
        failing (utf8 "anchor '" ++ name ++ utf8 "' value contains itself")
      match anchored.lookup number with
      | some node => readNode anchored fuel (index :: through) node target
      | none => return none
    | .sequence _ tag line =>
      unless target matches .key do
        complain (.unfit (tag.getD Yaml.Tag.sequence) [] target.type line)
      return none
    | .mapping entries tag line =>
      match repeatedKeys (entries.map (·.1)), target.member? with
      | [], some member? =>
        let isMapping (node : Yaml.Node) : Bool :=
          match node with
          | .mapping .. => true
          | .reference _ number _ _ =>
            match anchored.lookup number with
            | some (.mapping ..) => true
            | _ => false
          | _ => false
        readEntries (readNode anchored fuel through) isMapping target member? entries
      | [], none =>
        unless target matches .key do
          complain (.unfit (tag.getD Yaml.Tag.mapping) [] target.type line)
      | repeats, _ => repeats.forM complain
      return none

/-- Reads a document into settings. Every nested step goes through a node or an alias of the text,
of which there are at most `size`. -/
def readDocument (d : Yaml.Document) (size : Nat) (s : Settings) :
    Except Yaml.Fault (Settings × List Complaint) :=
  match readNode d.anchored (size + 4) [] d.root .file ⟨s, [], none, 1, 0⟩ with
  | .error fault => .error fault
  | .ok (_, progress) => .ok (progress.settings, progress.complaints.reverse)

inductive FileError where
  | malformed (fault : Yaml.Fault)
  | unfit (complaints : List Complaint)
  | outOfRange (issues : List Issue)

def FileError.message (path : Option Text) : FileError → Text
  | .malformed fault => opening ++ utf8 "yaml: " ++ fault.message
  | .unfit complaints =>
    opening ++ utf8 "yaml: unmarshal errors:"
      ++ complaints.flatMap fun c => utf8 "\n  " ++ c.message
  | .outOfRange issues => issuesMessage (issues.map (·.message))
where
  opening : Text :=
    match path with
    | none => utf8 "config: parse: "
    | some path => utf8 "config: parse " ++ path ++ utf8 ": "

def checked (s : Settings) : Except FileError Settings :=
  if s.issues.isEmpty then .ok s else .error (.outOfRange s.issues)

def ofFile (t : Text) : Except FileError Settings :=
  match Yaml.document t with
  | .error fault => .error (.malformed fault)
  | .ok none => standard.checked
  | .ok (some d) =>
    match readDocument d t.length standard with
    | .error fault => .error (.malformed fault)
    | .ok (s, []) => s.checked
    | .ok (_, complaints) => .error (.unfit complaints)

end Settings

end TurtleLogo
