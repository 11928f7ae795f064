import TurtleLogo.Shell.Commands
import TurtleLogo.Store.File

/-!
# Worlds

A world holds files and directories, and all that has been written to the two outputs. Commands run
in it as they do in the real surroundings.
-/

set_option autoImplicit false

namespace TurtleLogo

namespace Shell

/-- What a path leads to. What is written to a sink is lost. -/
inductive Entry where
  | file (content : Text)
  | store (s : Store)
  | directory
  | sink

/-- The files and directories, what was written, and what the clock shows. A path is the list of its
parts. -/
structure World where
  entries : List (List Text × Entry)
  output : Text
  messages : Text
  now : Int
  elapsed : Text
  age : Text
  identifier : Text

namespace World

/-- The path of the directory that commands run in, inside one that nothing is known of. -/
def current : List Text :=
  [[]]

def root : List Text :=
  [utf8 "/"]

def bare (now : Int) (elapsed age identifier : Text) : World :=
  let devices := root ++ [utf8 "dev"]
  { entries := [(devices, .directory), (devices ++ [utf8 "null"], .sink),
      (root ++ [utf8 "tmp"], .directory)]
    output := []
    messages := []
    now := now
    elapsed := elapsed
    age := age
    identifier := identifier }

def entry? (w : World) (parts : List Text) : Option Entry :=
  if parts.isEmpty || parts == current || parts == root then some .directory
  else w.entries.lookup parts

def put (w : World) (parts : List Text) (e : Entry) : World :=
  { w with entries := (parts, e) :: w.entries.filter (·.1 != parts) }

def place (w : World) (path : Text) (e : Entry) : World :=
  let parts := Text.splitAt 0x2F path
  let parents := (List.range (parts.length - 1)).map fun k => current ++ parts.take (k + 1)
  (parents.foldl (fun w p => w.put p .directory) w).put (current ++ parts) e

def parent (parts : List Text) : List Text :=
  if parts == root then root else parts.dropLast

def maxPart : Nat :=
  255

def pathLimit : Nat :=
  4096

def follow (w : World) (here : List Text) : (parts : List Text) → Except FileProblem (List Text)
  | [] => .ok here
  | part :: parts =>
    match w.entry? here with
    | none => .error .missing
    | some .directory =>
      if part.isEmpty || part == utf8 "." then w.follow here parts
      else if part == utf8 ".." then w.follow (parent here) parts
      else if maxPart < part.length then .error .nameTooLong
      else w.follow (here ++ [part]) parts
    | some _ => .error .notDirectory

def startOf (path : Text) : List Text :=
  if path.head? == some 0x2F then root else current

def locate (w : World) (path : Text) : Except FileProblem (List Text) :=
  if path.any (· == 0) then .error .invalidName
  else if path.isEmpty then .error .missing
  else if pathLimit ≤ path.length then .error .nameTooLong
  else w.follow (startOf path) (Text.splitAt 0x2F path)

/-- The place where a file is made. A path that ends with a slash can only name a directory. -/
def locateNew (w : World) (path : Text) : Except FileProblem (List Text) :=
  let parts := ((Text.splitAt 0x2F path).reverse.dropWhile List.isEmpty).reverse
  match w.locate path with
  | .error problem =>
    if path.getLast? == some 0x2F && problem != .invalidName && path.length < pathLimit then
      match w.follow (startOf path) (parts.dropLast ++ [utf8 "."]) with
      | .ok _ => .error .isDirectory
      | .error problem => .error problem
    else .error problem
  | .ok place => if path.getLast? == some 0x2F then .error .isDirectory else .ok place

def readFile (w : World) (path : Text) : Except FileFault Text :=
  match w.locate path with
  | .error problem => .error ⟨false, path, problem⟩
  | .ok parts =>
    match w.entry? parts with
    | none => .error ⟨false, path, .missing⟩
    | some .directory => .error ⟨true, path, .isDirectory⟩
    | some .sink => .ok []
    | some (.store s) => .ok s.toFile
    | some (.file t) => .ok t

def content? (w : World) (path : Text) : Option Text :=
  (w.readFile path).toOption

def writeFile (w : World) (path content : Text) : Except FileFault World :=
  match w.locateNew path with
  | .error problem => .error ⟨false, path, problem⟩
  | .ok parts =>
    match w.entry? parts with
    | some .directory => .error ⟨false, path, .isDirectory⟩
    | some .sink => .ok w
    | _ => .ok (w.put parts (.file content))

/-- Follows the parts of the path of a store. They need not lead to directories, but not through
files. -/
def followStore (w : World) (here : List Text) : (parts : List Text) → Option (List Text)
  | [] => some here
  | part :: parts =>
    if part.isEmpty || part == utf8 "." then w.followStore here parts
    else if part == utf8 ".." then w.followStore (parent here) parts
    else if maxPart < part.length then none
    else
      match w.entry? here with
      | none | some .directory => w.followStore (here ++ [part]) parts
      | some _ => none

def locateStore (w : World) (path : Text) : Option (List Text) :=
  match w.followStore (startOf path) (Text.splitAt 0x2F path) with
  | none => none
  | some place =>
    match w.entry? (parent place), w.entry? place with
    | some .directory, some .directory | some .directory, some .sink => none
    | some .directory, _ => some place
    | _, _ => none

/-- The store in a file. A file of at most one byte is an empty store. -/
def readStore (w : World) (path : Text) (mustExist : Bool) : Except StoreProblem (Store × World) :=
  match w.locateStore path with
  | none => .error .unavailable
  | some place =>
    match w.entry? place with
    | some (.store s) => .ok (s, w)
    | some (.file content) =>
      if content.length ≤ 1 then .ok (Store.empty, w.put place (.store Store.empty))
      else .error .notStore
    | _ =>
      if mustExist then .error .unavailable
      else .ok (Store.empty, w.put place (.store Store.empty))

def writeStore (w : World) (path : Text) (s : Store) : World :=
  match w.locateStore path with
  | none => w
  | some place => w.put place (.store s)

instance : Surroundings (StateM World) where
  readFile path := do return (← get).readFile path
  writeFile path content := do
    match (← get).writeFile path content with
    | .error fault => return .error fault
    | .ok w =>
      set w
      return .ok ()
  readStore path mustExist := do
    match (← get).readStore path mustExist with
    | .error problem => return .error problem
    | .ok (s, w) =>
      set w
      return .ok s
  writeStore path s := do
    modify fun w => w.writeStore path s
    return .ok ()
  print t := modify fun w => { w with output := w.output ++ t }
  printMessage t := modify fun w => { w with messages := w.messages ++ t }
  record entry := modify fun w => { w with messages := w.messages ++ entry }
  now := do return (← get).now
  age _ := do return (← get).age
  stopwatch := return (do return (← get).elapsed)
  pause _ := pure ()
  colored := return false
  home := return []
  identifier := do return (← get).identifier
  serve _ _ := return utf8 "no network"

def command (args : List Text) (input : Text) : StateM World Nat := do
  match ← Shell.run args with
  | .exit code => return code
  | .converse r =>
    r.converse ((lines input).map .line)
    return 0

end World

end Shell

end TurtleLogo
