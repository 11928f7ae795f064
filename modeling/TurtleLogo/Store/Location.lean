import TurtleLogo.Number.Literal
import TurtleLogo.Text.Quoted

/-!
# Where a store is kept

A store is kept in a file, or nowhere. Its path may go on with a query behind a question mark, and
may be written as a URI with the scheme `file`, in which percent signs stand for bytes.
-/

set_option autoImplicit false

namespace TurtleLogo

namespace Store

/-- A file, which may have to be there already, or no place at all. -/
inductive Location where
  | nowhere
  | file (path : Text) (mustExist : Bool)
  deriving DecidableEq, Repr

namespace Location

def hexByte (a b : UInt8) : UInt8 :=
  UInt8.ofNat (Number.hexDigitValue a * 16 + Number.hexDigitValue b)

def cut (c : UInt8) (t : Text) : Text × Option Text :=
  let before := t.takeWhile (· != c)
  match t.drop before.length with
  | [] => (before, none)
  | _ :: behind => (before, some behind)

/-- Decodes percent signs; one without two hexadecimal digits behind it stays. A zero byte ends the
text. -/
def decode : Text → Text
  | [] => []
  | 0x25 :: a :: b :: rest =>
    if Number.isHexDigit a && Number.isHexDigit b then
      if hexByte a b == 0 then [] else hexByte a b :: decode rest
    else 0x25 :: decode (a :: b :: rest)
  | c :: rest => c :: decode rest

/-- Decodes a part of a query, in which a plus sign stands for a blank. A percent sign without two
hexadecimal digits behind it is refused. -/
def decodeQuery : Text → Except Text Text
  | [] => .ok []
  | 0x25 :: a :: b :: rest =>
    if Number.isHexDigit a && Number.isHexDigit b then
      (decodeQuery rest).map (hexByte a b :: ·)
    else .error (utf8 "invalid URL escape " ++ Text.quoted [0x25, a, b])
  | 0x25 :: rest => .error (utf8 "invalid URL escape " ++ Text.quoted (0x25 :: rest))
  | 0x2B :: rest => (decodeQuery rest).map (0x20 :: ·)
  | c :: rest => (decodeQuery rest).map (c :: ·)

/-- What is wrong with the query of a path: a semicolon, or the first name or value that cannot be
decoded. -/
def queryProblem? (query : Text) : Option Text :=
  let parts := Text.splitAt 0x26 query
  if parts.any (·.any (· == 0x3B)) then some (utf8 "invalid semicolon separator in query")
  else
    let texts := parts.flatMap fun part =>
      let (name, value) := cut 0x3D part
      [name, value.getD []]
    texts.findSome? fun t =>
      match decodeQuery t with
      | .error problem => some problem
      | .ok _ => none

def place (name : Text) (mustExist : Bool) : Location :=
  if name.isEmpty || name == utf8 ":memory:" then .nowhere else .file name mustExist

/-- The file that a URI without its scheme names. A host in front of it must be this one. -/
def ofUri (uri : Text) : Except Text Location :=
  let (uri, _) := cut 0x23 uri
  let (path, query) := cut 0x3F uri
  let host :=
    match path with
    | 0x2F :: 0x2F :: rest => rest.takeWhile (· != 0x2F)
    | _ => []
  let path := decode (if (utf8 "//").isPrefixOf path then path.drop (host.length + 2) else path)
  if !host.isEmpty && host != utf8 "localhost" then
    .error (utf8 "invalid uri authority: " ++ host ++ utf8 " (1)")
  else
    let options := (Text.splitAt 0x26 (query.getD [])).map fun part =>
      let (name, value) := cut 0x3D part
      (decode name, decode (value.getD []))
    match options.lookup (utf8 "mode") with
    | none => .ok (place path false)
    | some mode =>
      if mode == utf8 "memory" then .ok .nowhere
      else if mode == utf8 "rwc" then .ok (place path false)
      else if mode == utf8 "rw" || mode == utf8 "ro" then .ok (place path true)
      else .error (utf8 "no such access mode: " ++ mode ++ utf8 " (1)")

/-- A path without its query, and the query. A question mark at the start is part of the name. -/
def splitQuery (path : Text) : Text × Text :=
  if path.head? == some 0x3F then (path, [])
  else
    let (name, query) := cut 0x3F path
    (name, query.getD [])

def ofPath (path : Text) : Except Text Location :=
  match (utf8 "file:").isPrefixOf? path with
  | some uri => ofUri uri
  | none => .ok (place ((splitQuery path).1.takeWhile (· != 0)) false)

def problem? (path : Text) : Option Text :=
  queryProblem? (splitQuery path).2

/-- A path without the parts that stand for nothing; a part `..` takes the part before it away. -/
def cleaned (path : Text) : Text :=
  let step (kept : List Text) (part : Text) : List Text :=
    if part.isEmpty || part == utf8 "." then kept
    else if part == utf8 ".." then
      match kept with
      | last :: outer => if last == utf8 ".." then part :: kept else outer
      | [] => [part]
    else part :: kept
  let parts := ((Text.splitAt 0x2F path).foldl step []).reverse
  (if path.head? == some 0x2F then utf8 "/" else []) ++ Text.join (utf8 "/") parts

end Location

end Store

end TurtleLogo
