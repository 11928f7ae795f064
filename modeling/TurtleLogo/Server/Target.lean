import TurtleLogo.Server.Host

/-!
# Request targets

The target of a request names a path, possibly behind a host and in front of a query or a fragment.
Percent signs with two hexadecimal digits stand for bytes. In the path, repeated slashes count as
one, a part `.` stands for nothing, and a part `..` takes the part before it away.
-/

set_option autoImplicit false

namespace TurtleLogo

namespace Target

/-- Decodes percent signs; one without two hexadecimal digits behind it stays. -/
def decode : Text → Text
  | [] => []
  | 0x25 :: a :: b :: rest =>
    if Number.isHexDigit a && Number.isHexDigit b then
      UInt8.ofNat (Number.hexDigitValue a * 16 + Number.hexDigitValue b) :: decode rest
    else 0x25 :: decode (a :: b :: rest)
  | c :: rest => c :: decode rest

def splitHost? : Text → Option (Text × Text)
  | [] => none
  | 0x2F :: 0x2F :: rest => some ([], rest)
  | c :: rest => (splitHost? rest).map fun (scheme, rest) => (c :: scheme, rest)

/-- The host of a target, if it has one, and what follows it. A host ends at a slash, a question mark
or a number sign. -/
def split (target : Text) : Text × Text :=
  match splitHost? target with
  | none => ([], target)
  | some (scheme, rest) =>
    if scheme.any (· == 0x2F) then ([], target)
    else
      let host := rest.takeWhile fun c => c != 0x2F && c != 0x3F && c != 0x23
      (Host.withoutUser host, rest.drop host.length)

/-- Resolves the parts of a path; `kept` are those passed already, the last one first. The last part
may be empty, for a slash at the end. -/
def resolve (kept : List Text) : (parts : List Text) → List Text
  | [] => kept.reverse
  | [last] =>
    if last == utf8 ".." then ([] :: kept.drop 1).reverse else (last :: kept).reverse
  | part :: parts =>
    if part.isEmpty || part == utf8 "." then resolve kept parts
    else if part == utf8 ".." then resolve (kept.drop 1) parts
    else resolve (part :: kept) parts

def normalize (path : Text) : Text :=
  let rest :=
    match path with
    | 0x2F :: rest => rest
    | _ => path
  utf8 "/" ++ Text.join (utf8 "/") (resolve [] (Text.splitAt 0x2F (decode rest)))

def isControl (c : UInt8) : Bool :=
  c < 0x20 || c == 0x7F

/-- The path that a target names. A target with control characters or a malformed host names the
root. -/
def path (target : Text) : Text :=
  let (host, rest) := split target
  if target.any isControl || !Host.isValid host then utf8 "/"
  else normalize (rest.takeWhile fun c => c != 0x3F && c != 0x23)

end Target

end TurtleLogo
