import TurtleLogo.Yaml.Encoding

/-!
# Characters as they come in

The bytes of a text are taken in blocks, and a block is decoded as a whole when a character of it is
asked for. A fault in a block is therefore found before what is wrong with the lexemes in it, and
never found if no character of the block is needed.
-/

set_option autoImplicit false

namespace TurtleLogo

namespace Yaml

def blockSize : Nat :=
  512

/-- The characters decoded and not yet read, with their number, to which the ends of the text that
were met are added; the bytes taken and not yet decoded; and the bytes not yet taken. `drained` says
that the end of the text was met. `marked` says that the characters held started with a byte order
mark when they were last asked for. -/
structure Feed where
  ahead : List Nat
  unread : Nat
  bytes : Text
  source : Text
  drained : Bool
  encoding : Option Encoding
  marked : Bool

namespace Feed

def ofText (t : Text) : Feed :=
  ⟨[], 0, [], t, false, none, false⟩

def takeBlock (f : Feed) : Feed :=
  if f.source.isEmpty then { f with drained := true }
  else
    let room := blockSize - f.bytes.length
    { f with bytes := f.bytes ++ f.source.take room, source := f.source.drop room }

def announce (f : Feed) : Feed :=
  match f.encoding with
  | some _ => f
  | none =>
    let f := f.takeBlock
    let f := if f.bytes.length < 3 then f.takeBlock else f
    let (encoding, width) := Encoding.announced f.bytes
    { f with encoding := some encoding, bytes := f.bytes.drop width }

/-- Decodes bytes up to one that starts no whole character. The characters come last first in front
of `codes`; there are at most `fuel`. -/
def decodeAll (e : Encoding) (drained : Bool) :
    (fuel : Nat) → (bytes : Text) → (codes : List Nat) → Except Fault (Text × List Nat)
  | 0, bytes, codes => .ok (bytes, codes)
  | _ + 1, [], codes => .ok ([], codes)
  | fuel + 1, b :: bytes, codes =>
    match e.decode (b :: bytes) with
    | .character code width => decodeAll e drained fuel (bytes.drop (width - 1)) (code :: codes)
    | .partOf problem =>
      if drained then .error (.general problem) else .ok (b :: bytes, codes)
    | .invalid problem => .error (.general problem)

def decodeBlock (f : Feed) : Except Fault Feed :=
  match decodeAll (f.encoding.getD .octets) f.drained f.bytes.length f.bytes [] with
  | .error fault => .error fault
  | .ok (bytes, codes) =>
    .ok { f with
      ahead := f.ahead ++ codes.reverse
      unread := f.unread + codes.length
      bytes := bytes }

/-- Takes and decodes blocks until `n` characters can be read or the text ends. -/
def fill (n : Nat) : (fuel : Nat) → Feed → Except Fault Feed
  | 0, f => .ok f
  | fuel + 1, f =>
    if n ≤ f.unread then .ok f
    else
      match f.takeBlock.decodeBlock with
      | .error fault => .error fault
      | .ok f => if f.drained then .ok { f with unread := f.unread + 1 } else fill n fuel f

def need (f : Feed) (n : Nat) : Except Fault Feed :=
  if n ≤ f.unread then .ok f
  else
    -- the bytes that came with the first look at the text are decoded before others are taken
    match f.announce.decodeBlock with
    | .error fault => .error fault
    | .ok f =>
      match
        if f.drained then .ok { f with unread := f.unread + 1 }
        else fill n (n + 2) f with
      | .error fault => .error fault
      | .ok f => .ok { f with marked := f.ahead.head? == some 0xFEFF }

def skip (f : Feed) : Feed :=
  { f with ahead := f.ahead.drop 1, unread := f.unread - 1 }

end Feed

end Yaml

end TurtleLogo
