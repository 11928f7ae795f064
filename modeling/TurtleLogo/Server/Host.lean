import TurtleLogo.Number.Literal

/-!
# Hosts

A host in a request target is a name or an address in brackets, with an optional port. Percent signs
in it stand for bytes beyond ASCII, and in the zone of an address also for others.
-/

set_option autoImplicit false

namespace TurtleLogo

namespace Host

def isByte (c : UInt8) : Bool :=
  Text.isLower c || Text.isUpper c || Text.isDigit c
    || [0x21, 0x24, 0x26, 0x27, 0x28, 0x29, 0x2A, 0x2B, 0x2C, 0x3B, 0x3D, 0x3A, 0x5B, 0x5D, 0x3C,
      0x3E, 0x22, 0x2D, 0x5F, 0x2E, 0x7E].contains c

def mayEscape (zone : Bool) (a b : UInt8) : Bool :=
  let code := Number.hexDigitValue a * 16 + Number.hexDigitValue b
  Number.isHexDigit a && Number.isHexDigit b
    && (code == 0x25
      || if zone then code == 0x20 || isByte (UInt8.ofNat code) && code < 0x80 else 0x80 ≤ code)

def isClean (zone : Bool) : Text → Bool
  | [] => true
  | 0x25 :: a :: b :: rest => mayEscape zone a b && isClean zone rest
  | c :: rest => (0x80 ≤ c || isByte c) && isClean zone rest

def isPort : Text → Bool
  | [] => true
  | 0x3A :: digits => digits.all Text.isDigit
  | _ => false

def behindLast (c : UInt8) (t : Text) : Text :=
  (t.reverse.takeWhile (· != c)).reverse

def splitZone? : Text → Option (Text × Text)
  | [] => none
  | 0x25 :: 0x32 :: 0x35 :: rest => some ([], 0x25 :: 0x32 :: 0x35 :: rest)
  | c :: rest => (splitZone? rest).map fun (address, zone) => (c :: address, zone)

def isBracketed (host : Text) : Bool :=
  let port := behindLast 0x5D host
  let address := host.take (host.length - port.length - 1)
  host.any (· == 0x5D) && isPort port &&
    match splitZone? address with
    | some (address, zone) => isClean false address && isClean true zone && isClean false port
    | none => isClean false host

def isValid (host : Text) : Bool :=
  if host.head? == some 0x5B then isBracketed host
  else
    isClean false host && (!host.any (· == 0x3A) || (behindLast 0x3A host).all Text.isDigit)

def withoutUser (host : Text) : Text :=
  if host.any (· == 0x40) then (host.dropWhile (· != 0x40)).drop 1 else host

end Host

end TurtleLogo
