import TurtleLogo.Server.Host

/-!
# Addresses to listen on

An address is a host and a port with a colon in between. The host may be in brackets and may be
missing; the port is a number, or the name of a service. A server listens on addresses of four
numbers only.
-/

set_option autoImplicit false

namespace TurtleLogo

namespace Address

def split (address : Text) : Except Text (Text × Text) :=
  let port := Host.behindLast 0x3A address
  let host := address.take (address.length - port.length - 1)
  let inside := (address.drop 1).takeWhile (· != 0x5D)
  let behind := address.drop (inside.length + 2)
  if !address.any (· == 0x3A) then .error (utf8 "missing port in address")
  else if address.head? == some 0x5B then
    if !address.any (· == 0x5D) then .error (utf8 "missing ']' in address")
    else if behind.head? != some 0x3A then .error (utf8 "missing port in address")
    else if behind != 0x3A :: port then .error (utf8 "too many colons in address")
    else if (address.drop 1).any (· == 0x5B) then .error (utf8 "unexpected '[' in address")
    else if behind.any (· == 0x5D) then .error (utf8 "unexpected ']' in address")
    else .ok (inside, port)
  else if host.any (· == 0x3A) then .error (utf8 "too many colons in address")
  else if address.any (· == 0x5B) then .error (utf8 "unexpected '[' in address")
  else if address.any (· == 0x5D) then .error (utf8 "unexpected ']' in address")
  else .ok (host, port)

def services : List (String × Nat) :=
  [("ftp", 21), ("ftps", 990), ("gopher", 70), ("http", 80), ("https", 443), ("imap2", 143),
    ("imap3", 220), ("imaps", 993), ("pop3", 110), ("pop3s", 995), ("smtp", 25), ("submissions", 465),
    ("ssh", 22), ("telnet", 23)]

def number? (port : Text) : Option Int :=
  let (negative, digits) :=
    match port with
    | 0x2B :: rest => (false, rest)
    | 0x2D :: rest => (true, rest)
    | _ => (false, port)
  if !digits.all Text.isDigit then none
  else
    let n : Int := Text.toNat digits
    some (if negative then -n else n)

/-- The number of a port, or what is wrong with it. Names of services may be in either case. -/
def portOf (port : Text) : Except Text Nat :=
  match number? port with
  | some n =>
    if 0 ≤ n ∧ n ≤ 65535 then .ok n.toNat
    else .error (utf8 "address " ++ port ++ utf8 ": invalid port")
  | none =>
    let lowered := port.map fun b => if Text.isUpper b then b + 0x20 else b
    match services.find? fun (name, _) => utf8 name == lowered with
    | some (_, n) => .ok n
    | none => .error (utf8 "lookup tcp/" ++ port ++ utf8 ": unknown port")

def isGroup (t : Text) : Bool :=
  1 ≤ t.length && t.length ≤ 4 && t.all Number.isHexDigit

def groups (t : Text) : List Text :=
  if t.isEmpty then [] else Text.splitAt 0x3A t

def splitColons? : Text → Option (Text × Text)
  | [] => none
  | 0x3A :: 0x3A :: rest => some ([], rest)
  | c :: rest => (splitColons? rest).map fun (before, behind) => (c :: before, behind)

/-- Whether a host is an address of eight groups, perhaps with a zone. Two colons in a row stand for
groups of zero. The address of zeros is left out: it stands for all addresses. -/
def isEightfold (host : Text) : Bool :=
  let address := host.takeWhile (· != 0x25)
  let zone := host.drop address.length
  let (found, complete) :=
    match splitColons? address with
    | none => (groups address, 8)
    | some (before, behind) => (groups before ++ groups behind, 7)
  zone.length != 1 && found.all isGroup && found.any (·.any (· != 0x30))
    && (found.length == complete || complete == 7 && found.length < 7)

def octet? (t : Text) : Option Nat :=
  if t.isEmpty || 3 < t.length || !t.all Text.isDigit || (t.head? == some 0x30 && 1 < t.length) then
    none
  else if Text.toNat t ≤ 255 then some (Text.toNat t)
  else none

/-- Whether a host is an address of four numbers that belongs to another machine: not the one of
zeros, which stands for all addresses, none of this machine, and none that reaches many. -/
def isForeign (host : Text) : Bool :=
  match (Text.splitAt 0x2E host).map octet? with
  | [some a, some b, some c, some d] =>
    a != 127 && a < 224 && (a != 0 || b != 0 || c != 0 || d != 0)
  | _ => false

def failure? (address : Text) : Option Text :=
  match split address with
  | .error problem => some (utf8 "listen tcp4: address " ++ address ++ utf8 ": " ++ problem)
  | .ok (host, port) =>
    match portOf port with
    | .error problem => some (utf8 "listen tcp4: " ++ problem)
    | .ok n =>
      if isEightfold host then
        some (utf8 "listen tcp4: address " ++ host ++ utf8 ": no suitable address found")
      else if isForeign host then
        some (utf8 "listen tcp4 " ++ host ++ utf8 ":" ++ Text.ofNat n
          ++ utf8 ": bind: cannot assign requested address")
      else none

end Address

end TurtleLogo
