import RemoteAgent.Url.Ipv4
import RemoteAgent.Url.Ipv6
import RemoteAgent.Url.Label
import RemoteAgent.Url.Percent

/-!
# Hosts

The host of a URL is an IPv6 address in brackets, an IPv4 address, or a name. Names are kept in
ASCII. One that is in ASCII has its letters written in lower case, and is refused if one of its labels
is not well written. One that is not is given to `Idna`, which stands for the tables of
internationalized names: what it answers is read as the name. Escapes in a host are undone before it
is read. Schemes that do not know about hosts have opaque ones, which are only checked for characters
that no host may have.
-/

namespace RemoteAgent.Url

/-- A host. -/
inductive Host where
  /-- A name. -/
  | name (text : String)
  /-- An IPv4 address. -/
  | ipv4 (address : Nat)
  /-- An IPv6 address. -/
  | ipv6 (pieces : List Nat)
  deriving DecidableEq, Repr

/-- The written form of a host. -/
def Host.text : Host → String
  | .name text => text
  | .ipv4 address => Ipv4.text address
  | .ipv6 pieces => "[" ++ Ipv6.text pieces ++ "]"

/-- Characters that no host may have. -/
def isForbiddenInHost (c : Char) : Bool :=
  [0x00, 0x09, 0x0A, 0x0D, 0x20, 0x23, 0x2F, 0x3A, 0x3C, 0x3E, 0x3F, 0x40, 0x5B, 0x5C, 0x5D, 0x5E,
    0x7C].contains c.toNat

/-- Characters that no name may have: also controls and the percent sign. -/
def isForbiddenInName (c : Char) : Bool :=
  isForbiddenInHost c || c.toNat < 0x20 || c.toNat == 0x25 || c.toNat == 0x7F

/-- The address in brackets, if the host begins with one. -/
def bracketed? (chars : List Char) : Option (Except Fault Host) :=
  match chars with
  | '[' :: rest =>
    if rest.getLast? = some ']' then
      some (match Ipv6.parse rest.dropLast with
        | .ok pieces => .ok (.ipv6 pieces)
        | .error fault => .error fault)
    else some (.error .badIpv6)
  | _ => none

/-- What writes names beyond ASCII in ASCII: it maps their characters, composes them, checks their
labels, and puts the Punycode of a label for it. -/
structure Idna where
  /-- The name in ASCII that a name beyond ASCII stands for, if it may stand for one. -/
  ascii? : List Char → Option (List Char)

/-- Writes the names that are told, and refuses all others. -/
def Idna.ofList (told : List (String × String)) : Idna where
  ascii? name := (told.lookup (String.ofList name)).map String.toList

/-- The name in ASCII that characters stand for. -/
def Idna.name? (idna : Idna) (chars : List Char) : Option (List Char) :=
  if chars.any (0x80 ≤ ·.toNat) then idna.ascii? chars
  else
    let name := chars.map Char.toLower
    if Label.areWellWritten (name.splitOn '.') then some name else none

/-- The name that the octets of a host stand for. -/
def name? (idna : Idna) (octets : Bytes) : Except Fault (List Char) :=
  match Utf8.decode octets with
  | .error _ => .error .badName
  | .ok text =>
    match idna.name? text.toList with
    | none => .error .badName
    | some name => if name.any isForbiddenInName then .error .badName else .ok name

/-- Reads the host of a scheme that knows about hosts. -/
def Host.parse (idna : Idna) (chars : List Char) : Except Fault Host :=
  match bracketed? chars with
  | some host => host
  | none => do
    let chars ← name? idna (Percent.decode (Utf8.encode (String.ofList chars)))
    if chars.isEmpty then .error .emptyHost
    else if Ipv4.endsInNumber chars then return .ipv4 (← Ipv4.parse chars)
    else return .name (String.ofList chars)

/-- Reads an opaque host. -/
def Host.parseOpaque (chars : List Char) : Except Fault Host :=
  match bracketed? chars with
  | some host => host
  | none =>
    if chars.any isForbiddenInHost then .error .badHostCharacter
    else .ok (.name (Percent.encode Percent.controls (String.ofList chars)))

end RemoteAgent.Url
