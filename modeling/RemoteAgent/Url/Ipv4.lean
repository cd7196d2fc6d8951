import RemoteAgent.Bytes
import RemoteAgent.Url.Fault

/-!
# IPv4 hosts

A host whose last label is a number is an IPv4 address. Its labels may be decimal, octal
after a leading zero, or hexadecimal after `0x`, and the last one stands for all octets
that are left.
-/

namespace RemoteAgent.Url.Ipv4

/-- The value of a digit in a base up to sixteen. -/
def digit? (base : Nat) (c : Char) : Option Nat :=
  let value :=
    if '0' ≤ c && c ≤ '9' then c.toNat - 0x30
    else if 'a' ≤ c && c ≤ 'f' then c.toNat - 0x61 + 10
    else if 'A' ≤ c && c ≤ 'F' then c.toNat - 0x41 + 10
    else 16
  if value < base then some value else none

/-- The number that digits in a base stand for; no digits stand for zero. -/
def digits? (base : Nat) (chars : List Char) : Option Nat :=
  chars.foldlM (fun value c => (digit? base c).map (base * value + ·)) 0

/-- The number that a label stands for. -/
def number? : List Char → Option Nat
  | [] => none
  | '0' :: 'x' :: rest | '0' :: 'X' :: rest => digits? 16 rest
  | '0' :: c :: rest => digits? 8 (c :: rest)
  | chars => digits? 10 chars

/-- The labels of a host, without an empty one behind a final point. -/
def labels (host : List Char) : List (List Char) :=
  let parts := host.splitOn '.'
  if parts.getLast? = some [] then parts.dropLast else parts

/-- Whether the last label is a number, or at least all digits. -/
def endsInNumber (host : List Char) : Bool :=
  match (labels host).getLast? with
  | none => false
  | some label => (!label.isEmpty && label.all Char.isDigit) || (number? label).isSome

/-- The address that a host ending in a number stands for. -/
def parse (host : List Char) : Except Fault Nat :=
  let parts := labels host
  if 4 < parts.length then .error .badIpv4
  else
    match parts.mapM number? with
    | none => .error .badIpv4
    | some numbers =>
      let leading := numbers.dropLast
      let last := numbers.getLastD 0
      if leading.any (255 < ·) || Bytes.span (4 - leading.length) ≤ last then .error .badIpv4
      else
        let high := leading.foldl (fun value number => 256 * value + number) 0
        .ok (high * Bytes.span (4 - leading.length) + last)

/-- An address as four decimal numbers. -/
def text (address : Nat) : String :=
  ".".intercalate ([0x1000000, 0x10000, 0x100, 1].map fun unit => toString (address / unit % 256))

end RemoteAgent.Url.Ipv4
