import RemoteAgent.Text.Quoted
import RemoteAgent.Url.Fault
import RemoteAgent.Url.Ipv4

/-!
# IPv6 hosts

An address is eight pieces of 16 bits in hexadecimal between colons. One run of zero pieces
may be left out between two colons, and the last two pieces may be written as an IPv4
address. The written form leaves out the first of the longest runs of at least two zeros.
-/

namespace RemoteAgent.Url.Ipv6

/-- What has been read of an address: its pieces, and how many of them stand before the run
that was left out. -/
structure Reading where
  pieces : List Nat := []
  gap : Option Nat := none

/-- A decimal number up to 255 without a leading zero, and what follows it. -/
def decimalOctet (chars : List Char) : Except Fault (Nat × List Char) :=
  let shown := chars.takeWhile Char.isDigit
  match Ipv4.digits? 10 shown with
  | some value =>
    if shown.isEmpty || (1 < shown.length && shown.head? = some '0') || 255 < value then
      .error .badIpv6
    else .ok (value, chars.drop shown.length)
  | none => .error .badIpv6

/-- What must follow a point. -/
def pointed : List Char → Except Fault (List Char)
  | '.' :: rest => .ok rest
  | _ => .error .badIpv6

/-- Two pieces from four decimal numbers between points, which end the address. -/
def embedded (chars : List Char) : Except Fault (List Nat) := do
  let (first, rest) ← decimalOctet chars
  let (second, rest) ← decimalOctet (← pointed rest)
  let (third, rest) ← decimalOctet (← pointed rest)
  let (fourth, rest) ← decimalOctet (← pointed rest)
  if rest.isEmpty then return [256 * first + second, 256 * third + fourth]
  else .error .badIpv6

/-- The up to four hexadecimal digits at the front. -/
def pieceDigits (chars : List Char) : List Char :=
  (chars.take 4).takeWhile fun c => (Ipv4.digit? 16 c).isSome

/-- The rest of an address behind what has been read. -/
def readFrom (reading : Reading) (chars : List Char) : Except Fault Reading :=
  match chars with
  | [] => .ok reading
  | c :: rest =>
    if reading.pieces.length + (if reading.gap.isSome then 1 else 0) = 8 then .error .badIpv6
    else if c = ':' then
      if reading.gap.isSome then .error .badIpv6
      else readFrom { reading with gap := some reading.pieces.length } rest
    else
      let shown := pieceDigits (c :: rest)
      let piece := (Ipv4.digits? 16 shown).getD 0
      match _following : (c :: rest).drop shown.length with
      | [] => .ok { reading with pieces := reading.pieces ++ [piece] }
      | '.' :: _ =>
        if shown.isEmpty || 6 < reading.pieces.length + (if reading.gap.isSome then 1 else 0) then
          .error .badIpv6
        else
          match embedded (c :: rest) with
          | .ok pieces => .ok { reading with pieces := reading.pieces ++ pieces }
          | .error fault => .error fault
      | ':' :: after =>
        if after.isEmpty then .error .badIpv6
        else readFrom { reading with pieces := reading.pieces ++ [piece] } after
      | _ :: _ => .error .badIpv6
termination_by chars.length
decreasing_by
  · simp
  · have shorter := congrArg List.length _following
    simp only [List.length_drop, List.length_cons] at shorter ⊢
    omega

/-- The eight pieces of an address in brackets. -/
def parse (chars : List Char) : Except Fault (List Nat) := do
  let reading ← match chars with
    | ':' :: ':' :: rest => readFrom { gap := some 0 } rest
    | [] | [_] | ':' :: _ => .error .badIpv6
    | _ => readFrom {} chars
  match reading.gap with
  | none => if reading.pieces.length = 8 then .ok reading.pieces else .error .badIpv6
  | some before =>
    .ok (reading.pieces.take before ++ List.replicate (8 - reading.pieces.length) 0 ++
      reading.pieces.drop before)

/-- The length of the run of zeros at the front. -/
def zeroRun (pieces : List Nat) : Nat := (pieces.takeWhile (· == 0)).length

/-- The start and the length of the first of the longest runs of zeros. -/
def longestRun (pieces : List Nat) : Nat × Nat :=
  (List.range pieces.length).foldl
    (fun best start =>
      let length := zeroRun (pieces.drop start)
      if best.2 < length then (start, length) else best)
    (0, 0)

/-- Pieces in hexadecimal between colons. -/
def shownPieces (pieces : List Nat) : String :=
  ":".intercalate (pieces.map fun piece => String.ofList (Text.hex piece))

/-- An address in its written form, without brackets. -/
def text (pieces : List Nat) : String :=
  let (start, length) := longestRun pieces
  if length < 2 then shownPieces pieces
  else shownPieces (pieces.take start) ++ "::" ++ shownPieces (pieces.drop (start + length))

end RemoteAgent.Url.Ipv6
