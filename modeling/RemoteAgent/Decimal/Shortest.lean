/-!
# The shortest decimal of a binary floating-point number

A finite number is a mantissa times a power of two. Every real in the interval that rounds
to it reads back as it, and among the decimals in that interval the one with the fewest
digits is written, the nearer of two, the larger on a tie. The search is exact arithmetic
on natural numbers.
-/

namespace RemoteAgent.Decimal

/-- A floating-point number taken apart. -/
inductive Reading where
  /-- No number. -/
  | nan
  /-- Beyond every finite number. -/
  | infinite (negative : Bool)
  /-- The number `mantissa * 2 ^ exponent`, with its sign. -/
  | finite (negative : Bool) (mantissa : Nat) (exponent : Int)
  deriving DecidableEq, Repr

/-- Takes apart a number of `fractionBits` stored mantissa bits and `exponentBits` exponent
bits, the sign above both. -/
def Reading.ofBits (fractionBits exponentBits : Nat) (bits : Nat) : Reading :=
  let fraction := bits % Nat.pow 2 fractionBits
  let stored := bits / Nat.pow 2 fractionBits % Nat.pow 2 exponentBits
  let negative := bits / Nat.pow 2 (fractionBits + exponentBits) % 2 == 1
  let top := Nat.pow 2 exponentBits - 1
  let least : Int := 2 - Nat.pow 2 (exponentBits - 1) - fractionBits
  if stored = top then if fraction = 0 then .infinite negative else .nan
  else if stored = 0 then .finite negative fraction least
  else .finite negative (Nat.pow 2 fractionBits + fraction) (least + stored - 1)

/-- Takes apart the 32-bit format. -/
def Reading.ofBits32 (bits : Nat) : Reading := .ofBits 23 8 bits

/-- Takes apart the 64-bit format. -/
def Reading.ofBits64 (bits : Nat) : Reading := .ofBits 52 11 bits

/-- A positive number with its mantissa at the full 53 bits of the 64-bit format, or at the
least exponent of that format. -/
def widen (mantissa : Nat) (exponent : Int) : Nat × Int :=
  let shift := min (52 - Nat.log2 mantissa) (exponent + 1074).toNat
  (mantissa * Nat.pow 2 shift, exponent - shift)

/-- The comparison of `units * 2 ^ twos` with `count * 10 ^ tens`. -/
def compareScaled (units : Nat) (twos : Int) (count : Nat) (tens : Int) : Ordering :=
  compare (units * Nat.pow 2 twos.toNat * Nat.pow 10 (-tens).toNat)
    (count * Nat.pow 10 tens.toNat * Nat.pow 2 (-twos).toNat)

/-- How many steps of `10 ^ tens` fit into `units * 2 ^ twos`. -/
def stepsWithin (units : Nat) (twos tens : Int) : Nat :=
  units * Nat.pow 2 twos.toNat * Nat.pow 10 (-tens).toNat /
    (Nat.pow 10 tens.toNat * Nat.pow 2 (-twos).toNat)

/-- The power of ten of the leading digit of the positive number `units * 2 ^ twos`, for
numbers above `10 ^ (-400)`. -/
def leadingPower (units : Nat) (twos : Int) : Int :=
  (Nat.toDigits 10 (stepsWithin units twos (-400))).length - 401

/-- The decimals of a grid that read back as the number: `value`, `low` and `high` count
quarters of the last place, and the ends count when `closed`. -/
def readsBack (low high : Nat) (twos : Int) (closed : Bool) (count : Nat) (tens : Int) : Bool :=
  let above := compareScaled low twos count tens
  let below := compareScaled high twos count tens
  (above == .lt || (closed && above == .eq)) && (below == .gt || (closed && below == .eq))

/-- The decimal of the grid `10 ^ tens` that reads back and is nearest, if one reads back. -/
def nearestOnGrid (value low high : Nat) (twos : Int) (closed : Bool) (tens : Int) :
    Option Nat :=
  let floor := stepsWithin value twos tens
  let floorReads := readsBack low high twos closed floor tens
  let nextReads := readsBack low high twos closed (floor + 1) tens
  let upper := compareScaled (2 * value) twos (2 * floor + 1) tens != .lt
  if nextReads && (upper || !floorReads) then some (floor + 1)
  else if floorReads then some floor
  else none

/-- The decimal `digits * 10 ^ tens` with the fewest digits that reads back as the positive
number `mantissa * 2 ^ exponent`. -/
def shortest (mantissa : Nat) (exponent : Int) : Nat × Int :=
  let wide := widen mantissa exponent
  let value := 4 * wide.1
  let low := if wide.1 = Nat.pow 2 52 && -1074 < wide.2 then value - 1 else value - 2
  let high := value + 2
  let twos := wide.2 - 2
  let closed := wide.1 % 2 == 0
  let leading := leadingPower value twos
  let grids := (List.range 17).map fun (places : Nat) => leading - places
  let hit := grids.findSome? fun tens =>
    (nearestOnGrid value low high twos closed tens).map fun count => (count, tens)
  hit.getD (0, 0)

/-- Drops trailing zeros of `digits * 10 ^ tens` that stand behind the point. -/
def trim (digits : Nat) (tens : Int) : Nat × Int :=
  if h : 0 < digits ∧ digits % 10 = 0 ∧ tens < 0 then trim (digits / 10) (tens + 1)
  else (digits, tens)
termination_by digits
decreasing_by omega

/-- The number `digits * 10 ^ tens` without an exponent and always with a fraction. -/
def positional (digits : Nat) (tens : Int) : String :=
  let shown := (toString digits).toList
  if 0 ≤ tens then
    String.ofList (shown ++ List.replicate tens.toNat '0' ++ ['.', '0'])
  else
    let places := (-tens).toNat
    let padded := List.replicate (places + 1 - shown.length) '0' ++ shown
    let whole := padded.length - places
    String.ofList (padded.take whole ++ '.' :: padded.drop whole)

/-- A floating-point number in words: without an exponent, always with a fraction. -/
def Reading.text : Reading → String
  | .nan => "NaN"
  | .infinite negative => if negative then "-inf" else "inf"
  | .finite negative mantissa exponent =>
    let sign := if negative then "-" else ""
    if mantissa = 0 then sign ++ "0.0"
    else
      let decimal := shortest mantissa exponent
      let trimmed := trim decimal.1 decimal.2
      sign ++ positional trimmed.1 trimmed.2

end RemoteAgent.Decimal
