import RemoteAgent.MessagePack.Fault

/-!
# Reading MessagePack values

A reader consumes octets from the front. A value is read in two steps: its head, which is
the marker with the number or the length that belongs to it, and then its contents. A
value of an unexpected kind is read as far as it takes to name it, and refused.
-/

namespace RemoteAgent.MessagePack

/-- A reader of values of type `α`. -/
abbrev Reader (α : Type) := StateT Bytes (Except Fault) α

/-- A value that is complete with its head. -/
inductive Scalar where
  /-- The null value. -/
  | null
  /-- A truth value. -/
  | boolean (value : Bool)
  /-- A number written without a sign. -/
  | unsigned (value : Nat)
  /-- A number written with a sign. -/
  | signed (value : Int)
  /-- A floating-point number. -/
  | float (value : Decimal.Reading)
  deriving DecidableEq, Repr

/-- The head of a value. -/
inductive Head where
  /-- A value without contents. -/
  | scalar (value : Scalar)
  /-- A text of so many octets. -/
  | text (length : Nat)
  /-- So many octets. -/
  | binary (length : Nat)
  /-- An array of so many elements. -/
  | array (length : Nat)
  /-- A map of so many entries. -/
  | map (length : Nat)
  /-- An application value of so many octets behind its kind. -/
  | extension (length : Nat)
  deriving DecidableEq, Repr

/-- How a scalar is named when it is unexpected. -/
def Scalar.found : Scalar → Found
  | .null => .unit
  | .boolean value => .boolean value
  | .unsigned value => .integer value
  | .signed value => .integer value
  | .float value => .float value

/-- The number that `value` stands for in two's complement of a width. -/
def twosComplement (width : Width) (value : Nat) : Int :=
  let span := Bytes.span width.octets
  if 2 * value < span then value else (value : Int) - span

namespace Reader

/-- Refuses the octets. -/
def refuse {α : Type} (fault : Fault) : Reader α := fun _ => .error fault

/-- The next marker. -/
def marker : Reader Marker
  | [] => .error .endAtMarker
  | octet :: rest => .ok (Marker.ofOctet octet, rest)

/-- A number in a width, most significant octet first. -/
def number (width : Width) : Reader Nat := fun bytes =>
  match bytes.split width.octets with
  | some (digits, rest) => .ok (Bytes.ofBigEndian digits, rest)
  | none => .error .endInNumber

/-- The contents of a value. -/
def contents (length : Nat) : Reader Bytes := fun bytes =>
  match bytes.split length with
  | some (octets, rest) => .ok (octets, rest)
  | none => .error .endInContents

/-- What a reader makes of other octets, whose rest is dropped. -/
def within {α : Type} (octets : Bytes) (read : Reader α) : Reader α := fun bytes =>
  match read octets with
  | .ok (value, _) => .ok (value, bytes)
  | .error fault => .error fault

/-- The rest of a scalar behind its marker; other markers begin no scalar. -/
def scalar? : Marker → Option (Reader Scalar)
  | .fixPositive value => some (pure (.unsigned value))
  | .fixNegative distance => some (pure (.signed ((distance : Int) - 32)))
  | .null => some (pure .null)
  | .boolean value => some (pure (.boolean value))
  | .unsigned width => some do return .unsigned (← number width)
  | .signed width => some do return .signed (twosComplement width (← number width))
  | .float32 => some do return .float (.ofBits32 (← number .four))
  | .float64 => some do return .float (.ofBits64 (← number .eight))
  | _ => none

/-- The head of the next value. -/
def head : Reader Head := do
  let first ← marker
  match first with
  | .fixText length => return .text length
  | .text width => return .text (← number width)
  | .binary width => return .binary (← number width)
  | .fixArray length => return .array length
  | .array width => return .array (← number width)
  | .fixMap length => return .map length
  | .map width => return .map (← number width)
  | .fixExtension power => return .extension (Nat.pow 2 power)
  | .extension width => return .extension (← number width)
  | _ =>
    match scalar? first with
    | some rest => return .scalar (← rest)
    | none => refuse (.wrongMarker first)

/-- Refuses the value behind a head, after reading what names it. -/
def reject {α : Type} (found : Head) (expected : Expected) : Reader α := do
  match found with
  | .scalar value => refuse (.invalidType value.found expected)
  | .text length =>
    match Utf8.decode (← contents length) with
    | .ok value => refuse (.invalidType (.text value) expected)
    | .error fault => refuse (.badText fault)
  | .binary length =>
    let _ ← contents length
    refuse (.invalidType .octets expected)
  | .array _ => refuse (.invalidType .sequence expected)
  | .map _ => refuse (.invalidType .map expected)
  | .extension _ => refuse (.invalidType .extension expected)

/-- A text, written as text or as octets. -/
def text : Reader String := do
  match ← head with
  | .text length =>
    match Utf8.decode (← contents length) with
    | .ok value => return value
    | .error fault => refuse (.badText fault)
  | .binary length =>
    match Utf8.decode (← contents length) with
    | .ok value => return value
    | .error _ => refuse (.invalidValue .octets .text)
  | other => reject other .text

/-- A scalar. A value of any other kind is refused at its marker. -/
def scalar : Reader Scalar := do
  let first ← marker
  match scalar? first with
  | some rest => rest
  | none => refuse (.wrongMarker first)

/-- A whole number from `least` to `greatest`, in whatever width it is written. -/
def integer (least greatest : Int) (expected : Expected) : Reader Int := do
  let ranged (value : Int) : Reader Int :=
    if least ≤ value ∧ value ≤ greatest then return value
    else refuse (.invalidValue (.integer value) expected)
  match ← scalar with
  | .unsigned value => ranged value
  | .signed value => ranged value
  | other => refuse (.invalidType other.found expected)

/-- A truth value. -/
def boolean : Reader Bool := do
  match ← scalar with
  | .boolean value => return value
  | other => refuse (.invalidType other.found .boolean)

/-- So many values one after another, behind those already read in reverse order. -/
def valuesAfter {α : Type} (read : Reader α) : Nat → List α → Reader (List α)
  | 0, found => return found.reverse
  | count + 1, found => do
    let value ← read
    valuesAfter read count (value :: found)

/-- So many values one after another. -/
def values {α : Type} (read : Reader α) (count : Nat) : Reader (List α) :=
  valuesAfter read count []

/-- Octets as the values of an array: each is a number. -/
def elementsOfOctets (octets : Bytes) : Bytes :=
  octets.flatMap fun octet => [(Marker.unsigned .one).octet, octet]

/-- A list of texts. Octets count as an array of numbers. -/
def texts : Reader (List String) := do
  match ← head with
  | .array length => values text length
  | .binary length =>
    let octets ← contents length
    within (elementsOfOctets octets) (values text length)
  | other => reject other .sequence

/-- Passes over `count` well-formed values of any kind. `allowance` containers may still
open inside one another. -/
def skip : (allowance count : Nat) → Reader Unit
  | _, 0 => return ()
  | 0, rest + 1 => do
    match ← head with
    | .scalar _ => skip 0 rest
    | .text length | .binary length =>
      let _ ← contents length
      skip 0 rest
    | .array _ | .map _ | .extension _ => refuse .tooDeep
  | inner + 1, rest + 1 => do
    match ← head with
    | .scalar _ => skip (inner + 1) rest
    | .text length | .binary length =>
      let _ ← contents length
      skip (inner + 1) rest
    | .array length =>
      skip inner length
      skip (inner + 1) rest
    | .map length =>
      skip inner (2 * length)
      skip (inner + 1) rest
    | .extension length =>
      let _ ← number .one
      let _ ← contents length
      skip (inner + 1) rest
termination_by allowance count => (allowance, count)

end Reader

end RemoteAgent.MessagePack
