import RemoteAgent.MessagePack.Reader
import RemoteAgent.MessagePack.Writer

/-!
# Records in MessagePack

A record has named fields of fixed kinds, some with a default. It is written as a map from
field names to values, in field order. It is read from a map in any order, whose keys may
be field names or field numbers and whose other entries are passed over, or from an array
of the values in field order.
-/

namespace RemoteAgent.MessagePack

/-- The kind of a field. -/
inductive FieldKind where
  /-- A text. -/
  | text
  /-- A number without a sign of 64 bits. -/
  | unsigned64
  /-- A number without a sign of 32 bits. -/
  | unsigned32
  /-- A number with a sign of 64 bits. -/
  | signed64
  /-- A truth value. -/
  | boolean
  /-- A list of texts. -/
  | texts
  deriving DecidableEq, Repr

/-- The values of a kind. -/
abbrev FieldKind.Value : FieldKind → Type
  | .text => String
  | .unsigned64 => UInt64
  | .unsigned32 => UInt32
  | .signed64 => Int64
  | .boolean => Bool
  | .texts => List String

/-- Reads a value of a kind. -/
def FieldKind.read : (kind : FieldKind) → Reader kind.Value
  | .text => Reader.text
  | .unsigned64 => do
    return UInt64.ofNat (← Reader.integer 0 0xFFFFFFFFFFFFFFFF .unsigned64).toNat
  | .unsigned32 => do
    return UInt32.ofNat (← Reader.integer 0 0xFFFFFFFF .unsigned32).toNat
  | .signed64 => do
    return Int64.ofInt (← Reader.integer (-0x8000000000000000) 0x7FFFFFFFFFFFFFFF .signed64)
  | .boolean => Reader.boolean
  | .texts => Reader.texts

/-- Writes a value of a kind. -/
def FieldKind.write : (kind : FieldKind) → kind.Value → Bytes
  | .text, value => Writer.text value
  | .unsigned64, value => Writer.unsigned value.toNat
  | .unsigned32, value => Writer.unsigned value.toNat
  | .signed64, value => Writer.signed value.toInt
  | .boolean, value => Writer.boolean value
  | .texts, value => Writer.texts value

/-- A field of a record: its name, its kind, and the value it has when it is left out. -/
structure Field where
  name : String
  kind : FieldKind
  default? : Option kind.Value

/-- The shape of a record. -/
structure Shape where
  name : String
  fields : List Field

/-- One value for every field. -/
abbrev Values : List Field → Type
  | [] => Unit
  | field :: fields => field.kind.Value × Values fields

/-- What has been read so far for every field. -/
abbrev Slots : List Field → Type
  | [] => Unit
  | field :: fields => Option field.kind.Value × Slots fields

/-- Nothing read yet. -/
def Slots.empty : (fields : List Field) → Slots fields
  | [] => ()
  | _ :: fields => (none, Slots.empty fields)

/-- Reads the value of the field at `index`, unless that field has been read before. -/
def Slots.read : (fields : List Field) → (index : Nat) → Slots fields → Reader (Slots fields)
  | [], _, () => return ()
  | field :: _, 0, (slot, slots) =>
    match slot with
    | some _ => Reader.refuse (.duplicateField field.name)
    | none => do return (some (← field.kind.read), slots)
  | _ :: fields, index + 1, (slot, slots) => do
    return (slot, ← Slots.read fields index slots)

/-- The values of all fields, with defaults for those not read. -/
def Slots.complete : (fields : List Field) → Slots fields → Except Fault (Values fields)
  | [], () => .ok ()
  | field :: fields, (slot, slots) =>
    match slot <|> field.default? with
    | none => .error (.missingField field.name)
    | some value =>
      match Slots.complete fields slots with
      | .ok values => .ok (value, values)
      | .error fault => .error fault

namespace Reader

/-- The field that a key names; keys that name none give `none`. -/
def fieldIndex (fields : List Field) : Reader (Option Nat) := do
  match ← head with
  | .scalar (.unsigned number) => return if number < fields.length then some number else none
  | .text length | .binary length =>
    let name ← contents length
    return fields.findIdx? fun field => Utf8.encode field.name == name
  | other => reject other .fieldName

/-- How many containers may be open inside one another. -/
def depthLimit : Nat := 1023

/-- So many entries of a map, added to what has been read. -/
def entries (fields : List Field) : Nat → Slots fields → Reader (Slots fields)
  | 0, slots => return slots
  | count + 1, slots => do
    match ← fieldIndex fields with
    | some index =>
      let slots ← Slots.read fields index slots
      entries fields count slots
    | none =>
      skip (depthLimit - 1) 1
      entries fields count slots

/-- The values of `fields`, of which the first is number `index` of its record, from an array
with `left` elements left, and how many elements are left then. -/
def elements (shape : Shape) :
    (fields : List Field) → (index left : Nat) → Reader (Values fields × Nat)
  | [], _, left => return ((), left)
  | field :: fields, index, 0 =>
    match field.default? with
    | none => refuse (.missingElement index shape.name shape.fields.length)
    | some value => do
      let (values, left) ← elements shape fields (index + 1) 0
      return ((value, values), left)
  | field :: fields, index, left + 1 => do
    let value ← field.kind.read
    let (values, left) ← elements shape fields (index + 1) left
    return ((value, values), left)

/-- The values of a record from an array of `length` elements, none of which may be left. -/
def array (shape : Shape) (length : Nat) : Reader (Values shape.fields) := do
  let (values, left) ← elements shape shape.fields 0 length
  if left = 0 then return values
  else refuse (.excessElements (length - left))

/-- The values of a record. Octets count as an array of numbers. -/
def record (shape : Shape) : Reader (Values shape.fields) := do
  match ← head with
  | .map length =>
    let slots ← entries shape.fields length (Slots.empty shape.fields)
    match Slots.complete shape.fields slots with
    | .ok values => return values
    | .error fault => refuse fault
  | .array length => array shape length
  | .binary length =>
    let octets ← contents length
    within (elementsOfOctets octets) (array shape length)
  | other => reject other (.record shape.name)

end Reader

/-- Reads the record that octets begin with; what follows it does not matter. -/
def Shape.decode (shape : Shape) (bytes : Bytes) : Except Fault (Values shape.fields) :=
  match Reader.record shape bytes with
  | .ok (values, _) => .ok values
  | .error fault => .error fault

/-- The map entries of values, in field order. -/
def Values.write : (fields : List Field) → Values fields → Bytes
  | [], () => []
  | field :: fields, (value, values) =>
    Writer.text field.name ++ field.kind.write value ++ Values.write fields values

/-- Writes a record as a map. -/
def Shape.encode (shape : Shape) (values : Values shape.fields) : Bytes :=
  Writer.mapHead shape.fields.length ++ Values.write shape.fields values

end RemoteAgent.MessagePack
