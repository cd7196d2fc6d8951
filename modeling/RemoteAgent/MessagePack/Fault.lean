import RemoteAgent.Decimal.Shortest
import RemoteAgent.MessagePack.Marker
import RemoteAgent.Text.Quoted
import RemoteAgent.Text.Utf8

/-!
# Why octets are no record

Each way in which MessagePack octets can fail to hold an expected record, and its wording.
-/

namespace RemoteAgent.MessagePack

/-- What stands where something else was expected. -/
inductive Found where
  /-- The null value. -/
  | unit
  /-- A truth value. -/
  | boolean (value : Bool)
  /-- A whole number. -/
  | integer (value : Int)
  /-- A floating-point number. -/
  | float (value : Decimal.Reading)
  /-- A text. -/
  | text (value : String)
  /-- Octets. -/
  | octets
  /-- An array. -/
  | sequence
  /-- A map. -/
  | map
  /-- An application value. -/
  | extension
  deriving DecidableEq, Repr

/-- The words for what was found. -/
def Found.words : Found → String
  | .unit => "unit value"
  | .boolean value => "boolean `" ++ toString value ++ "`"
  | .integer value => "integer `" ++ toString value ++ "`"
  | .float value => "floating point `" ++ value.text ++ "`"
  | .text value => "string " ++ Text.quoted value
  | .octets => "byte array"
  | .sequence => "sequence"
  | .map => "map"
  | .extension => "newtype struct"

/-- What was expected. -/
inductive Expected where
  /-- A text. -/
  | text
  /-- A number without a sign of 64 bits. -/
  | unsigned64
  /-- A number without a sign of 32 bits. -/
  | unsigned32
  /-- A number with a sign of 64 bits. -/
  | signed64
  /-- A truth value. -/
  | boolean
  /-- A list. -/
  | sequence
  /-- The name or the number of a field. -/
  | fieldName
  /-- A record of this name. -/
  | record (name : String)
  deriving DecidableEq, Repr

/-- The words for what was expected. -/
def Expected.words : Expected → String
  | .text => "a string"
  | .unsigned64 => "u64"
  | .unsigned32 => "u32"
  | .signed64 => "i64"
  | .boolean => "a boolean"
  | .sequence => "a sequence"
  | .fieldName => "field identifier"
  | .record name => "struct " ++ name

/-- Why octets hold no expected record. -/
inductive Fault where
  /-- The octets end where a value should begin. -/
  | endAtMarker
  /-- The octets end inside a number or a length. -/
  | endInNumber
  /-- The octets end inside the contents of a text, of octets or of an application value. -/
  | endInContents
  /-- A marker that begins no value of the expected kind. -/
  | wrongMarker (marker : Marker)
  /-- A text that is not UTF-8. -/
  | badText (fault : Utf8.Fault)
  /-- A value of another kind. -/
  | invalidType (found : Found) (expected : Expected)
  /-- A value of the right kind outside its range. -/
  | invalidValue (found : Found) (expected : Expected)
  /-- An array that ends before the field at `index`, in a record of `fields` fields. -/
  | missingElement (index : Nat) (record : String) (fields : Nat)
  /-- A map without a required field. -/
  | missingField (name : String)
  /-- A map that names a field twice. -/
  | duplicateField (name : String)
  /-- An array with more elements than the record has fields. -/
  | excessElements (fields : Nat)
  /-- Containers nested too deep. -/
  | tooDeep
  deriving DecidableEq, Repr

/-- The wording of a fault. -/
def Fault.message : Fault → String
  | .endAtMarker => "IO error while reading marker: failed to fill whole buffer"
  | .endInNumber => "IO error while reading data: failed to fill whole buffer"
  | .endInContents => "IO error while reading data: unexpected end of file"
  | .wrongMarker marker => "wrong msgpack marker " ++ marker.name
  | .badText fault => "string found to be invalid utf8: " ++ fault.message
  | .invalidType found expected =>
    "invalid type: " ++ found.words ++ ", expected " ++ expected.words
  | .invalidValue found expected =>
    "invalid value: " ++ found.words ++ ", expected " ++ expected.words
  | .missingElement index record fields =>
    "invalid length " ++ toString index ++ ", expected struct " ++ record ++ " with " ++
      toString fields ++ " elements"
  | .missingField name => "missing field `" ++ name ++ "`"
  | .duplicateField name => "duplicate field `" ++ name ++ "`"
  | .excessElements fields => "array had incorrect length, expected " ++ toString fields
  | .tooDeep => "depth limit exceeded"

end RemoteAgent.MessagePack
