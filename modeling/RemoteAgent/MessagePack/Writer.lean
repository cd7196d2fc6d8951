import RemoteAgent.MessagePack.Marker
import RemoteAgent.Text.Utf8

/-!
# Writing MessagePack values

Every value is written in its shortest form. A number that is not negative is written
without a sign. No head tells a length of more than four octets (`told`).
-/

namespace RemoteAgent.MessagePack.Writer

/-- A number without a sign, of at most 64 bits. -/
def unsigned (value : Nat) : Bytes :=
  if value < 0x80 then [(Marker.fixPositive value).octet]
  else if value < 0x100 then (Marker.unsigned .one).octet :: Bytes.bigEndian 1 value
  else if value < 0x10000 then (Marker.unsigned .two).octet :: Bytes.bigEndian 2 value
  else if value < 0x100000000 then (Marker.unsigned .four).octet :: Bytes.bigEndian 4 value
  else (Marker.unsigned .eight).octet :: Bytes.bigEndian 8 value

/-- A number with a sign, of at most 64 bits. -/
def signed (value : Int) : Bytes :=
  if 0 ≤ value then unsigned value.toNat
  else if -32 ≤ value then [(Marker.fixNegative (value + 32).toNat).octet]
  else if -0x80 ≤ value then
    (Marker.signed .one).octet :: Bytes.bigEndian 1 (value + 0x100).toNat
  else if -0x8000 ≤ value then
    (Marker.signed .two).octet :: Bytes.bigEndian 2 (value + 0x10000).toNat
  else if -0x80000000 ≤ value then
    (Marker.signed .four).octet :: Bytes.bigEndian 4 (value + 0x100000000).toNat
  else (Marker.signed .eight).octet :: Bytes.bigEndian 8 (value + 0x10000000000000000).toNat

/-- A truth value. -/
def boolean (value : Bool) : Bytes := [(Marker.boolean value).octet]

/-- What a head tells of the length of a text or a list. Four octets hold it, and higher digits are
dropped. -/
def told (length : Nat) : Nat := length % 0x100000000

/-- A length that four octets hold is told as it is. -/
theorem told_of_lt {length : Nat} (fits : length < Bytes.span 4) : told length = length :=
  Nat.mod_eq_of_lt fits

/-- The head of a text of `length` octets. -/
def textHead (length : Nat) : Bytes :=
  if length < 32 then [(Marker.fixText length).octet]
  else if length < 0x100 then (Marker.text .one).octet :: Bytes.bigEndian 1 length
  else if length < 0x10000 then (Marker.text .two).octet :: Bytes.bigEndian 2 length
  else (Marker.text .four).octet :: Bytes.bigEndian 4 length

/-- The head of an array of `length` elements. -/
def arrayHead (length : Nat) : Bytes :=
  if length < 16 then [(Marker.fixArray length).octet]
  else if length < 0x10000 then (Marker.array .two).octet :: Bytes.bigEndian 2 length
  else (Marker.array .four).octet :: Bytes.bigEndian 4 length

/-- The head of a map of `length` entries. -/
def mapHead (length : Nat) : Bytes :=
  if length < 16 then [(Marker.fixMap length).octet]
  else if length < 0x10000 then (Marker.map .two).octet :: Bytes.bigEndian 2 length
  else (Marker.map .four).octet :: Bytes.bigEndian 4 length

/-- A text. -/
def text (value : String) : Bytes :=
  let octets := Utf8.encode value
  textHead (told octets.length) ++ octets

/-- A list of texts. -/
def texts (values : List String) : Bytes :=
  arrayHead (told values.length) ++ values.flatMap text

end RemoteAgent.MessagePack.Writer
