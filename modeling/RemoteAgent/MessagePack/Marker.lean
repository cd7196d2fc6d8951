/-!
# MessagePack markers

Every MessagePack value begins with one octet, its marker, which names the kind of the
value and either holds its number or length or says in how many octets that follows.
-/

namespace RemoteAgent.MessagePack

/-- The width of a number that follows a marker. -/
inductive Width where
  /-- One octet. -/
  | one
  /-- Two octets. -/
  | two
  /-- Four octets. -/
  | four
  /-- Eight octets. -/
  | eight
  deriving DecidableEq, Repr

/-- How many octets a width takes. -/
def Width.octets : Width → Nat
  | .one => 1
  | .two => 2
  | .four => 4
  | .eight => 8

/-- How many bits a width holds. -/
def Width.bits (width : Width) : Nat := 8 * width.octets

/-- The kind of a value, as its first octet tells it. -/
inductive Marker where
  /-- A number from 0 to 127. -/
  | fixPositive (value : Nat)
  /-- A number from -32 to -1, told by its distance from -32. -/
  | fixNegative (distance : Nat)
  /-- The null value. -/
  | null
  /-- The octet that begins no value. -/
  | reserved
  /-- A truth value. -/
  | boolean (value : Bool)
  /-- A number without a sign, which follows. -/
  | unsigned (width : Width)
  /-- A number in two's complement, which follows. -/
  | signed (width : Width)
  /-- A 32-bit floating-point number, which follows. -/
  | float32
  /-- A 64-bit floating-point number, which follows. -/
  | float64
  /-- A text of a length below 32. -/
  | fixText (length : Nat)
  /-- A text whose length follows. -/
  | text (width : Width)
  /-- Octets whose count follows. -/
  | binary (width : Width)
  /-- An array of a length below 16. -/
  | fixArray (length : Nat)
  /-- An array whose length follows. -/
  | array (width : Width)
  /-- A map with fewer than 16 entries. -/
  | fixMap (length : Nat)
  /-- A map whose entry count follows. -/
  | map (width : Width)
  /-- An application value of `2 ^ power` octets. -/
  | fixExtension (power : Nat)
  /-- An application value whose length follows. -/
  | extension (width : Width)
  deriving DecidableEq, Repr

/-- The marker an octet stands for. -/
def Marker.ofOctet (octet : UInt8) : Marker :=
  let code := octet.toNat
  if code < 0x80 then .fixPositive code
  else if code < 0x90 then .fixMap (code - 0x80)
  else if code < 0xA0 then .fixArray (code - 0x90)
  else if code < 0xC0 then .fixText (code - 0xA0)
  else if 0xE0 ≤ code then .fixNegative (code - 0xE0)
  else match code with
    | 0xC0 => .null
    | 0xC2 => .boolean false
    | 0xC3 => .boolean true
    | 0xC4 => .binary .one
    | 0xC5 => .binary .two
    | 0xC6 => .binary .four
    | 0xC7 => .extension .one
    | 0xC8 => .extension .two
    | 0xC9 => .extension .four
    | 0xCA => .float32
    | 0xCB => .float64
    | 0xCC => .unsigned .one
    | 0xCD => .unsigned .two
    | 0xCE => .unsigned .four
    | 0xCF => .unsigned .eight
    | 0xD0 => .signed .one
    | 0xD1 => .signed .two
    | 0xD2 => .signed .four
    | 0xD3 => .signed .eight
    | 0xD4 => .fixExtension 0
    | 0xD5 => .fixExtension 1
    | 0xD6 => .fixExtension 2
    | 0xD7 => .fixExtension 3
    | 0xD8 => .fixExtension 4
    | 0xD9 => .text .one
    | 0xDA => .text .two
    | 0xDB => .text .four
    | 0xDC => .array .two
    | 0xDD => .array .four
    | 0xDE => .map .two
    | 0xDF => .map .four
    | _ => .reserved

/-- The octet of a marker. Widths that a kind does not have give the reserved octet. -/
def Marker.octet : Marker → UInt8
  | .fixPositive value => UInt8.ofNat value
  | .fixNegative distance => UInt8.ofNat (0xE0 + distance)
  | .null => 0xC0
  | .reserved => 0xC1
  | .boolean false => 0xC2
  | .boolean true => 0xC3
  | .unsigned .one => 0xCC
  | .unsigned .two => 0xCD
  | .unsigned .four => 0xCE
  | .unsigned .eight => 0xCF
  | .signed .one => 0xD0
  | .signed .two => 0xD1
  | .signed .four => 0xD2
  | .signed .eight => 0xD3
  | .float32 => 0xCA
  | .float64 => 0xCB
  | .fixText length => UInt8.ofNat (0xA0 + length)
  | .text .one => 0xD9
  | .text .two => 0xDA
  | .text .four => 0xDB
  | .binary .one => 0xC4
  | .binary .two => 0xC5
  | .binary .four => 0xC6
  | .fixArray length => UInt8.ofNat (0x90 + length)
  | .array .two => 0xDC
  | .array .four => 0xDD
  | .fixMap length => UInt8.ofNat (0x80 + length)
  | .map .two => 0xDE
  | .map .four => 0xDF
  | .fixExtension power => UInt8.ofNat (0xD4 + power)
  | .extension .one => 0xC7
  | .extension .two => 0xC8
  | .extension .four => 0xC9
  | .text .eight | .binary .eight | .array .one | .array .eight | .map .one | .map .eight
  | .extension .eight => 0xC1

/-- The name that faults give a marker. -/
def Marker.name : Marker → String
  | .fixPositive value => "FixPos(" ++ toString value ++ ")"
  | .fixNegative distance => "FixNeg(" ++ toString ((distance : Int) - 32) ++ ")"
  | .null => "Null"
  | .reserved => "Reserved"
  | .boolean false => "False"
  | .boolean true => "True"
  | .unsigned width => "U" ++ toString width.bits
  | .signed width => "I" ++ toString width.bits
  | .float32 => "F32"
  | .float64 => "F64"
  | .fixText length => "FixStr(" ++ toString length ++ ")"
  | .text width => "Str" ++ toString width.bits
  | .binary width => "Bin" ++ toString width.bits
  | .fixArray length => "FixArray(" ++ toString length ++ ")"
  | .array width => "Array" ++ toString width.bits
  | .fixMap length => "FixMap(" ++ toString length ++ ")"
  | .map width => "Map" ++ toString width.bits
  | .fixExtension power => "FixExt" ++ toString (Nat.pow 2 power)
  | .extension width => "Ext" ++ toString width.bits

end RemoteAgent.MessagePack
