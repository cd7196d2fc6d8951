import RemoteAgent.Url.Percent

/-!
# Form encoding

A query is a list of names with values. Letters, digits and the characters `*-._` stand
for themselves, a space becomes a plus sign, every other octet is escaped. Reading undoes
this.
-/

namespace RemoteAgent.Url.Form

/-- Octets that stand for themselves. -/
def isPlain (octet : UInt8) : Bool :=
  let code := octet.toNat
  (0x30 ≤ code && code ≤ 0x39) || (0x41 ≤ code && code ≤ 0x5A) || (0x61 ≤ code && code ≤ 0x7A) ||
    [0x2A, 0x2D, 0x2E, 0x5F].contains code

/-- The characters of one octet. -/
def encodeOctet (octet : UInt8) : List Char :=
  if isPlain octet then [Char.ofNat octet.toNat]
  else if octet = 0x20 then ['+']
  else Percent.escape octet

/-- A name or a value. -/
def encodePart (text : String) : List Char := (Utf8.encode text).flatMap encodeOctet

/-- A name with its value. -/
def encodePair (pair : String × String) : List Char :=
  encodePart pair.1 ++ '=' :: encodePart pair.2

/-- A query. -/
def encode (pairs : List (String × String)) : String :=
  String.ofList (['&'].intercalate (pairs.map encodePair))

/-- The name or the value that characters stand for. -/
def decodePart (chars : List Char) : String :=
  let octets := Utf8.encode (String.ofList chars)
  Utf8.decodeLossy (Percent.decode (octets.map fun octet => if octet = 0x2B then 0x20 else octet))

/-- The pair that characters stand for: an equals sign ends the name. -/
def decodePair (chars : List Char) : String × String :=
  (decodePart (chars.takeWhile (· != '=')), decodePart ((chars.dropWhile (· != '=')).drop 1))

/-- The pairs of a query; empty parts hold none. -/
def decode (query : String) : List (String × String) :=
  ((query.toList.splitOn '&').filter (!·.isEmpty)).map decodePair

end RemoteAgent.Url.Form
