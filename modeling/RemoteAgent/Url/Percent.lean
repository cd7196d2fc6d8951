import RemoteAgent.Text.Utf8

/-!
# Percent encoding

Octets that may not stand for themselves are written as a percent sign and two upper-case
hexadecimal digits. Which octets these are depends on the part of the URL.
`decode_encode` says that escaping is undone by `decode` for every set that escapes the
percent sign and everything beyond ASCII.
-/

namespace RemoteAgent.Url.Percent

/-- Which octets are escaped. -/
abbrev EscapeSet := UInt8 → Bool

/-- Octets that no part shows: controls and everything beyond ASCII. -/
def controls : EscapeSet := fun octet => octet.toNat < 0x20 || 0x7E < octet.toNat

/-- Octets escaped in a path: also the space and the characters `"#<>?` with the backquote
and the braces. -/
def path : EscapeSet := fun octet =>
  controls octet || [0x20, 0x22, 0x23, 0x3C, 0x3E, 0x3F, 0x60, 0x7B, 0x7D].contains octet.toNat

/-- Octets escaped in a segment that is added to a path: also the slash, the backslash and
the percent sign. -/
def segment : EscapeSet := fun octet => path octet || [0x25, 0x2F, 0x5C].contains octet.toNat

/-- Octets escaped in a user name and in a password. -/
def userinfo : EscapeSet := fun octet =>
  path octet ||
    [0x2F, 0x3A, 0x3B, 0x3D, 0x40, 0x5B, 0x5C, 0x5D, 0x5E, 0x7C].contains octet.toNat

/-- One upper-case hexadecimal digit. -/
def hexDigit (digit : Nat) : Char :=
  if digit < 10 then Char.ofNat (0x30 + digit) else Char.ofNat (0x41 + digit - 10)

/-- The value of a hexadecimal digit in either case. -/
def hexValue? (octet : UInt8) : Option Nat :=
  let code := octet.toNat
  if 0x30 ≤ code && code ≤ 0x39 then some (code - 0x30)
  else if 0x41 ≤ code && code ≤ 0x46 then some (code - 0x41 + 10)
  else if 0x61 ≤ code && code ≤ 0x66 then some (code - 0x61 + 10)
  else none

/-- The three characters of an escaped octet. -/
def escape (octet : UInt8) : List Char :=
  ['%', hexDigit (octet.toNat / 16), hexDigit (octet.toNat % 16)]

/-- Octets as characters, escaped where the set says so. -/
def encodeOctets (escapes : EscapeSet) (octets : Bytes) : List Char :=
  octets.flatMap fun octet =>
    if escapes octet then escape octet else [Char.ofNat octet.toNat]

/-- A text with the octets of the set escaped. -/
def encode (escapes : EscapeSet) (text : String) : String :=
  String.ofList (encodeOctets escapes (Utf8.encode text))

/-- The octets behind those already read in reverse order, with escapes undone. A percent
sign without two digits behind it stands for itself. -/
def decodeAfter (read : Bytes) : Bytes → Bytes
  | [] => read.reverse
  | 0x25 :: high :: low :: rest =>
    match hexValue? high, hexValue? low with
    | some highValue, some lowValue =>
      decodeAfter (UInt8.ofNat (16 * highValue + lowValue) :: read) rest
    | _, _ => decodeAfter (0x25 :: read) (high :: low :: rest)
  | octet :: rest => decodeAfter (octet :: read) rest
termination_by octets => octets.length

/-- Octets with escapes undone. -/
def decode (octets : Bytes) : Bytes := decodeAfter [] octets

/-! ## Reading undoes escaping -/

theorem hexValue?_hexDigit {digit : Nat} (small : digit < 16) :
    hexValue? (UInt8.ofNat (hexDigit digit).toNat) = some digit := by
  have all : ∀ d : Fin 16, hexValue? (UInt8.ofNat (hexDigit d.val).toNat) = some d.val := by decide
  exact all ⟨digit, small⟩

theorem toNat_hexDigit_lt {digit : Nat} (small : digit < 16) : (hexDigit digit).toNat < 0x80 := by
  have all : ∀ d : Fin 16, (hexDigit d.val).toNat < 0x80 := by decide
  exact all ⟨digit, small⟩

/-- An octet other than the percent sign stands for itself. -/
theorem decodeAfter_plain {octet : UInt8} (plain : octet ≠ 0x25) (read rest : Bytes) :
    decodeAfter read (octet :: rest) = decodeAfter (octet :: read) rest := by
  rw [decodeAfter.eq_def]
  split
  · next nothing => cases nothing
  · next same => cases same; exact absurd rfl plain
  · next same => cases same; rfl

/-- An escape stands for its octet. -/
theorem decodeAfter_escaped (octet : UInt8) (read rest : Bytes) :
    decodeAfter read (0x25 :: UInt8.ofNat (hexDigit (octet.toNat / 16)).toNat ::
      UInt8.ofNat (hexDigit (octet.toNat % 16)).toNat :: rest) =
        decodeAfter (octet :: read) rest := by
  have bound : octet.toNat < 256 := octet.toNat_lt
  rw [decodeAfter]
  rw [hexValue?_hexDigit (by omega), hexValue?_hexDigit (by omega)]
  have whole : 16 * (octet.toNat / 16) + octet.toNat % 16 = octet.toNat := by omega
  simp only [whole, UInt8.ofNat_toNat]

theorem utf8EncodeChar_of_small {c : Char} (small : c.toNat < 0x80) :
    String.utf8EncodeChar c = [UInt8.ofNat c.toNat] := by
  have code : c.val.toNat ≤ 0x7f := Nat.le_of_lt_succ small
  simp only [String.utf8EncodeChar, code, if_true]
  rfl

/-- Every octet is the code of a character. -/
theorem toNat_ofNat (octet : UInt8) : (Char.ofNat octet.toNat).toNat = octet.toNat := by
  have bound : octet.toNat < 256 := octet.toNat_lt
  have isValid : octet.toNat.isValidChar := Or.inl (by omega)
  rw [Char.ofNat, dif_pos isValid]
  rfl

theorem utf8EncodeChar_ofNat {octet : UInt8} (small : octet.toNat < 0x80) :
    String.utf8EncodeChar (Char.ofNat octet.toNat) = [octet] := by
  rw [utf8EncodeChar_of_small (by rwa [toNat_ofNat]), toNat_ofNat, UInt8.ofNat_toNat]

/-- The octets of an escape. -/
theorem flatMap_escape (octet : UInt8) : (escape octet).flatMap String.utf8EncodeChar =
    [0x25, UInt8.ofNat (hexDigit (octet.toNat / 16)).toNat,
      UInt8.ofNat (hexDigit (octet.toNat % 16)).toNat] := by
  have bound : octet.toNat < 256 := octet.toNat_lt
  simp only [escape, List.flatMap_cons, List.flatMap_nil, List.append_nil,
    utf8EncodeChar_of_small (show ('%' : Char).toNat < 0x80 by decide),
    utf8EncodeChar_of_small (toNat_hexDigit_lt (show octet.toNat / 16 < 16 by omega)),
    utf8EncodeChar_of_small (toNat_hexDigit_lt (show octet.toNat % 16 < 16 by omega))]
  rfl

/-- Octets that are escaped are read back, if the percent sign and what is not ASCII are escaped. -/
theorem decodeAfter_encodeOctets {escapes : EscapeSet} (percent : escapes 0x25 = true)
    (wide : ∀ octet : UInt8, 0x7F < octet.toNat → escapes octet = true) (read octets : Bytes) :
    decodeAfter read ((encodeOctets escapes octets).flatMap String.utf8EncodeChar) =
      read.reverse ++ octets := by
  induction octets generalizing read with
  | nil => simp [encodeOctets, decodeAfter]
  | cons octet octets inductionHypothesis =>
    rw [encodeOctets, List.flatMap_cons, List.flatMap_append, ← encodeOctets]
    by_cases escaped : escapes octet = true
    · rw [if_pos escaped, flatMap_escape, List.cons_append, List.cons_append, List.cons_append,
        List.nil_append, decodeAfter_escaped, inductionHypothesis]
      simp
    · have small : octet.toNat < 0x80 := Nat.lt_of_not_le fun large =>
        escaped (wide octet (by omega))
      have plain : octet ≠ 0x25 := fun same => escaped (same ▸ percent)
      rw [if_neg escaped, List.flatMap_singleton, utf8EncodeChar_ofNat small, List.cons_append,
        List.nil_append, decodeAfter_plain plain, inductionHypothesis]
      simp

/-- A text comes back from its escaped form. -/
theorem decode_encode {escapes : EscapeSet} (percent : escapes 0x25 = true)
    (wide : ∀ octet : UInt8, 0x7F < octet.toNat → escapes octet = true) (text : String) :
    decode (Utf8.encode (encode escapes text)) = Utf8.encode text := by
  rw [decode, encode, Utf8.encode, String.toList_ofList, decodeAfter_encodeOctets percent wide]
  rfl

end RemoteAgent.Url.Percent
