/-!
# Byte strings and fixed-width numbers

A byte string is a list of octets. Numbers travel in a fixed width, least significant
octet first in frames and most significant octet first inside MessagePack.
`ofLittleEndian_littleEndian` and `ofBigEndian_bigEndian` say that a number that fits
its width reads back, and `littleEndian_ofLittleEndian` that every group of octets is
the writing of the number it holds.
-/

namespace RemoteAgent

/-- A byte string. -/
abbrev Bytes := List UInt8

namespace Bytes

/-- The first `count` octets and the rest, when there are that many. -/
def split (count : Nat) (bytes : Bytes) : Option (Bytes × Bytes) :=
  let head := bytes.take count
  if head.length = count then some (head, bytes.drop count) else none

/-- How many numbers fit a width. -/
def span : (width : Nat) → Nat
  | 0 => 1
  | width + 1 => 256 * span width

/-- A number in `width` octets, least significant first; higher digits are dropped. -/
def littleEndian : (width value : Nat) → Bytes
  | 0, _ => []
  | width + 1, value => UInt8.ofNat value :: littleEndian width (value / 256)

/-- The number that octets hold, least significant first. -/
def ofLittleEndian : Bytes → Nat
  | [] => 0
  | octet :: rest => octet.toNat + 256 * ofLittleEndian rest

/-- A number in `width` octets, most significant first. -/
def bigEndian (width value : Nat) : Bytes := (littleEndian width value).reverse

/-- The number that octets hold, most significant first. -/
def ofBigEndian (bytes : Bytes) : Nat := ofLittleEndian bytes.reverse

theorem split_eq_some {count : Nat} {bytes head rest : Bytes}
    (h : split count bytes = some (head, rest)) :
    bytes = head ++ rest ∧ head.length = count := by
  simp only [split] at h
  split at h
  · next enough =>
    simp only [Option.some.injEq, Prod.mk.injEq] at h
    obtain ⟨rfl, rfl⟩ := h
    exact ⟨(List.take_append_drop count bytes).symm, enough⟩
  · exact absurd h (by simp)

theorem split_append {count : Nat} {head rest : Bytes} (exact_length : head.length = count) :
    split count (head ++ rest) = some (head, rest) := by
  subst exact_length
  simp [split]

@[simp] theorem length_littleEndian (width value : Nat) :
    (littleEndian width value).length = width := by
  induction width generalizing value with
  | zero => rfl
  | succ width inductionHypothesis => simp [littleEndian, inductionHypothesis]

@[simp] theorem length_bigEndian (width value : Nat) :
    (bigEndian width value).length = width := by
  simp [bigEndian]

theorem ofLittleEndian_lt (bytes : Bytes) : ofLittleEndian bytes < span bytes.length := by
  induction bytes with
  | nil => simp [ofLittleEndian, span]
  | cons octet rest inductionHypothesis =>
    have bound : octet.toNat < 256 := octet.toNat_lt
    simp only [ofLittleEndian, List.length_cons, span]
    omega

/-- A number that fits its width reads back. -/
theorem ofLittleEndian_littleEndian {width value : Nat} (fits : value < span width) :
    ofLittleEndian (littleEndian width value) = value := by
  induction width generalizing value with
  | zero =>
    simp only [span] at fits
    simp only [littleEndian, ofLittleEndian]
    omega
  | succ width inductionHypothesis =>
    have quotient : value / 256 < span width := Nat.div_lt_of_lt_mul fits
    simp only [littleEndian, ofLittleEndian, inductionHypothesis quotient, UInt8.toNat_ofNat']
    omega

/-- Octets are the writing of the number they hold. -/
theorem littleEndian_ofLittleEndian (bytes : Bytes) :
    littleEndian bytes.length (ofLittleEndian bytes) = bytes := by
  induction bytes with
  | nil => rfl
  | cons octet rest inductionHypothesis =>
    have bound : octet.toNat < 256 := octet.toNat_lt
    have low : UInt8.ofNat (octet.toNat + 256 * ofLittleEndian rest) = octet := by
      apply UInt8.toNat_inj.mp
      simp only [UInt8.toNat_ofNat']
      omega
    have high : (octet.toNat + 256 * ofLittleEndian rest) / 256 = ofLittleEndian rest := by
      omega
    simp only [ofLittleEndian, List.length_cons, littleEndian, low, high, inductionHypothesis]

/-- A number that fits its width reads back. -/
theorem ofBigEndian_bigEndian {width value : Nat} (fits : value < span width) :
    ofBigEndian (bigEndian width value) = value := by
  simp [ofBigEndian, bigEndian, ofLittleEndian_littleEndian fits]

end Bytes

end RemoteAgent
