import RemoteAgent.Text.Utf8.RoundTrip
import RemoteAgent.Url.Percent

/-!
# Characters in escaped texts

An escaped text shows percent signs and digits of escapes, and beside them only characters of the text
that are not escaped themselves. So a character that stands in no escape (`IsApart`) is missing from
an escaped text if it is escaped, or if the text does not have it.
-/

namespace RemoteAgent.Url.Percent

/-- A character that stands in no escape. -/
def IsApart (c : Char) : Prop := c ≠ '%' ∧ ∀ digit : Fin 16, hexDigit digit ≠ c

instance (c : Char) : Decidable (IsApart c) :=
  inferInstanceAs (Decidable (c ≠ '%' ∧ ∀ digit : Fin 16, hexDigit digit ≠ c))

variable {escapes : EscapeSet} {c : Char}

theorem notMem_escape (apart : IsApart c) (octet : UInt8) : c ∉ escape octet := by
  have bound : octet.toNat < 256 := octet.toNat_lt
  simp only [escape, List.mem_cons, List.not_mem_nil, or_false, not_or]
  exact ⟨apart.1, Ne.symm (apart.2 ⟨octet.toNat / 16, by omega⟩),
    Ne.symm (apart.2 ⟨octet.toNat % 16, by omega⟩)⟩

/-- A character that is apart from escapes stands for an octet that is not escaped. -/
theorem octet_of_mem_encode (apart : IsApart c) {text : String}
    (member : c ∈ (encode escapes text).toList) :
    ∃ octet ∈ Utf8.encode text, escapes octet = false ∧ octet.toNat = c.toNat := by
  rw [encode, String.toList_ofList, encodeOctets, List.mem_flatMap] at member
  obtain ⟨octet, own, member⟩ := member
  split at member
  · exact absurd member (notMem_escape apart octet)
  · next plain =>
    have code := toNat_ofNat octet
    rw [← List.mem_singleton.mp member] at code
    exact ⟨octet, own, by simpa using plain, code.symm⟩

/-- A character is not shown where it is escaped. -/
theorem notMem_encode_of_escaped (apart : IsApart c)
    (escaped : escapes (UInt8.ofNat c.toNat) = true) (text : String) :
    c ∉ (encode escapes text).toList := by
  intro member
  obtain ⟨octet, _, plain, code⟩ := octet_of_mem_encode apart member
  rw [← code, UInt8.ofNat_toNat, plain] at escaped
  cases escaped

/-- An octet below 0x80 is a whole character. -/
theorem toNat_eq_of_mem_utf8EncodeChar {octet : UInt8} (small : octet.toNat < 0x80)
    (member : octet ∈ String.utf8EncodeChar c) : octet.toNat = c.toNat := by
  unfold String.utf8EncodeChar at member
  simp only at member
  split at member
  · next narrow =>
    rw [List.mem_singleton.mp member]
    exact UInt8.toNat_ofNat_of_lt' (by change c.val.toNat < 256; omega)
  -- The octets of a wider character are all 0x80 or more.
  · split at member
    · simp only [List.mem_cons, List.not_mem_nil, or_false] at member
      rcases member with rfl | rfl <;> simp only [UInt8.toNat_ofNat'] at small <;> omega
    · split at member
      · simp only [List.mem_cons, List.not_mem_nil, or_false] at member
        rcases member with rfl | rfl | rfl <;> simp only [UInt8.toNat_ofNat'] at small <;> omega
      · simp only [List.mem_cons, List.not_mem_nil, or_false] at member
        rcases member with rfl | rfl | rfl | rfl <;>
          simp only [UInt8.toNat_ofNat'] at small <;> omega

/-- A character that a text does not have is not in its escaped form. -/
theorem notMem_encode (apart : IsApart c) (small : c.toNat < 0x80) {text : String}
    (missing : c ∉ text.toList) : c ∉ (encode escapes text).toList := by
  intro member
  obtain ⟨octet, own, _, code⟩ := octet_of_mem_encode apart member
  obtain ⟨other, inside, member⟩ := List.mem_flatMap.mp own
  have same := toNat_eq_of_mem_utf8EncodeChar (by omega) member
  exact missing (Char.toNat_inj.mp (code.symm.trans same) ▸ inside)

/-- Every octet shows. -/
theorem encode_eq_empty {text : String} (empty : encode escapes text = "") : text = "" := by
  refine Utf8.encode_injective (List.eq_nil_iff_forall_not_mem.mpr fun octet member => ?_)
  have none : encodeOctets escapes (Utf8.encode text) = [] := by
    simpa [encode] using empty
  have shown := List.flatMap_eq_nil_iff.mp none octet member
  split at shown <;> cases shown

end RemoteAgent.Url.Percent
