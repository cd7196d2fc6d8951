import RemoteAgent.Proofs.Url.Escapes
import RemoteAgent.Url.Form

/-!
# Reading forms

A form is escaped octets with plus signs for spaces, so a name or a value comes back from its written
form (`decodePart_encodePart`). Written names and values have neither of the separators, and so the
pairs of a form come back one by one, whatever characters they have (`decode_encode`).
-/

namespace RemoteAgent.Url.Form

/-! ## Names and values -/

/-- A space in the place of a plus sign. -/
def spaced (octet : UInt8) : UInt8 := if octet = 0x2B then 0x20 else octet

/-- The octets that a form shows as escapes. -/
def escapes : Percent.EscapeSet := fun octet => !isPlain octet && octet != 0x20

theorem lt_of_isPlain {octet : UInt8} (plain : isPlain octet = true) : octet.toNat < 0x80 := by
  simp only [isPlain, Bool.or_eq_true, Bool.and_eq_true, decide_eq_true_eq, List.contains_eq_mem,
    List.mem_cons, List.not_mem_nil, or_false] at plain
  omega

/-- The digits of an escape are no plus signs. -/
theorem spaced_hexDigit {digit : Nat} (small : digit < 16) :
    spaced (UInt8.ofNat (Percent.hexDigit digit).toNat) =
      UInt8.ofNat (Percent.hexDigit digit).toNat := by
  have all : ∀ d : Fin 16, spaced (UInt8.ofNat (Percent.hexDigit d.val).toNat) =
    UInt8.ofNat (Percent.hexDigit d.val).toNat := by decide
  exact all ⟨digit, small⟩

theorem map_spaced_encodeOctet (octet : UInt8) :
    ((encodeOctet octet).flatMap String.utf8EncodeChar).map spaced =
      (if escapes octet then Percent.escape octet else [Char.ofNat octet.toNat]).flatMap
        String.utf8EncodeChar := by
  have bound : octet.toNat < 256 := octet.toNat_lt
  cases plain : isPlain octet with
  | true =>
    have apart : octet ≠ 0x2B := by
      rintro rfl
      revert plain
      decide
    simp [encodeOctet, escapes, plain, spaced, apart,
      Percent.utf8EncodeChar_ofNat (lt_of_isPlain plain)]
  | false =>
    by_cases space : octet = 0x20
    · subst space
      decide
    · simp [encodeOctet, escapes, plain, space, Percent.flatMap_escape,
        spaced_hexDigit (show octet.toNat / 16 < 16 by omega),
        spaced_hexDigit (show octet.toNat % 16 < 16 by omega)]
      decide

theorem map_spaced_encodePart (octets : Bytes) :
    ((octets.flatMap encodeOctet).flatMap String.utf8EncodeChar).map spaced =
      (Percent.encodeOctets escapes octets).flatMap String.utf8EncodeChar := by
  induction octets with
  | nil => rfl
  | cons octet octets inductionHypothesis =>
    rw [Percent.encodeOctets, List.flatMap_cons, List.flatMap_cons, List.flatMap_append,
      List.flatMap_append, List.map_append, map_spaced_encodeOctet, inductionHypothesis,
      Percent.encodeOctets]

/-- A name or a value comes back from its written form. -/
theorem decodePart_encodePart (text : String) : decodePart (encodePart text) = text := by
  have percent : escapes 0x25 = true := by decide
  have wide : ∀ octet : UInt8, 0x7F < octet.toNat → escapes octet = true := by
    intro octet large
    have shown : isPlain octet = false := by
      cases plain : isPlain octet with
      | false => rfl
      | true => exact absurd (lt_of_isPlain plain) (by omega)
    have apart : octet ≠ 0x20 := by
      rintro rfl
      exact absurd large (by decide)
    simp [escapes, shown, apart]
  have octets : (Utf8.encode (String.ofList (encodePart text))).map spaced =
      Utf8.encode (Percent.encode escapes text) := by
    rw [Utf8.encode, String.toList_ofList, encodePart, map_spaced_encodePart, Percent.encode]
    simp only [Utf8.encode, String.toList_ofList]
  change Utf8.decodeLossy (Percent.decode ((Utf8.encode _).map spaced)) = text
  rw [octets, Percent.decode_encode percent wide, Utf8.decodeLossy_encode]

/-! ## Separators -/

/-- A character that has to be escaped is in no written name and no written value. -/
theorem notMem_encodePart {c : Char} (apart : Percent.IsApart c) (plus : c ≠ '+')
    (escaped : isPlain (UInt8.ofNat c.toNat) = false) (text : String) : c ∉ encodePart text := by
  intro member
  obtain ⟨octet, _, member⟩ := List.mem_flatMap.mp member
  have bound : octet.toNat < 256 := octet.toNat_lt
  unfold encodeOctet at member
  split at member
  · next plain =>
    rw [List.mem_singleton.mp member, Percent.toNat_ofNat, UInt8.ofNat_toNat, plain] at escaped
    cases escaped
  · split at member
    · exact plus (List.mem_singleton.mp member)
    · exact Percent.notMem_escape apart octet member

/-- A separator does not occur in a written pair. -/
theorem notMem_encodePair {c : Char} (apart : Percent.IsApart c) (plus : c ≠ '+') (equals : c ≠ '=')
    (escaped : isPlain (UInt8.ofNat c.toNat) = false) (pair : String × String) :
    c ∉ encodePair pair := by
  simp only [encodePair, List.mem_append, List.mem_cons, not_or]
  exact ⟨notMem_encodePart apart plus escaped _, equals, notMem_encodePart apart plus escaped _⟩

/-- A character that is no separator and has to be escaped is in no form. -/
theorem notMem_encode {c : Char} (apart : Percent.IsApart c) (plus : c ≠ '+') (equals : c ≠ '=')
    (ampersand : c ≠ '&') (escaped : isPlain (UInt8.ofNat c.toNat) = false)
    (pairs : List (String × String)) : c ∉ (encode pairs).toList := by
  rw [encode, String.toList_ofList]
  induction pairs with
  | nil => simp [List.intercalate]
  | cons pair later inductionHypothesis =>
    have own := notMem_encodePair apart plus equals escaped pair
    cases later with
    | nil => simpa [List.intercalate] using own
    | cons next more =>
      rw [List.map_cons, List.map_cons, List.intercalate_cons_cons]
      simp only [List.mem_append, List.mem_singleton, not_or]
      exact ⟨⟨own, ampersand⟩, inductionHypothesis⟩

/-! ## Pairs -/

/-- A pair is read back. -/
theorem decodePair_encodePair (pair : String × String) : decodePair (encodePair pair) = pair := by
  have before : ∀ c ∈ encodePart pair.1, (c != '=') = true := by
    intro c member
    rw [bne_iff_ne]
    rintro rfl
    exact notMem_encodePart (by decide) (by decide) (by decide) _ member
  rw [decodePair, encodePair, List.takeWhile_append_of_pos before,
    List.dropWhile_append_of_pos before]
  simp [decodePart_encodePart]

/-- The pairs of a form come back. -/
theorem decode_encode (pairs : List (String × String)) : decode (encode pairs) = pairs := by
  rw [decode, encode, String.toList_ofList]
  cases pairs with
  | nil => rfl
  | cons pair later =>
    have apart : ∀ shown ∈ (pair :: later).map encodePair, '&' ∉ shown := by
      intro shown member
      obtain ⟨own, _, rfl⟩ := List.mem_map.mp member
      exact notMem_encodePair (by decide) (by decide) (by decide) (by decide) own
    have full : ∀ shown ∈ (pair :: later).map encodePair, (!shown.isEmpty) = true := by
      intro shown member
      obtain ⟨own, _, rfl⟩ := List.mem_map.mp member
      simp [encodePair]
    rw [List.splitOn_intercalate '&' apart (by simp), List.filter_eq_self.mpr full, List.map_map]
    have undone : decodePair ∘ encodePair = id := funext decodePair_encodePair
    rw [undone, List.map_id]

end RemoteAgent.Url.Form
