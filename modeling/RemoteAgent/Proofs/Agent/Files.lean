import RemoteAgent.Agent.Files

/-!
# What the agent does to its files

A file has the contents that were put there last, whatever becomes of other files. A cut brings
contents to a length, and a write behind what was sent overwrites just what stood there, as long as
the length stays (`written_behind`).
-/

namespace RemoteAgent.Files

/-- A file that is put there has the contents that it was given. -/
@[simp] theorem contents?_put_self (files : Files) (path : String) (contents : Bytes) :
    (files.put path contents).contents? path = some contents := by
  simp [contents?, put]

/-- No other file changes. -/
theorem contents?_put_of_ne (files : Files) {path other : String} (contents : Bytes)
    (different : other ≠ path) :
    (files.put path contents).contents? other = files.contents? other := by
  have named : (other == path) = false := by simpa using different
  simp only [contents?, put, List.lookup_cons, named]
  induction files with
  | nil => rfl
  | cons file files inductionHypothesis =>
    obtain ⟨name, data⟩ := file
    by_cases dropped : name = path
    · subst dropped
      simpa [List.lookup_cons, named] using inductionHypothesis
    · have kept : (name != path) = true := by simpa using dropped
      rw [List.filter_cons_of_pos (by exact kept), List.lookup_cons, List.lookup_cons]
      split
      · rfl
      · exact inductionHypothesis

/-- A file that is resized has the length that was asked for. -/
@[simp] theorem length_resized (contents : Bytes) (length : Nat) :
    (resized contents length).length = length := by
  simp only [resized, List.length_append, List.length_take, List.length_replicate]
  omega

/-- To write nothing resizes the file to the offset. -/
theorem written_of_empty (contents : Bytes) (offset : UInt64) :
    written contents ⟨offset, []⟩ = resized contents offset.toNat := rfl

/-- A piece that is written behind what was sent overwrites what stood there. -/
theorem written_behind {sent rest piece : Bytes} {offset : UInt64}
    (behind : offset.toNat = sent.length) (notEmpty : piece ≠ []) :
    written (sent ++ rest) ⟨offset, piece⟩ = sent ++ piece ++ rest.drop piece.length := by
  have writes : piece.isEmpty = false := by simpa using notEmpty
  have cut : resized (sent ++ rest) sent.length = sent := by
    simp [resized]
  simp only [written, behind, writes, Bool.false_eq_true, if_false, cut, List.drop_append,
    List.drop_of_length_le (Nat.le_add_right sent.length piece.length), List.nil_append,
    Nat.add_sub_cancel_left]

/-- A reader gets what stands behind what it has received. -/
theorem excerpt_behind {received remaining : Bytes} (size : Nat) :
    excerpt (received ++ remaining) received.length size = remaining.take size := by
  simp [excerpt]

end RemoteAgent.Files
