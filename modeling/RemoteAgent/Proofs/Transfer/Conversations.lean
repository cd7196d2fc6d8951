import RemoteAgent.Proofs.Agent.Files
import RemoteAgent.Proofs.Frame.Files
import RemoteAgent.Proofs.Transfer.Downloads

/-!
# Conversations with an agent that serves files

A transfer and an agent take turns: the agent reads what the transfer wants, serves it and answers,
and the transfer goes on with the reply, until it is over. An upload leaves its data in the file,
whatever was there (`converses_upload`), and a download has the contents of the file
(`converses_download`). Both are shown from the octets that are still to come: what was sent stands
in front of as much as is left, and what was received is the contents up to there.
-/

namespace RemoteAgent

/-- The replies about a file reach the client as the agent writes its frames. -/
def Legible (path : String) (write : Inbound → Bytes) : Prop :=
  ∀ answer key reply, answer.reply? = some (key, reply) → key.path = path →
    (∀ piece, reply = .chunk piece → piece.data.length < Bytes.span 8) →
      Inbound.decode (write answer) = .ok answer

/-- The layout of frames is one in which replies reach the client, as long as the path fits into
metadata. -/
theorem legible_encode {path : String} (fits : (Utf8.encode path).length < Bytes.span 4) :
    Legible path Inbound.encode := by
  intro answer key reply answers about short
  cases answer with
  | fileInfo info =>
    cases answers
    subst about
    exact Inbound.decode_encode_fileInfo fits
  | fileChunk named chunk =>
    cases answers
    exact Inbound.decode_encode_fileChunk named (short chunk rfl)
  | fileWritten named offset => exact Inbound.decode_encode_fileWritten named offset
  | _ => cases answers

namespace Transfer

/-- What becomes of files and a transfer that talks to the agent about them. -/
inductive Converses (chunkSize : UInt64) (write : Inbound → Bytes) :
    Files → Turn → Files → Except Failure Delivery → Prop where
  /-- The transfer is over. -/
  | stops {files : Files} {result : Except Failure Delivery} :
      Converses chunkSize write files (.stop result) files result
  /-- The agent reads what is wanted and serves it, and the transfer goes on with the reply. -/
  | exchanges {files served left : Files} {transfer : Transfer} {want : Want} {answer : Inbound}
      {reply : Reply} {result : Except Failure Delivery}
      (wanted : transfer.wants chunkSize = .ok want)
      (reads : Outbound.decode want.frame.encode = .ok want.frame)
      (serves : files.serve want.frame = (served, some answer))
      (answers : answer.reply? = some (want.key, reply))
      (legible : Inbound.decode (write answer) = .ok answer)
      (goesOn : Converses chunkSize write served (transfer.resume chunkSize reply).2 left result) :
      Converses chunkSize write files (.go transfer) left result

variable {chunkSize : UInt64} {write : Inbound → Bytes} {path : String}

/-- A piece is some of what remains, and what is left after it is shorter. -/
theorem piece_of_remaining {remaining : Bytes} (positive : 0 < chunkSize)
    (notEmpty : remaining ≠ []) :
    ∃ piece later, remaining.take chunkSize.toNat = piece ∧
      remaining.drop chunkSize.toNat = later ∧ piece ++ later = remaining ∧ piece ≠ [] ∧
      later.length < remaining.length := by
  have some : 0 < chunkSize.toNat := UInt64.lt_iff_toNat_lt.mp positive
  have length := List.length_pos_iff.mpr notEmpty
  refine ⟨_, _, rfl, rfl, List.take_append_drop chunkSize.toNat remaining, ?_, ?_⟩
  · simpa [List.take_eq_nil_iff, notEmpty] using Nat.ne_of_gt some
  · rw [List.length_drop]
    omega

/-- Data that a vector can hold fit into a frame. -/
theorem length_lt_span {data : Bytes} (short : data.length < 0x8000000000000000) :
    data.length < Bytes.span 8 :=
  Nat.lt_trans short (by decide)

/-! ## Uploads -/

/-- An upload whose sent octets stand in front of as much as is left leaves all of its data in the
file. -/
theorem converses_send (legible : Legible path write) (positive : 0 < chunkSize) {files : Files}
    {receipt : Receipt} {total offset : UInt64} {sent rest remaining : Bytes}
    (behind : offset.toNat = sent.length) (room : rest.length = remaining.length)
    (short : sent.length + remaining.length < 0x8000000000000000)
    (holds : files.contents? path = some (sent ++ rest)) :
    ∃ left : Files, left.contents? path = some (sent ++ remaining) ∧
      (∀ other, other ≠ path → left.contents? other = files.contents? other) ∧
      Converses chunkSize write files (send path receipt total offset remaining) left
        (.ok (acknowledge total receipt)) := by
  -- By induction on what remains: a piece goes from there to what was sent, and as much of what
  -- stood behind goes with it.
  by_cases empty : remaining = []
  · subst empty
    have nothing : rest = [] := List.length_eq_zero_iff.mp room
    subst nothing
    exact ⟨files, holds, fun _ _ => rfl, .stops⟩
  · have goes : send path receipt total offset remaining =
        .go (sending path receipt total offset remaining) := by
      simp [send, empty]
    obtain ⟨piece, later, taken, dropped, whole, notEmpty, shorter⟩ :=
      piece_of_remaining positive empty
    have lengths : piece.length + later.length = remaining.length := by
      rw [← List.length_append, whole]
    have fits : piece.length < Bytes.span 8 := length_lt_span (by omega)
    let served := files.put path (sent ++ piece ++ rest.drop piece.length)
    have serves : files.serve (.writeChunk path ⟨offset, piece⟩) =
        (served, some (.fileWritten path offset)) := by
      simp only [Files.serve, holds, Option.getD_some, Files.written_behind behind notEmpty, served]
    have reached : (offset + count piece).toNat = (sent ++ piece).length := by
      rw [List.length_append, ← behind]
      exact @toNat_add_count offset 0xffffffffffffffff piece (by simp; omega)
    obtain ⟨left, holdsLeft, others, goesOn⟩ := @converses_send legible positive served receipt total
      _ (sent ++ piece) (rest.drop piece.length) later reached (by rw [List.length_drop]; omega)
      (by rw [List.length_append]; omega) (files.contents?_put_self path _)
    refine ⟨left, by rw [holdsLeft, List.append_assoc, whole], fun other different =>
      (others other different).trans (files.contents?_put_of_ne _ different), ?_⟩
    have wanted : (sending path receipt total offset remaining).wants chunkSize =
        .ok (Want.write path ⟨offset, piece⟩) := by
      rw [wants, taken]
    rw [goes]
    refine .exchanges wanted (Outbound.decode_encode_writeChunk path fits) serves rfl
      (legible _ _ _ rfl rfl (by simp)) ?_
    simpa only [resume, taken, dropped] using goesOn
termination_by remaining.length
decreasing_by exact shorter

/-- An upload leaves its data in the file, whatever was there, and lets other files be. -/
theorem converses_upload (legible : Legible path write) (positive : 0 < chunkSize) (files : Files)
    {data : Bytes} (short : data.length < 0x8000000000000000) :
    ∃ left : Files, left.contents? path = some data ∧
      (∀ other, other ≠ path → left.contents? other = files.contents? other) ∧
      Converses chunkSize write files (begin (.upload path data)) left (.ok .done) := by
  let cut := Files.resized ((files.contents? path).getD []) data.length
  have counted : (count data).toNat = data.length := by
    rw [count, UInt64.toNat_ofNat']
    omega
  have serves : files.serve (.writeChunk path ⟨count data, []⟩) =
      (files.put path cut, some (.fileWritten path (count data))) := by
    simp only [Files.serve, Files.written_of_empty, counted, cut]
  obtain ⟨left, holds, others, goesOn⟩ := @converses_send _ _ _ legible positive (files.put path cut)
    .plain (count data) 0 [] cut data rfl (Files.length_resized _ _) (by simpa using short)
    (files.contents?_put_self path cut)
  refine ⟨left, holds, fun other different =>
    (others other different).trans (files.contents?_put_of_ne cut different), ?_⟩
  exact .exchanges rfl (Outbound.decode_encode_writeChunk path (length_lt_span (by simp))) serves
    rfl (legible _ _ _ rfl rfl (by simp)) goesOn

/-! ## Downloads -/

/-- A piece is read from what stands behind the received octets. -/
theorem serve_readChunk {files : Files} {received remaining : Bytes} {offset : UInt64}
    (holds : files.contents? path = some (received ++ remaining))
    (behind : offset.toNat = received.length) (short : offset.toNat < 0x8000000000000000)
    (size : UInt64) :
    files.serve (.readChunk path offset.toInt64 size) =
      (files, some (.fileChunk path ⟨offset, remaining.take size.toNat⟩)) := by
  simp only [Files.serve, holds, Want.toInt_offset short, Int.toNat_natCast, behind, Files.excerpt_behind,
    UInt64.toUInt64_toInt64]

/-- A download that has received what stands before its offset receives the rest. -/
theorem converses_receive (legible : Legible path write) (positive : 0 < chunkSize) {files : Files}
    {destination : Destination} {info : FileInfo} {offset : UInt64} {received remaining : Bytes}
    (size : info.size.toNat = received.length + remaining.length)
    (behind : offset.toNat = received.length)
    (short : received.length + remaining.length < 0x8000000000000000)
    (holds : files.contents? path = some (received ++ remaining)) :
    Converses chunkSize write files (receive path destination info received offset) files
      (store ⟨info, received ++ remaining⟩ destination) := by
  by_cases empty : remaining = []
  · subst empty
    have reachedEnd : ¬ offset < info.size := by
      rw [UInt64.lt_iff_toNat_lt, size, behind]
      simp
    rw [receive, if_neg reachedEnd, List.append_nil]
    exact .stops
  · have some : 0 < remaining.length := List.length_pos_iff.mpr empty
    have more : offset < info.size := by
      rw [UInt64.lt_iff_toNat_lt, size, behind]
      omega
    have early : offset.toNat < 0x8000000000000000 := by omega
    have serves := serve_readChunk holds behind early chunkSize
    obtain ⟨piece, later, taken, _, whole, notEmpty, shorter⟩ := piece_of_remaining positive empty
    have lengths : piece.length + later.length = remaining.length := by
      rw [← List.length_append, whole]
    have fits : piece.length < Bytes.span 8 := length_lt_span (by omega)
    have reached : (offset + count piece).toNat = (received ++ piece).length := by
      rw [List.length_append, ← behind]
      exact toNat_add_count (by omega : offset.toNat + piece.length ≤ info.size.toNat)
    have goesOn := @converses_receive legible positive files destination info _ (received ++ piece)
      later (by rw [List.length_append]; omega) reached (by rw [List.length_append]; omega)
      (by rw [List.append_assoc, whole]; exact holds)
    have resumed : (resume chunkSize (receiving path destination info received offset)
        (.chunk ⟨offset, piece⟩)).2 =
          receive path destination info (received ++ piece) (offset + count piece) := by
      simp only [resume, List.isEmpty_eq_false_iff.mpr notEmpty, Bool.false_eq_true, if_false]
    rw [taken] at serves
    rw [receive, if_pos more]
    refine .exchanges (if_pos early) (Outbound.decode_encode_readChunk path _ _) serves rfl
      (legible _ _ _ rfl rfl ?_) ?_
    · rintro _ ⟨⟩
      exact fits
    · rw [resumed, ← whole, ← List.append_assoc]
      exact goesOn
termination_by remaining.length
decreasing_by exact shorter

/-- A download has the contents of the file, which stays as it is. -/
theorem converses_download (legible : Legible path write) (positive : 0 < chunkSize) {files : Files}
    {data : Bytes} (short : data.length < 0x8000000000000000)
    (holds : files.contents? path = some data) :
    ∃ info, Converses chunkSize write files (begin (.download path .caller)) files
      (.ok (.file ⟨info, data⟩)) := by
  let info : FileInfo := ⟨path, UInt64.ofNat data.length, Files.servedMode, Files.servedAt⟩
  have size : info.size.toNat = ([] : Bytes).length + data.length := by
    simp only [info, UInt64.toNat_ofNat', List.length_nil]
    omega
  have serves : files.serve (.queryFile path) = (files, some (.fileInfo info)) := by
    simp only [Files.serve, holds, info]
  refine ⟨info, ?_⟩
  exact .exchanges rfl (Outbound.decode_encode_queryFile path) serves rfl
    (legible _ _ _ rfl rfl (by simp))
    (converses_receive legible positive size rfl (by simpa using short) holds)

end Transfer

end RemoteAgent
