import RemoteAgent.Proofs.Client.Fetches

/-!
# Downloads beyond the promised size

A download always asks for as many octets as a piece may have, however few are left up to the size that
the metadata tell. So the last piece can overrun that size, and the progress the hundred percent
(`download_exceeds_size`), but by less than a piece, and with the last report only
(`download_overrun`).
-/

namespace RemoteAgent

namespace Download

open Chunk

variable {info : FileInfo} {chunks : List Chunk} {most : Nat}

/-- Pieces end within the octets that they come to. -/
theorem end_le_of_placed {offset : Nat} {place : Nat × Chunk} (member : place ∈ placed offset chunks) :
    place.1 + place.2.data.length ≤ offset + (joined chunks).length := by
  induction chunks generalizing offset with
  | nil => cases member
  | cons chunk later inductionHypothesis =>
    have joins : (joined (chunk :: later)).length = chunk.data.length + (joined later).length := by
      simp [joined]
    rw [joins]
    rcases List.mem_cons.mp member with rfl | behind
    · dsimp only
      omega
    · have inside := inductionHypothesis behind
      omega

/-- All pieces before the last one fall short of the size. -/
theorem Taken.short_of_concat {before : List Chunk} {last : Chunk}
    (taken : Taken info (before ++ [last])) : (joined before).length < info.size.toNat := by
  have inside := taken.inside (0 + (joined before).length, last) (by rw [placed_concat]; simp)
  simpa using inside.1

/-- Pieces of some octets at most come to less than one of them beyond the size. -/
theorem Taken.length_le (taken : Taken info chunks)
    (modest : ∀ chunk ∈ chunks, chunk.data.length ≤ most) :
    (joined chunks).length ≤ info.size.toNat + (most - 1) := by
  rcases List.eq_nil_or_concat' chunks with rfl | ⟨before, last, rfl⟩
  · simp [joined]
  · have short := taken.short_of_concat
    have few := modest last (by simp)
    rw [joined_concat, List.length_append]
    omega

/-- A report tells where its piece ends. -/
theorem Taken.report (taken : Taken info chunks) {report : Progress}
    (member : report ∈ reports info.size chunks) :
    report.total = info.size ∧ ∃ place ∈ placed 0 chunks,
      report.done.toNat = place.1 + place.2.data.length := by
  obtain ⟨place, placed, rfl⟩ := List.mem_map.mp member
  have kept := (List.mem_filter.mp placed).1
  exact ⟨rfl, place, kept, UInt64.toNat_ofNat_of_lt' (taken.counted place kept)⟩

/-- The reports of modest pieces are less than a piece beyond the size. -/
theorem Taken.report_le (taken : Taken info chunks)
    (modest : ∀ chunk ∈ chunks, chunk.data.length ≤ most) {report : Progress}
    (member : report ∈ reports info.size chunks) :
    report.done.toNat ≤ report.total.toNat + (most - 1) := by
  obtain ⟨total, place, placed, done⟩ := taken.report member
  have within := end_le_of_placed placed
  have length := taken.length_le modest
  rw [total, done]
  omega

/-- Every report but the last is short of the size. -/
theorem Taken.report_lt (taken : Taken info chunks) {report : Progress}
    (member : report ∈ (reports info.size chunks).dropLast) : report.done < report.total := by
  rcases List.eq_nil_or_concat' chunks with rfl | ⟨before, last, rfl⟩
  · cases member
  · have early : report ∈ reports info.size before := by
      rw [reports_concat] at member
      split at member
      · rw [List.append_nil] at member
        exact List.mem_of_mem_dropLast member
      · rw [List.dropLast_concat] at member
        exact member
    have takenBefore : Taken info before := by
      refine ⟨?_, ?_, ?_⟩
      · exact fun place placed => taken.inside place (by rw [placed_concat]; simp [placed])
      · exact fun place placed => taken.counted place (by rw [placed_concat]; simp [placed])
      · intro chunk early
        exact taken.notEmpty chunk (by
          rw [List.dropLast_concat]
          exact List.mem_of_mem_dropLast early)
    obtain ⟨total, place, placed, done⟩ := takenBefore.report early
    have within := end_le_of_placed placed
    have short := taken.short_of_concat
    rw [UInt64.lt_iff_toNat_lt, total, done]
    omega

end Download

namespace Client

open Download

variable {config : Config} {client : Client}

/-- The end of a call stands in its transcript. -/
theorem ends_of_finished {number : Nat} {trace : List Event} {progress : List Progress}
    {outcome : Except Failure Delivery} (finished : .finished number progress outcome ∈ trace) :
    .ends progress outcome ∈ transcript number trace := by
  induction trace with
  | nil => cases finished
  | cons event earlier inductionHypothesis =>
    rw [transcript, List.mem_append]
    rcases List.mem_cons.mp finished with rfl | old
    · exact .inr (by simp [lineOf])
    · exact .inl (inductionHypothesis old)

/-- How far a download with pieces of some octets at most goes beyond the promised size. -/
structure Overrun (most : Nat) (progress : List Progress) (outcome : Except Failure Delivery) :
    Prop where
  /-- Less than one piece is too much. -/
  data : ∀ file, outcome = .ok (.file file) ∨ outcome = .ok (.stored file) →
    file.data.length ≤ file.info.size.toNat + (most - 1)
  reports : ∀ report ∈ progress, report.done.toNat ≤ report.total.toNat + (most - 1)
  /-- Nothing is too much before the last report. -/
  early : ∀ report ∈ progress.dropLast, report.done < report.total

/-- A piece that a download has taken was heard. -/
theorem heard_of_taken {chunkSize : UInt64} {path : String} {info : FileInfo} {chunks : List Chunk}
    {chunk : Chunk} (member : chunk ∈ chunks) :
    .hears (.ok (.chunk chunk)) ∈
      exchanges ((Want.info path, .info info) :: fetches chunkSize path chunks) := by
  rw [← Chunk.placed_map_snd 0 chunks] at member
  obtain ⟨place, placed, rfl⟩ := List.mem_map.mp member
  have fetched : (Want.piece chunkSize path place.1, Reply.chunk place.2) ∈
      fetches chunkSize path chunks := List.mem_map_of_mem placed
  exact heard_of_exchanges (List.mem_cons_of_mem _ fetched)

/-- The file that a download delivers is the one that it stores. -/
theorem eq_of_store {destination : Destination} {file stored : DownloadedFile}
    (delivered : Transfer.store stored destination = .ok (.file file) ∨
      Transfer.store stored destination = .ok (.stored file)) : file = stored := by
  rcases destination with _ | _ | _ <;> rcases delivered with delivered | delivered <;>
    cases delivered <;> rfl

/-- With an agent whose pieces are no longer than asked for, a download overruns the promised size by
less than a piece, and reports no more than the whole before its last report. -/
theorem download_overrun (reachable : Reachable config client) {number : Nat} {path : String}
    {destination : Destination}
    (started : .started number (.download path destination) ∈ client.trace)
    (modest : ∀ chunk, .hears (.ok (.chunk chunk)) ∈ transcript number client.trace →
      chunk.data.length ≤ config.chunkSize.toNat ∧ chunk.data.length < 0x8000000000000000)
    {progress : List Progress} {outcome : Except Failure Delivery}
    (finished : .finished number progress outcome ∈ client.trace) :
    Overrun config.chunkSize.toNat progress outcome := by
  have ends := ends_of_finished finished
  rcases reachable.takes started fun chunk heard => (modest chunk heard).2 with
    ⟨unanswered, _⟩ | ⟨info, chunks, rest, lines, taken, ensues, _⟩
  · obtain ⟨rfl, failure, rfl, _⟩ := unanswered.eq_of_ends ends
    exact ⟨by simp, by simp, by simp⟩
  · rw [lines] at ends modest
    have few : ∀ chunk ∈ chunks, chunk.data.length ≤ config.chunkSize.toNat := fun chunk member =>
      (modest chunk (List.mem_append_left _ (heard_of_taken member))).1
    -- Whatever the end is, it tells of the pieces that were taken.
    have told : progress = reports info.size chunks ∧ ∀ file,
        outcome = .ok (.file file) ∨ outcome = .ok (.stored file) →
          file = ⟨info, Chunk.joined chunks⟩ := by
      have last := (List.mem_append.mp ends).resolve_left (not_ends_of_exchanges _ _ _)
      cases ensues with
      | unanswered wanting inRange unanswered =>
        obtain ⟨same, failure, rfl, _⟩ := unanswered.eq_of_ends last
        exact ⟨same, by simp⟩
      | beyond wanting far =>
        cases List.mem_singleton.mp last
        exact ⟨rfl, by simp⟩
      | whole enough =>
        cases List.mem_singleton.mp last
        exact ⟨rfl, fun file => eq_of_store⟩
    obtain ⟨rfl, delivered⟩ := told
    refine ⟨?_, fun report member => taken.report_le few member,
      fun report member => taken.report_lt member⟩
    intro file outcome
    rw [delivered file outcome]
    exact taken.length_le few

/-- A file of two octets is downloaded that has grown to four. -/
def growing : List Action :=
  [.connect, .settle 1 .accepted, .resolve 1, .start (.download "a" .caller) none,
    .receive 1 (.binary (Inbound.fileInfo twoOctets).encode), .poll 0,
    .receive 1 (.binary (Inbound.fileChunk "a" ⟨0, [1, 2, 3, 4]⟩).encode), .poll 1]

/-- The download asks for four octets, and gets them. -/
theorem run_growing :
    let client := (Client.initial .loopback).run growing
    .started 1 (.download "a" .caller) ∈ client.trace ∧
      transcript 1 client.trace =
        exchanges [(Want.info "a", .info twoOctets),
          (Want.piece Config.loopback.chunkSize "a" 0, .chunk ⟨0, [1, 2, 3, 4]⟩)] ++
          [.ends [⟨4, 2⟩] (.ok (.file ⟨twoOctets, [1, 2, 3, 4]⟩))] ∧
      .finished 1 [⟨4, 2⟩] (.ok (.file ⟨twoOctets, [1, 2, 3, 4]⟩)) ∈ client.trace := by
  intro client
  have metadata : Inbound.decode (Inbound.fileInfo twoOctets).encode = .ok (.fileInfo twoOctets) :=
    Inbound.decode_encode_fileInfo (by decide)
  have piece : Inbound.decode (Inbound.fileChunk "a" ⟨0, [1, 2, 3, 4]⟩).encode =
      .ok (.fileChunk "a" ⟨0, [1, 2, 3, 4]⟩) := Inbound.decode_encode_fileChunk "a" (by decide)
  have reached : ∀ count, Reachable .loopback ((Client.initial .loopback).run (growing.take count)) :=
    fun _ => Reachable.initial.run _
  -- No evaluation opens the recursion that reads frames, so each reply is taken in by the lemma.
  have told : (Client.initial .loopback).run (growing.take 5) = _ :=
    @step_receive_reply _ (reached 4).sound rfl 1 _ _ _ _ _ rfl rfl metadata rfl
  have asked : (Client.initial .loopback).run (growing.take 6) = _ :=
    congrArg (Client.step · (.poll 0)) told
  have received : (Client.initial .loopback).run (growing.take 7) = _ :=
    @step_receive_reply _ (reached 6).sound (by rw [asked]; rfl) 1 _ _ _ _ _ (by rw [asked]; rfl) rfl
      piece rfl
  rw [asked] at received
  have whole : client = _ := congrArg (Client.step · (.poll 1)) received
  have early : .started 1 (.download "a" .caller) ∈
      ((Client.initial .loopback).run (growing.take 4)).trace :=
    .tail _ (.tail _ (.tail _ (.head _)))
  refine ⟨?_, ?_, ?_⟩
  · change _ ∈ ((Client.initial .loopback).run growing).trace
    rw [← List.take_append_drop 4 growing, run_append]
    exact run_remembers (reached 4).sound _ early
  · rw [whole]
    decide +kernel
  · rw [whole]
    exact List.mem_cons_self

/-- Two octets too many are less than a piece. -/
theorem download_overrun_of_growing :
    Overrun Config.loopback.chunkSize.toNat [⟨4, 2⟩] (.ok (.file ⟨twoOctets, [1, 2, 3, 4]⟩)) := by
  obtain ⟨started, lines, finished⟩ := run_growing
  refine download_overrun (Reachable.initial.run growing) started ?_ finished
  rw [lines]
  intro chunk heard
  simp [exchanges, Want.told] at heard
  rw [heard]
  decide

/-- A download that gets no more octets than it asks for delivers more of them than the metadata promise,
and reports twice the whole. -/
theorem download_exceeds_size :
    .finished 1 [⟨4, 2⟩] (.ok (.file ⟨twoOctets, [1, 2, 3, 4]⟩)) ∈
        ((Client.initial .loopback).run growing).trace ∧
      ([1, 2, 3, 4] : Bytes).length ≤ Config.loopback.chunkSize.toNat ∧
      ¬ ([1, 2, 3, 4] : Bytes).length ≤ twoOctets.size.toNat ∧
      ¬ (⟨4, 2⟩ : Progress).done ≤ (⟨4, 2⟩ : Progress).total := by
  obtain ⟨_, _, finished⟩ := run_growing
  exact ⟨finished, by decide, by decide, by decide⟩

end Client

end RemoteAgent
