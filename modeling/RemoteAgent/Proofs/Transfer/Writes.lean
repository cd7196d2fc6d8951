import RemoteAgent.Proofs.Transfer.Fetches

/-!
# Slice after slice

An upload first cuts the file to the length of the data, and then writes them in slices
(`Upload.writes`), each when the one before it is acknowledged (`Upload.sent_of_reaches`). So
whatever is told of it begins with as many of its writes as are acknowledged, and goes on with the
next one at most (`Upload.written_of_unfolds`).
-/

namespace RemoteAgent

namespace Upload

/-- As many slices as it takes for all data. -/
def slices (chunkSize : UInt64) (data : Bytes) : Nat :=
  (data.length + chunkSize.toNat - 1) / chunkSize.toNat

/-- The slice of an index: as many octets as a slice may have, as long as there are any. -/
def slice (chunkSize : UInt64) (data : Bytes) (index : Nat) : Chunk :=
  ⟨UInt64.ofNat (index * chunkSize.toNat),
    (data.drop (index * chunkSize.toNat)).take chunkSize.toNat⟩

/-- What an upload writes: an empty piece at the end of the data, at which the file is cut, and then
one slice after the other. -/
def writes (chunkSize : UInt64) (data : Bytes) : List Chunk :=
  ⟨Transfer.count data, []⟩ :: (List.range (slices chunkSize data)).map (slice chunkSize data)

/-- The progress with each slice: where it ends, out of all data. -/
def reports (chunkSize : UInt64) (data : Bytes) : List Progress :=
  (List.range (slices chunkSize data)).map fun index =>
    ⟨UInt64.ofNat (min ((index + 1) * chunkSize.toNat) data.length), UInt64.ofNat data.length⟩

/-- The writes of pieces, with the replies to them. -/
def acknowledged (path : String) (pieces : List Chunk) : List (Want × Reply) :=
  pieces.map fun piece => (Want.write path piece, .written)

variable {chunkSize : UInt64} {path : String} {receipt : Receipt} {data : Bytes}

/-! ## Slices -/

theorem lt_slices_iff (positive : 0 < chunkSize) (index : Nat) :
    index < slices chunkSize data ↔ index * chunkSize.toNat < data.length := by
  have some : 0 < chunkSize.toNat := UInt64.lt_iff_toNat_lt.mp positive
  rw [slices, Nat.lt_iff_add_one_le, Nat.le_div_iff_mul_le some, Nat.succ_mul]
  omega

@[simp]
theorem length_writes (chunkSize : UInt64) (data : Bytes) :
    (writes chunkSize data).length = slices chunkSize data + 1 := by
  simp [writes]

/-- The first slices are the first octets. -/
theorem flatMap_slice (chunkSize : UInt64) (data : Bytes) (count : Nat) :
    ((List.range count).map (slice chunkSize data)).flatMap (·.data) =
      data.take (count * chunkSize.toNat) := by
  induction count with
  | zero => simp
  | succ count inductionHypothesis =>
    rw [List.range_succ, List.map_append, List.flatMap_append, inductionHypothesis, Nat.succ_mul,
      List.take_add]
    simp [slice]

/-- What an upload writes is the data, each octet once. -/
theorem joined_writes (positive : 0 < chunkSize) (data : Bytes) :
    Chunk.joined (writes chunkSize data) = data := by
  have enough : ¬ slices chunkSize data * chunkSize.toNat < data.length := fun more =>
    Nat.lt_irrefl _ ((lt_slices_iff positive _).mpr more)
  rw [Chunk.joined, writes, List.flatMap_cons, flatMap_slice,
    List.take_of_length_le (Nat.not_lt.mp enough), List.nil_append]

/-- The next of the reports is that of the next slice. -/
theorem take_reports_succ {index : Nat} (more : index < slices chunkSize data) :
    (reports chunkSize data).take (index + 1) = (reports chunkSize data).take index ++
      [⟨UInt64.ofNat (min ((index + 1) * chunkSize.toNat) data.length),
        UInt64.ofNat data.length⟩] := by
  rw [List.take_succ_eq_append_getElem (by simpa [reports] using more)]
  simp [reports]

/-! ## The course of an upload -/

/-- Where an upload can have come, by the number of its writes that are acknowledged. -/
inductive Writing (chunkSize : UInt64) (path : String) (receipt : Receipt) (data : Bytes) :
    Nat → Transfer.Turn → Prop where
  /-- It waits for the cut. -/
  | cutting : Writing chunkSize path receipt data 0 (.go (.cutting path receipt data))
  /-- It waits for a slice. -/
  | sending {index : Nat} (more : index < slices chunkSize data) :
      Writing chunkSize path receipt data (index + 1)
        (.go (.sending path receipt (Transfer.count data)
          (UInt64.ofNat (index * chunkSize.toNat)) (data.drop (index * chunkSize.toNat))))
  /-- It has written everything. -/
  | stops : Writing chunkSize path receipt data (slices chunkSize data + 1)
      (.stop (.ok (Transfer.acknowledge (Transfer.count data) receipt)))

/-- An upload that has come so far with its writes acknowledged, and has reported its progress with each
slice. -/
structure Sent (chunkSize : UInt64) (path : String) (receipt : Receipt) (data : Bytes) (count : Nat)
    (exchanged : List (Want × Reply)) (progress : List Progress) (turn : Transfer.Turn) : Prop where
  writing : Writing chunkSize path receipt data count turn
  exchanged : exchanged = acknowledged path ((writes chunkSize data).take count)
  progress : progress = (reports chunkSize data).take (count - 1)

/-- The write that an upload waits for is the next one. -/
theorem Writing.wants {count : Nat} {transfer : Transfer}
    (writing : Writing chunkSize path receipt data count (.go transfer)) :
    ∃ piece, (writes chunkSize data)[count]? = some piece ∧
      transfer.wants chunkSize = .ok (Want.write path piece) := by
  cases writing with
  | cutting => exact ⟨_, rfl, rfl⟩
  | sending more =>
    refine ⟨slice chunkSize data _, ?_, rfl⟩
    simp [writes, more]

/-- An upload with so many slices acknowledged goes on to the next, or has written everything. -/
theorem writing_send (positive : 0 < chunkSize) {index : Nat}
    (within : index ≤ slices chunkSize data) {offset : UInt64}
    (behind : index < slices chunkSize data → offset = UInt64.ofNat (index * chunkSize.toNat)) :
    Writing chunkSize path receipt data (index + 1)
      (Transfer.send path receipt (Transfer.count data) offset
        (data.drop (index * chunkSize.toNat))) := by
  have left : (data.drop (index * chunkSize.toNat)).isEmpty = false ↔
      index < slices chunkSize data := by
    rw [lt_slices_iff positive, List.isEmpty_eq_false_iff, ne_eq, List.drop_eq_nil_iff, Nat.not_le]
  unfold Transfer.send
  split
  · next nothing =>
    have last : index = slices chunkSize data := by
      refine Nat.le_antisymm within (Nat.not_lt.mp fun more => ?_)
      rw [left.mpr more] at nothing
      cases nothing
    exact last ▸ .stops
  · next something =>
    have more := left.mp (by simpa using something)
    exact behind more ▸ .sending more

/-- An acknowledgement brings an upload to its next write. -/
theorem Sent.resume (positive : 0 < chunkSize) {count : Nat} {exchanged : List (Want × Reply)}
    {progress : List Progress} {transfer : Transfer} {want : Want} {reply : Reply}
    (sent : Sent chunkSize path receipt data count exchanged progress (.go transfer))
    (wanted : transfer.wants chunkSize = .ok want) (fits : reply.kind = want.awaits) :
    Sent chunkSize path receipt data (count + 1) (exchanged ++ [(want, reply)])
      (progress ++ (transfer.resume chunkSize reply).1.toList)
      (transfer.resume chunkSize reply).2 := by
  obtain ⟨writing, rfl, rfl⟩ := sent
  obtain ⟨piece, next, wantedToo⟩ := writing.wants
  cases wanted.symm.trans wantedToo
  have written : reply = .written := by
    cases reply with
    | written => rfl
    | _ => cases fits
  subst written
  have exchangedNext : acknowledged path ((writes chunkSize data).take count) ++
      [(Want.write path piece, .written)] =
        acknowledged path ((writes chunkSize data).take (count + 1)) := by
    rw [List.take_add_one, next]
    simp [acknowledged]
  refine ⟨?_, exchangedNext, ?_⟩
  · cases writing with
    | cutting =>
      have goesOn := @writing_send _ path receipt data positive 0 (Nat.zero_le _) 0 (by simp)
      simpa [Transfer.resume] using goesOn
    | @sending index more =>
      have taken := (lt_slices_iff positive index).mp more
      have goesOn := @writing_send _ path receipt data positive (index + 1) more
        (UInt64.ofNat (index * chunkSize.toNat) +
          Transfer.count ((data.drop (index * chunkSize.toNat)).take chunkSize.toNat)) ?_
      · simpa [Transfer.resume, Nat.succ_mul] using goesOn
      · intro moreToo
        have whole := (lt_slices_iff positive (index + 1)).mp moreToo
        rw [Nat.succ_mul] at whole ⊢
        rw [Transfer.count, List.length_take, List.length_drop, Nat.min_eq_left (by omega),
          UInt64.ofNat_add]
  · cases writing with
    | cutting => rfl
    | @sending index more =>
      have taken := (lt_slices_iff positive index).mp more
      have reached : UInt64.ofNat (index * chunkSize.toNat) +
          Transfer.count ((data.drop (index * chunkSize.toNat)).take chunkSize.toNat) =
            UInt64.ofNat (min ((index + 1) * chunkSize.toNat) data.length) := by
        rw [Transfer.count, ← UInt64.ofNat_add, List.length_take, List.length_drop, Nat.succ_mul]
        congr 1
        omega
      rw [Nat.add_sub_cancel, Nat.add_sub_cancel, take_reports_succ more]
      dsimp only [Transfer.resume, Option.toList_some]
      rw [reached, Transfer.count]

/-- An upload is where the acknowledgements of its writes have brought it. -/
theorem sent_of_reaches (positive : 0 < chunkSize) {operation : Operation}
    (begins : Transfer.begin operation = .go (.cutting path receipt data))
    {exchanged : List (Want × Reply)} {progress : List Progress} {turn : Transfer.Turn}
    (reaches : Transfer.Reaches chunkSize operation exchanged progress turn) :
    ∃ count, Sent chunkSize path receipt data count exchanged progress turn := by
  induction reaches with
  | begins =>
    rw [begins]
    exact ⟨0, .cutting, rfl, rfl⟩
  | resumes _ wanted fits inductionHypothesis =>
    obtain ⟨count, sent⟩ := inductionHypothesis
    exact ⟨count + 1, sent.resume positive wanted fits⟩

/-! ## What is told of an upload -/

/-- What is told of an upload behind the writes that are acknowledged. -/
inductive Ensues (chunkSize : UInt64) (path : String) (receipt : Receipt) (data : Bytes)
    (count : Nat) : List Line → Prop where
  /-- It has made the next write, which is not acknowledged, or fails. -/
  | unanswered {piece : Chunk} {rest : List Line}
      (next : (writes chunkSize data)[count]? = some piece)
      (unanswered : Unanswered (Want.write path piece)
        ((reports chunkSize data).take (count - 1)) rest) :
      Ensues chunkSize path receipt data count rest
  /-- It has succeeded, since there is nothing left to write. -/
  | whole (all : count = (writes chunkSize data).length) :
      Ensues chunkSize path receipt data count
        [.ends (reports chunkSize data)
          (.ok (Transfer.acknowledge (Transfer.count data) receipt))]

/-- What is told of an upload with so many of its writes acknowledged. -/
structure Written (chunkSize : UInt64) (path : String) (receipt : Receipt) (data : Bytes)
    (count : Nat) (lines : List Line) : Prop where
  /-- Write after write was acknowledged, each before the next was made. -/
  talk : ∃ rest, lines = exchanges (acknowledged path ((writes chunkSize data).take count)) ++ rest ∧
    Ensues chunkSize path receipt data count rest
  heard : lines.count (.hears (.ok .written)) = count
  within : count ≤ (writes chunkSize data).length
  /-- The writes are made in their order. -/
  asked : lines.filterMap Line.key? <+:
    (writes chunkSize data).map fun piece => .write path piece.offset
  sent : lines.filterMap Line.frame? <+:
    (writes chunkSize data).map fun piece => (Outbound.writeChunk path piece).encode
  /-- All writes that were sent are acknowledged, up to the last one. -/
  few : (lines.filterMap Line.frame?).length ≤ count + 1
  /-- With a write that fails the upload ends, and nothing comes after that. -/
  fails : ∀ failure, .hears (.error failure) ∈ lines → ∃ front, lines = front ++
    [.hears (.error failure), .ends ((reports chunkSize data).take (count - 1)) (.error failure)]
  /-- An upload fails only with a write. -/
  blames : ∀ progress failure, .ends progress (.error failure) ∈ lines →
    .hears (.error failure) ∈ lines
  /-- Each slice that is acknowledged was reported, and the cut was not. -/
  reported : ∀ progress outcome, .ends progress outcome ∈ lines →
    progress = (reports chunkSize data).take (count - 1)
  /-- An upload succeeds exactly when all writes are acknowledged. -/
  succeeds : (∃ progress delivery, .ends progress (.ok delivery) ∈ lines) ↔
    count = (writes chunkSize data).length
  delivers : ∀ progress delivery, .ends progress (.ok delivery) ∈ lines →
    delivery = Transfer.acknowledge (Transfer.count data) receipt

/-- All reports together are those with all writes. -/
theorem take_reports_of_whole {count : Nat} (all : count = (writes chunkSize data).length) :
    (reports chunkSize data).take (count - 1) = reports chunkSize data := by
  rw [all, length_writes, Nat.add_sub_cancel]
  exact List.take_of_length_le (by simp [reports])

theorem heard_of_acknowledged (path : String) (pieces : List Chunk) :
    (exchanges (acknowledged path pieces)).count (.hears (.ok .written)) = pieces.length := by
  induction pieces with
  | nil => rfl
  | cons piece later inductionHypothesis =>
    have told : exchanges (acknowledged path (piece :: later)) =
        ((Want.write path piece).told true ++ [.hears (.ok .written)]) ++
          exchanges (acknowledged path later) := rfl
    rw [told, List.count_append, inductionHypothesis, List.length_cons, Nat.add_comm]
    rfl

/-- Nothing fails while writes are acknowledged. -/
theorem not_fails_of_acknowledged (path : String) (pieces : List Chunk) (failure : Failure) :
    .hears (.error failure) ∉ exchanges (acknowledged path pieces) := by
  simp [exchanges, acknowledged, Want.told]

/-- Behind the writes that are acknowledged, at most the next one is told of. -/
theorem isPrefix_of_next {α : Type} (told : Chunk → α) {count : Nat} {rest : List α}
    (next : rest <+: (((writes chunkSize data)[count]?).map told).toList) :
    ((writes chunkSize data).take count).map told ++ rest <+:
      (writes chunkSize data).map told := by
  refine List.IsPrefix.trans ?_ (List.IsPrefix.map told (List.take_prefix (count + 1) _))
  rw [List.take_add_one, List.map_append, ← Option.toList_map]
  exact (List.prefix_append_right_inj _).mpr next

/-- Acknowledged writes were asked for in their order. -/
theorem keys_of_acknowledged (path : String) (pieces : List Chunk) :
    (exchanges (acknowledged path pieces)).filterMap Line.key? =
      pieces.map fun piece => .write path piece.offset := by
  simp [keys_of_exchanges, acknowledged, Want.write, Function.comp_def]

/-- Acknowledged writes were sent in their order. -/
theorem frames_of_acknowledged (path : String) (pieces : List Chunk) :
    (exchanges (acknowledged path pieces)).filterMap Line.frame? =
      pieces.map fun piece => (Outbound.writeChunk path piece).encode := by
  simp [frames_of_exchanges, acknowledged, Want.write, Function.comp_def]

/-- A failure is told of behind the writes that are acknowledged. -/
theorem fails_behind {pieces : List Chunk} {rest : List Line} {failure : Failure}
    (member : .hears (.error failure) ∈ exchanges (acknowledged path pieces) ++ rest) :
    .hears (.error failure) ∈ rest :=
  (List.mem_append.mp member).resolve_left (not_fails_of_acknowledged _ _ _)

/-- The end is told of behind the writes that are acknowledged. -/
theorem ends_behind {pieces : List Chunk} {rest : List Line} {progress : List Progress}
    {outcome : Except Failure Delivery}
    (member : .ends progress outcome ∈ exchanges (acknowledged path pieces) ++ rest) :
    .ends progress outcome ∈ rest :=
  (List.mem_append.mp member).resolve_left (not_ends_of_exchanges _ _ _)

theorem length_take_writes {count : Nat} (within : count ≤ (writes chunkSize data).length) :
    ((writes chunkSize data).take count).length = count := by
  rw [List.length_take, Nat.min_eq_left within]

/-- What is told of an upload while its next write is not acknowledged. -/
theorem written_of_unanswered {count : Nat} {piece : Chunk} {rest : List Line}
    (next : (writes chunkSize data)[count]? = some piece)
    (unanswered : Unanswered (Want.write path piece)
      ((reports chunkSize data).take (count - 1)) rest) :
    Written chunkSize path receipt data count
      (exchanges (acknowledged path ((writes chunkSize data).take count)) ++ rest) := by
  have unfinished : count < (writes chunkSize data).length :=
    (List.getElem?_eq_some_iff.mp next).1
  have counted := length_take_writes (Nat.le_of_lt unfinished)
  obtain ⟨unsent, few, sent⟩ := unanswered.frames
  -- An upload that waits for an answer does not succeed.
  have unsuccessful : ∀ progress delivery, .ends progress (.ok delivery) ∉
      exchanges (acknowledged path ((writes chunkSize data).take count)) ++ rest := by
    intro progress delivery ends
    obtain ⟨_, _, failed, _⟩ := unanswered.eq_of_ends (ends_behind ends)
    cases failed
  exact {
    talk := ⟨rest, rfl, .unanswered next unanswered⟩
    heard := by
      rw [List.count_append, heard_of_acknowledged, counted,
        List.count_eq_zero.mpr (unanswered.not_hears _), Nat.add_zero]
    within := Nat.le_of_lt unfinished
    asked := by
      rw [List.filterMap_append, keys_of_acknowledged, unanswered.keys]
      exact isPrefix_of_next _ (by rw [next]; exact List.prefix_rfl)
    sent := by
      rw [List.filterMap_append, frames_of_acknowledged]
      exact isPrefix_of_next _ (by rw [next]; exact ⟨unsent, sent⟩)
    few := by
      have one := congrArg List.length sent
      rw [List.length_append, List.length_singleton] at one
      rw [List.filterMap_append, frames_of_acknowledged, List.length_append, List.length_map,
        counted]
      omega
    fails := by
      intro failure fails
      obtain ⟨front, told⟩ := unanswered.ends_of_fails (fails_behind fails)
      exact ⟨_ ++ front, by rw [told, List.append_assoc]⟩
    blames := by
      intro progress failure ends
      obtain ⟨_, blamed, same, fails⟩ := unanswered.eq_of_ends (ends_behind ends)
      cases same
      exact List.mem_append_right _ fails
    reported := fun progress outcome ends => (unanswered.eq_of_ends (ends_behind ends)).1
    succeeds := ⟨fun ⟨progress, delivery, ends⟩ => absurd ends (unsuccessful progress delivery),
      fun all => absurd all (Nat.ne_of_lt unfinished)⟩
    delivers := fun progress delivery ends => absurd ends (unsuccessful progress delivery) }

/-- What is told of an upload with all of its writes acknowledged. -/
theorem written_of_whole {count : Nat} (all : count = (writes chunkSize data).length) :
    Written chunkSize path receipt data count
      (exchanges (acknowledged path ((writes chunkSize data).take count)) ++
        [.ends (reports chunkSize data)
          (.ok (Transfer.acknowledge (Transfer.count data) receipt))]) := by
  have counted := length_take_writes (Nat.le_of_eq all)
  have ended : ∀ progress outcome, .ends progress outcome ∈
      exchanges (acknowledged path ((writes chunkSize data).take count)) ++
        [.ends (reports chunkSize data)
          (.ok (Transfer.acknowledge (Transfer.count data) receipt))] →
      progress = reports chunkSize data ∧
        outcome = .ok (Transfer.acknowledge (Transfer.count data) receipt) :=
    fun progress outcome ends => by simpa using ends_behind ends
  exact {
    talk := ⟨_, rfl, .whole all⟩
    heard := by
      rw [List.count_append, heard_of_acknowledged, counted]
      rfl
    within := Nat.le_of_eq all
    asked := by
      rw [List.filterMap_append, keys_of_acknowledged]
      exact isPrefix_of_next _ List.nil_prefix
    sent := by
      rw [List.filterMap_append, frames_of_acknowledged]
      exact isPrefix_of_next _ List.nil_prefix
    few := by
      rw [List.filterMap_append, frames_of_acknowledged, List.length_append, List.length_map,
        counted]
      exact Nat.le_succ _
    fails := fun failure fails => by simpa using fails_behind fails
    blames := by
      intro progress failure ends
      cases (ended _ _ ends).2
    reported := by
      intro progress outcome ends
      rw [take_reports_of_whole all, (ended _ _ ends).1]
    succeeds := ⟨fun _ => all, fun _ => ⟨_, _, List.mem_append_right _ List.mem_cons_self⟩⟩
    delivers := by
      intro progress delivery ends
      cases (ended _ _ ends).2
      rfl }

/-- What follows on the writes that are acknowledged tells the rest of an upload. -/
theorem Ensues.written {count : Nat} {rest : List Line}
    (ensues : Ensues chunkSize path receipt data count rest) :
    Written chunkSize path receipt data count
      (exchanges (acknowledged path ((writes chunkSize data).take count)) ++ rest) := by
  cases ensues with
  | unanswered next unanswered => exact written_of_unanswered next unanswered
  | whole all => exact written_of_whole all

/-- What is told of an upload depends on how many of its writes are acknowledged. -/
theorem written_of_unfolds (positive : 0 < chunkSize) {operation : Operation}
    (begins : Transfer.begin operation = .go (.cutting path receipt data)) {lines : List Line}
    {stage : Stage} (unfolds : Unfolds chunkSize operation lines stage)
    (resting : stage.isResting = true) :
    ∃ count, Written chunkSize path receipt data count lines ∧
      ∀ progress transfer isSent, stage = .waits progress transfer isSent →
        progress = (reports chunkSize data).take (count - 1) ∧
          Writing chunkSize path receipt data count (.go transfer) := by
  obtain ⟨exchanged, progress, turn, rest, reaches, follows, rfl⟩ := unfolds.exchanged
  obtain ⟨count, writing, rfl, rfl⟩ := sent_of_reaches positive begins reaches
  refine ⟨count, ?_⟩
  cases follows with
  | comes => cases resting
  | fails => cases resting
  | waits wanted isSent =>
    obtain ⟨piece, next, wantedToo⟩ := writing.wants
    cases wanted.symm.trans wantedToo
    exact ⟨(Ensues.unanswered next (.waits isSent)).written, by
      rintro _ _ _ ⟨⟩
      exact ⟨rfl, writing⟩⟩
  | failed wanted isSent failure =>
    obtain ⟨piece, next, wantedToo⟩ := writing.wants
    cases wanted.symm.trans wantedToo
    exact ⟨(Ensues.unanswered next (.failed isSent failure)).written, by rintro _ _ _ ⟨⟩⟩
  | refused refused =>
    obtain ⟨piece, _, wanted⟩ := writing.wants
    cases wanted.symm.trans refused
  | stopped outcome =>
    cases writing
    have all : slices chunkSize data + 1 = (writes chunkSize data).length :=
      (length_writes chunkSize data).symm
    rw [take_reports_of_whole all]
    exact ⟨(Ensues.whole all).written, by rintro _ _ _ ⟨⟩⟩

end Upload

end RemoteAgent
