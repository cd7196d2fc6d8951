import RemoteAgent.Proofs.Client.Overruns
import RemoteAgent.Proofs.Client.Writes

/-!
# Offsets are true counts

Transfers count octets in words of 64 bits, and nothing checks these sums for a carry. None is lost:
a download is given a piece only where it has asked for one, and offsets with their highest bit set are
never asked for, so that offset and piece stay below two to the power of 64 together
(`Download.InRange`). A download that comes to such an offset fails, whatever sizes and pieces the agent
has made up. The offsets of an upload end with its data (`Upload.InRange`).
-/

namespace RemoteAgent

open Chunk

/-- The piece that a line hears. -/
def Line.piece? : Line → Option Chunk
  | .hears (.ok (.chunk piece)) => some piece
  | _ => none

/-- The pieces that a transcript tells of. -/
def piecesOf (lines : List Line) : List Chunk := lines.filterMap Line.piece?

theorem toNat_ofNat_of_low {number : Nat} (low : number < 0x8000000000000000) :
    (UInt64.ofNat number).toNat = number :=
  UInt64.toNat_ofNat_of_lt' (Nat.lt_trans low (by decide))

/-- Two numbers below the sign of a word have a sum that the word can hold. -/
theorem Transfer.toNat_add_count_of_lt {offset : UInt64} {data : Bytes}
    (low : offset.toNat < 0x8000000000000000) (short : data.length < 0x8000000000000000) :
    (offset + count data).toNat = offset.toNat + data.length := by
  have most : (0xFFFFFFFFFFFFFFFF : UInt64).toNat = 0xFFFFFFFFFFFFFFFF := rfl
  exact @toNat_add_count offset 0xFFFFFFFFFFFFFFFF data (by omega)

theorem Unanswered.piecesOf_eq_nil {want : Want} {progress : List Progress} {rest : List Line}
    (unanswered : Unanswered want progress rest) : piecesOf rest = [] := by
  rw [piecesOf, List.filterMap_eq_nil_iff]
  intro line member
  cases told : line.piece? with
  | none => rfl
  | some piece =>
    unfold Line.piece? at told
    split at told
    · exact absurd member (unanswered.not_hears _)
    · cases told

/-! ## Downloads -/

namespace Download

variable {chunkSize : UInt64} {path : String} {destination : Destination} {info : FileInfo}
  {chunks : List Chunk} {lines rest : List Line}

/-- What a download has counted while it waits for a piece. -/
structure Counts (pieces : List Chunk) (received : Bytes) (offset : UInt64) : Prop where
  octets : received = joined pieces
  counted : offset.toNat = (joined pieces).length
  inRange : offset.toNat < 0x8000000000000000
  /-- Whatever piece comes, it is counted without a carry. -/
  adds : ∀ piece : Chunk, piece.data.length < 0x8000000000000000 →
    (offset + Transfer.count piece.data).toNat = offset.toNat + piece.data.length

/-- The offsets in the transcript of a download are true counts of octets. -/
structure InRange (chunkSize : UInt64) (path : String) (lines : List Line) : Prop where
  /-- Each piece came for an offset below the sign, and was counted without a carry. -/
  added : ∀ place ∈ placed 0 (piecesOf lines), place.1 < 0x8000000000000000 ∧
    (UInt64.ofNat place.1 + Transfer.count place.2.data).toNat = place.1 + place.2.data.length
  /-- The offsets on the wire are the numbers of octets that came before, so none is negative. -/
  sent : ∃ offsets : List Int64,
    offsets.map Int64.toInt <+: (sums (piecesOf lines)).map Int.ofNat ∧
      lines.filterMap Line.frame? <+: (Outbound.queryFile path).encode ::
        offsets.map fun offset => (Outbound.readChunk path offset chunkSize).encode
  /-- A download that needs an offset beyond the sign has failed, and asked for pieces only that came. -/
  beyond : ∀ info, .hears (.ok (.info info)) ∈ lines →
    (∀ piece ∈ piecesOf lines, piece.data ≠ []) →
    0x8000000000000000 ≤ (joined (piecesOf lines)).length →
    (joined (piecesOf lines)).length < info.size.toNat →
      (∃ progress offset, offset.toNat = (joined (piecesOf lines)).length ∧
        lines.getLast? = some (.ends progress (.error (.protocol (.offsetOutOfRange offset))))) ∧
      (lines.filterMap Line.frame?).length = (piecesOf lines).length + 1

/-- The count of a download that waits for a piece is far from a carry. -/
theorem Waiting.counts {transfer : Transfer}
    (waiting : Waiting path destination info chunks transfer) {other : FileInfo} {received : Bytes}
    {offset : UInt64} (next : transfer = .receiving path destination other received offset) :
    Counts chunks received offset := by
  obtain ⟨same, inRange⟩ := waiting
  rw [next] at same
  cases same
  have counted := toNat_ofNat_of_low inRange
  exact ⟨rfl, counted, by rwa [counted], fun piece short =>
    Transfer.toNat_add_count_of_lt (by rwa [counted]) short⟩

/-- Behind the pieces that a download has taken, none is told of. -/
theorem Ensues.piecesOf_eq_nil (ensues : Ensues chunkSize path destination info chunks rest) :
    piecesOf rest = [] := by
  cases ensues with
  | unanswered wanting inRange unanswered => exact unanswered.piecesOf_eq_nil
  | beyond => rfl
  | whole => rfl

/-- The pieces that were fetched, by the transcript. -/
theorem piecesOf_fetches (chunkSize : UInt64) (path : String) (info : FileInfo)
    (chunks : List Chunk) :
    piecesOf (exchanges ((Want.info path, .info info) :: fetches chunkSize path chunks)) = chunks := by
  have heard : ∀ places : List (Nat × Chunk), piecesOf (exchanges (places.map fun place =>
      (Want.piece chunkSize path place.1, .chunk place.2))) = places.map (·.2) := by
    intro places
    induction places with
    | nil => rfl
    | cons place later inductionHypothesis => exact congrArg (place.2 :: ·) inductionHypothesis
  exact (heard (placed 0 chunks)).trans (placed_map_snd 0 chunks)

/-- What ensues behind the pieces that were fetched has no further piece. -/
theorem Ensues.piecesOf_eq (ensues : Ensues chunkSize path destination info chunks rest) :
    piecesOf (exchanges ((Want.info path, .info info) :: fetches chunkSize path chunks) ++ rest) =
      chunks := by
  have nothing := ensues.piecesOf_eq_nil
  have taken := piecesOf_fetches chunkSize path info chunks
  unfold piecesOf at nothing taken ⊢
  rw [List.filterMap_append, nothing, taken, List.append_nil]

/-- The metadata come once. -/
theorem Ensues.info_eq (ensues : Ensues chunkSize path destination info chunks rest)
    {other : FileInfo} (heard : .hears (.ok (.info other)) ∈
      exchanges ((Want.info path, .info info) :: fetches chunkSize path chunks) ++ rest) :
    other = info := by
  have early : .hears (.ok (.info other)) ∈
      exchanges ((Want.info path, .info info) :: fetches chunkSize path chunks) := by
    refine (List.mem_append.mp heard).resolve_right fun late => ?_
    cases ensues with
    | unanswered wanting inRange unanswered => exact unanswered.not_hears _ late
    | beyond => simp at late
    | whole => simp at late
  simpa [exchanges, fetches, Want.told] using early

/-- A download with more to want, but out of reach, has failed. -/
theorem Ensues.eq_beyond (ensues : Ensues chunkSize path destination info chunks rest)
    (wanting : Wanting info chunks) (far : 0x8000000000000000 ≤ (joined chunks).length) :
    rest = [.ends (reports info.size chunks)
      (.error (.protocol (.offsetOutOfRange (UInt64.ofNat (joined chunks).length))))] := by
  cases ensues with
  | unanswered _ inRange => exact absurd inRange (Nat.not_lt.mpr far)
  | beyond => rfl
  | whole enough =>
    rcases enough with reached | ⟨last, final, empty⟩
    · exact absurd wanting.short (Nat.not_lt.mpr reached)
    · exact absurd empty (wanting.notEmpty last (List.mem_of_getLast? final))

/-- Whatever pieces a download has taken, its offsets are the true counts. -/
theorem Taken.inRange (taken : Taken info chunks)
    (ensues : Ensues chunkSize path destination info chunks rest)
    (short : ∀ chunk ∈ chunks, chunk.data.length < 0x8000000000000000) :
    InRange chunkSize path
      (exchanges ((Want.info path, .info info) :: fetches chunkSize path chunks) ++ rest) where
  added := by
    rw [ensues.piecesOf_eq]
    intro place member
    have low := (taken.inside place member).2
    have counted := toNat_ofNat_of_low low
    have piece : place.2 ∈ chunks := placed_map_snd 0 chunks ▸ List.mem_map_of_mem member
    refine ⟨low, ?_⟩
    rw [Transfer.toNat_add_count_of_lt (by rwa [counted]) (short _ piece), counted]
  sent := by
    rw [ensues.piecesOf_eq]
    obtain ⟨offsets, fetched⟩ := ensues.fetched taken
    obtain ⟨unsent, _, sent⟩ := fetched.sent
    refine ⟨offsets.map Int64.ofNat, ?_, ?_⟩
    · have shown : (offsets.map Int64.ofNat).map Int64.toInt = offsets.map Int.ofNat := by
        rw [List.map_map]
        exact List.map_congr_left fun offset member =>
          Int64.toInt_ofNat_of_lt (fetched.inside offset member).2
      rw [shown]
      exact fetched.sums.map Int.ofNat
    · rw [List.map_map]
      exact ⟨unsent, sent⟩
  beyond := by
    rw [ensues.piecesOf_eq]
    intro other heard notEmpty far more
    obtain rfl := ensues.info_eq heard
    obtain rfl := ensues.eq_beyond ⟨more, notEmpty⟩ far
    refine ⟨⟨_, _, ?_, List.getLast?_concat⟩, ?_⟩
    · exact UInt64.toNat_ofNat_of_lt' (Nat.lt_trans more other.size.toNat_lt)
    · have places : (placed 0 chunks).length = chunks.length := by
        rw [← @List.length_map _ _ (placed 0 chunks) (·.2), placed_map_snd]
      rw [List.filterMap_append, frames_of_exchanges]
      simp [Line.frame?, fetches, places]

/-- Before the metadata come, nothing is counted. -/
theorem inRange_of_unanswered (unanswered : Unanswered (Want.info path) [] lines) :
    InRange chunkSize path lines := by
  have nothing := unanswered.piecesOf_eq_nil
  obtain ⟨unsent, _, sent⟩ := unanswered.frames
  refine ⟨by simp [nothing, placed], ⟨[], List.nil_prefix, unsent, sent⟩, ?_⟩
  intro info heard
  exact absurd heard (unanswered.not_hears _)

end Download

/-! ## Uploads -/

namespace Upload

variable {chunkSize : UInt64} {path : String} {receipt : Receipt} {data : Bytes} {lines : List Line}

/-- What an upload has counted while it waits for the acknowledgement of a slice. -/
structure Counts (chunkSize : UInt64) (data : Bytes) (total offset : UInt64) (remaining : Bytes) :
    Prop where
  whole : total.toNat = data.length
  inside : offset.toNat < data.length
  /-- What is left begins at the offset. -/
  left : remaining = data.drop offset.toNat
  /-- The slice is counted without a carry. -/
  adds : (offset + Transfer.count (remaining.take chunkSize.toNat)).toNat =
    offset.toNat + (remaining.take chunkSize.toNat).length

/-- The offsets in the transcript of an upload are true counts of octets, none beyond the data. -/
structure InRange (chunkSize : UInt64) (path : String) (data : Bytes) (lines : List Line) : Prop where
  /-- The file is cut where the data end. -/
  cut : (Transfer.count data).toNat = data.length
  /-- Behind the cut, each slice stands at the number of octets in the slices before it. -/
  sent : ∃ pieces : List Chunk, joined pieces = data ∧
    (pieces.map fun piece => piece.offset.toNat) = (placed 0 pieces).map (·.1) ∧
    (∀ piece ∈ pieces, piece.offset.toNat + piece.data.length ≤ data.length) ∧
    lines.filterMap Line.frame? <+:
      (Outbound.writeChunk path ⟨Transfer.count data, []⟩).encode ::
        pieces.map fun piece => (Outbound.writeChunk path piece).encode

/-- The offset of a slice as a number. -/
theorem toNat_offset_slice (positive : 0 < chunkSize) (fits : data.length < UInt64.size) {index : Nat}
    (more : index < slices chunkSize data) :
    (slice chunkSize data index).offset.toNat = index * chunkSize.toNat :=
  UInt64.toNat_ofNat_of_lt' (Nat.lt_trans ((lt_slices_iff positive index).mp more) fits)

/-- A slice ends within the data. -/
theorem end_slice_le (positive : 0 < chunkSize) (fits : data.length < UInt64.size) {index : Nat}
    (more : index < slices chunkSize data) :
    (slice chunkSize data index).offset.toNat + (slice chunkSize data index).data.length ≤
      data.length := by
  have inside := (lt_slices_iff positive index).mp more
  rw [toNat_offset_slice positive fits more, slice, List.length_take, List.length_drop]
  omega

/-- The first slices stand one behind the other. -/
theorem offsets_slices (positive : 0 < chunkSize) (fits : data.length < UInt64.size) {count : Nat}
    (within : count ≤ slices chunkSize data) :
    (((List.range count).map (slice chunkSize data)).map fun piece => piece.offset.toNat) =
      (placed 0 ((List.range count).map (slice chunkSize data))).map (·.1) := by
  induction count with
  | zero => rfl
  | succ count inductionHypothesis =>
    have before := (lt_slices_iff positive count).mp within
    have octets : (joined ((List.range count).map (slice chunkSize data))).length =
        count * chunkSize.toNat := by
      rw [joined, flatMap_slice, List.length_take, Nat.min_eq_left (Nat.le_of_lt before)]
    rw [List.range_succ, List.map_append, List.map_append, inductionHypothesis (Nat.le_of_lt within),
      List.map_singleton, placed_concat, List.map_append, octets, Nat.zero_add]
    simp [toNat_offset_slice positive fits within]

/-- The count of an upload that waits for a slice is that of what is acknowledged. -/
theorem Writing.counts (positive : 0 < chunkSize) (fits : data.length < UInt64.size) {count : Nat}
    {transfer : Transfer} (writing : Writing chunkSize path receipt data count (.go transfer))
    {other : Receipt} {total offset : UInt64} {remaining : Bytes}
    (next : transfer = .sending path other total offset remaining) :
    Counts chunkSize data total offset remaining := by
  subst next
  cases writing with
  | @sending index more =>
    have inside := (lt_slices_iff positive index).mp more
    have counted := toNat_offset_slice positive fits more
    have ends := end_slice_le positive fits more
    dsimp only [slice] at counted ends
    refine ⟨UInt64.toNat_ofNat_of_lt' fits, by rwa [counted], by rw [counted], ?_⟩
    have within : (Transfer.count data).toNat = data.length := UInt64.toNat_ofNat_of_lt' fits
    exact Transfer.toNat_add_count (within ▸ ends)

/-- Whatever is acknowledged, the offsets of an upload are the true counts. -/
theorem Written.inRange (positive : 0 < chunkSize) (fits : data.length < UInt64.size) {count : Nat}
    (written : Written chunkSize path receipt data count lines) :
    InRange chunkSize path data lines where
  cut := UInt64.toNat_ofNat_of_lt' fits
  sent := by
    refine ⟨(List.range (slices chunkSize data)).map (slice chunkSize data), ?_,
      offsets_slices positive fits (Nat.le_refl _), ?_, written.sent⟩
    · exact joined_writes positive data
    · intro piece member
      obtain ⟨index, more, rfl⟩ := List.mem_map.mp member
      exact end_slice_le positive fits (List.mem_range.mp more)

end Upload

/-! ## Calls -/

namespace Client

variable {config : Config} {client : Client}

/-- No offset of a download has ever wrapped around, and the next one cannot. -/
structure ReadsInRange (client : Client) (number : Nat) (path : String) (destination : Destination) :
    Prop where
  told : Download.InRange client.config.chunkSize path (transcript number client.trace)
  running : ∀ call ∈ client.calls, call.number = number → ∀ info received offset,
    call.transfer = .receiving path destination info received offset →
      Download.Counts (piecesOf (transcript number client.trace)) received offset

/-- No offset of an upload has ever wrapped around, and the next one cannot. -/
structure WritesInRange (client : Client) (number : Nat) (path : String) (data : Bytes) : Prop where
  told : Upload.InRange client.config.chunkSize path data (transcript number client.trace)
  running : ∀ call ∈ client.calls, call.number = number → ∀ receipt total offset remaining,
    call.transfer = .sending path receipt total offset remaining →
      Upload.Counts client.config.chunkSize data total offset remaining

/-- In every run, a download asks for pieces at offsets in range. -/
theorem Reachable.readsInRange (reachable : Reachable config client) {number : Nat} {path : String}
    {destination : Destination}
    (started : .started number (.download path destination) ∈ client.trace)
    (short : ∀ chunk, .hears (.ok (.chunk chunk)) ∈ transcript number client.trace →
      chunk.data.length < 0x8000000000000000) :
    client.ReadsInRange number path destination := by
  rcases reachable.takes started short with ⟨unanswered, waits⟩ |
    ⟨info, chunks, rest, lines, taken, ensues, waits⟩
  · refine ⟨Download.inRange_of_unanswered unanswered, ?_⟩
    intro call member own info received offset next
    rw [(waits call member own).2] at next
    cases next
  · have few : ∀ chunk ∈ chunks, chunk.data.length < 0x8000000000000000 := fun chunk member =>
      short chunk (lines ▸ List.mem_append_left _ (heard_of_taken member))
    refine ⟨lines ▸ taken.inRange ensues few, ?_⟩
    intro call member own other received offset next
    rw [lines, ensues.piecesOf_eq]
    exact (waits call member own).2.counts next

/-- In every run, an upload writes at offsets in range. -/
theorem Reachable.writesInRange (reachable : Reachable config client) (positive : 0 < config.chunkSize)
    {number : Nat} {operation : Operation} {path : String} {receipt : Receipt} {data : Bytes}
    (begins : Transfer.begin operation = .go (.cutting path receipt data))
    (started : .started number operation ∈ client.trace) (fits : data.length < UInt64.size) :
    client.WritesInRange number path data := by
  obtain ⟨stage, resting, unfolds, waits⟩ := reachable.unfolds started
  rw [← reachable.config] at unfolds positive
  obtain ⟨count, written, some⟩ := Upload.written_of_unfolds positive begins unfolds resting
  refine ⟨written.inRange positive fits, ?_⟩
  intro call member own other total offset remaining next
  obtain ⟨isSent, rfl⟩ := waits call member own
  exact (some _ _ _ rfl).2.counts positive fits next

/-- Whatever sizes and pieces come in, no offset of a transfer wraps around: each is the true number of
octets before it. A download that needs an offset beyond the sign of the wire fails instead. Pieces are
no longer than a vector can be, and the lengths of data fit a word. -/
theorem offsets_counted {draft : Draft} {idna : Url.Idna}
    (checked : draft.check idna = .ok config) (reachable : Reachable config client) :
    (∀ {number path destination},
      .started number (.download path destination) ∈ client.trace →
      (∀ chunk, .hears (.ok (.chunk chunk)) ∈ transcript number client.trace →
        chunk.data.length < 0x8000000000000000) →
      client.ReadsInRange number path destination) ∧
    ∀ {number operation path receipt data},
      Transfer.begin operation = .go (.cutting path receipt data) →
      .started number operation ∈ client.trace → data.length < UInt64.size →
      client.WritesInRange number path data :=
  ⟨reachable.readsInRange, reachable.writesInRange (draft.chunkSize_pos checked)⟩

/-- Of a file of two octets one has come, and of five octets for another file the first slice is on its
way. -/
theorem offsets_counted_of_both :
    let actions : List Action := [.connect, .settle 1 .accepted, .resolve 1,
      .start (.download "a" .caller) none, .start (.upload "b" [1, 2, 3, 4, 5]) none,
      .receive 1 (.binary (Inbound.fileInfo twoOctets).encode), .poll 0,
      .receive 1 (.binary (Inbound.fileChunk "a" ⟨0, [1]⟩).encode), .poll 2,
      .receive 1 (.binary (Inbound.fileWritten "b" 5).encode), .poll 1]
    let client := (Client.initial smallPiecesChecked).run actions
    let request := Want.piece smallPiecesChecked.chunkSize "a"
    transcript 1 client.trace =
        exchanges [(Want.info "a", .info twoOctets), (request 0, .chunk ⟨0, [1]⟩)] ++
          (request 1).told true ∧
      transcript 2 client.trace = exchanges (Upload.acknowledged "b" [⟨5, []⟩]) ++
        (Want.write "b" ⟨0, [1, 2, 3, 4]⟩).told true ∧
      client.ReadsInRange 1 "a" .caller ∧ client.WritesInRange 2 "b" [1, 2, 3, 4, 5] := by
  intro actions client request
  have metadata : Inbound.decode (Inbound.fileInfo twoOctets).encode = .ok (.fileInfo twoOctets) :=
    Inbound.decode_encode_fileInfo (by decide)
  have piece : Inbound.decode (Inbound.fileChunk "a" ⟨0, [1]⟩).encode =
      .ok (.fileChunk "a" ⟨0, [1]⟩) := Inbound.decode_encode_fileChunk "a" (by decide)
  have cut : Inbound.decode (Inbound.fileWritten "b" 5).encode = .ok (.fileWritten "b" 5) :=
    Inbound.decode_encode_fileWritten "b" 5
  have reached : ∀ count, Reachable smallPiecesChecked
      ((Client.initial smallPiecesChecked).run (actions.take count)) :=
    fun _ => Reachable.initial.run _
  -- No evaluation opens the recursion that reads frames, so each reply is taken in by the lemma.
  have told : (Client.initial smallPiecesChecked).run (actions.take 6) = _ :=
    @step_receive_reply _ (reached 5).sound rfl 1 _ _ _ _ _ rfl rfl metadata rfl
  have asked : (Client.initial smallPiecesChecked).run (actions.take 7) = _ :=
    congrArg (Client.step · (.poll 0)) told
  have received : (Client.initial smallPiecesChecked).run (actions.take 8) = _ :=
    @step_receive_reply _ (reached 7).sound (by rw [asked]; rfl) 1 _ _ _ _ _ (by rw [asked]; rfl) rfl
      piece rfl
  rw [asked] at received
  have askedAgain : (Client.initial smallPiecesChecked).run (actions.take 9) = _ :=
    congrArg (Client.step · (.poll 2)) received
  have acknowledged : (Client.initial smallPiecesChecked).run (actions.take 10) = _ :=
    @step_receive_reply _ (reached 9).sound (by rw [askedAgain]; rfl) 1 _ _ _ _ _
      (by rw [askedAgain]; rfl) rfl cut rfl
  rw [askedAgain] at acknowledged
  have written : client = _ := congrArg (Client.step · (.poll 1)) acknowledged
  have started : ∀ event ∈ ((Client.initial smallPiecesChecked).run (actions.take 5)).trace,
      event ∈ client.trace := by
    intro event member
    change event ∈ ((Client.initial smallPiecesChecked).run actions).trace
    rw [← List.take_append_drop 5 actions, run_append]
    exact run_remembers (reached 5).sound _ member
  have linesOfDownload : transcript 1 client.trace =
      exchanges [(Want.info "a", .info twoOctets), (request 0, .chunk ⟨0, [1]⟩)] ++
        (request 1).told true := by
    rw [written]
    decide +kernel
  have linesOfUpload : transcript 2 client.trace =
      exchanges (Upload.acknowledged "b" [⟨5, []⟩]) ++
        (Want.write "b" ⟨0, [1, 2, 3, 4]⟩).told true := by
    rw [written]
    decide +kernel
  obtain ⟨reads, writes⟩ := offsets_counted check_smallPieces (Reachable.initial.run actions)
  have downloads := started (.started 1 (.download "a" .caller)) (@List.mem_of_getElem? _ _ 7 _ rfl)
  have uploads := started (.started 2 (.upload "b" [1, 2, 3, 4, 5]))
    (@List.mem_of_getElem? _ _ 3 _ rfl)
  refine ⟨linesOfDownload, linesOfUpload, reads downloads ?_, writes rfl uploads (by decide)⟩
  rw [linesOfDownload]
  intro chunk heard
  simp [exchanges, Want.told] at heard
  simp [heard]

end Client

end RemoteAgent
