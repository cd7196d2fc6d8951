import Mathlib.Data.List.Perm.Subperm
import RemoteAgent.Proofs.Transfer.Talks

/-!
# Piece after piece

Once a download has the metadata, it asks for one piece after the other, each where the pieces before
it end (`Chunk.placed`), and stops with the first that is empty or with which it has as many octets as
the metadata promise (`Download.Taken`, `Download.Ensues`). What the agent puts into the pieces makes
no difference: offsets cannot wrap around, since none beyond the sign of the wire is asked for
(`Download.fetching_of_reaches`).
-/

namespace RemoteAgent

namespace Chunk

/-- The octets of pieces, one piece behind the other. -/
def joined (chunks : List Chunk) : Bytes := chunks.flatMap (·.data)

/-- Pieces, each with the number of octets in front of it when they are joined behind an offset. -/
def placed : Nat → List Chunk → List (Nat × Chunk)
  | _, [] => []
  | offset, chunk :: later => (offset, chunk) :: placed (offset + chunk.data.length) later

/-- Nothing, and the numbers of octets that the pieces come to one after the other. -/
def sums (chunks : List Chunk) : List Nat :=
  chunks.scanl (fun sum chunk => sum + chunk.data.length) 0

@[simp]
theorem joined_concat (chunks : List Chunk) (chunk : Chunk) :
    joined (chunks ++ [chunk]) = joined chunks ++ chunk.data := by
  simp [joined]

theorem placed_concat (offset : Nat) (chunks : List Chunk) (chunk : Chunk) :
    placed offset (chunks ++ [chunk]) =
      placed offset chunks ++ [(offset + (joined chunks).length, chunk)] := by
  induction chunks generalizing offset with
  | nil => rfl
  | cons first later inductionHypothesis =>
    simp [placed, joined, inductionHypothesis, Nat.add_assoc]

/-- The sums are the offsets of the pieces and that of whatever comes next. -/
theorem sums_eq (chunks : List Chunk) (next : Chunk) :
    sums chunks = (placed 0 (chunks ++ [next])).map (·.1) := by
  have begun : ∀ (offset : Nat) (chunks : List Chunk),
      chunks.scanl (fun sum chunk => sum + chunk.data.length) offset =
        (placed offset (chunks ++ [next])).map (·.1) := by
    intro offset chunks
    induction chunks generalizing offset with
    | nil => rfl
    | cons first later inductionHypothesis => simp [placed, inductionHypothesis]
  exact begun 0 chunks

theorem placed_map_snd (offset : Nat) (chunks : List Chunk) :
    (placed offset chunks).map (·.2) = chunks := by
  induction chunks generalizing offset with
  | nil => rfl
  | cons chunk later inductionHypothesis => exact congrArg (chunk :: ·) (inductionHypothesis _)

theorem le_of_placed {offset : Nat} {chunks : List Chunk} {place : Nat × Chunk}
    (member : place ∈ placed offset chunks) : offset ≤ place.1 := by
  induction chunks generalizing offset with
  | nil => cases member
  | cons chunk later inductionHypothesis =>
    rcases List.mem_cons.mp member with rfl | behind
    · exact Nat.le_refl _
    · exact Nat.le_trans (Nat.le_add_right _ _) (inductionHypothesis behind)

/-- Pieces begin one behind the other as long as none but the last is empty. -/
theorem placed_ascending (offset : Nat) {chunks : List Chunk}
    (notEmpty : ∀ chunk ∈ chunks.dropLast, chunk.data ≠ []) :
    ((placed offset chunks).map (·.1)).Pairwise (· < ·) := by
  induction chunks generalizing offset with
  | nil => exact .nil
  | cons chunk later inductionHypothesis =>
    by_cases last : later = []
    · subst last
      exact List.pairwise_singleton _ _
    · rw [List.dropLast_cons_of_ne_nil last] at notEmpty
      obtain ⟨filled, others⟩ := List.forall_mem_cons.mp notEmpty
      refine List.pairwise_cons.mpr ⟨?_, inductionHypothesis _ others⟩
      intro behind member
      obtain ⟨place, placedBehind, rfl⟩ := List.mem_map.mp member
      have past := le_of_placed placedBehind
      have some := List.length_pos_iff.mpr filled
      dsimp only
      omega

/-- When every piece has as many octets as it may have, up to a size, then they come to that size, and
there are as many as needed. -/
theorem length_of_full {most size offset : Nat} {chunks : List Chunk} (positive : 0 < most)
    (start : offset ≤ size)
    (full : ∀ place ∈ placed offset chunks, place.1 < size ∧
      place.2.data.length = min most (size - place.1))
    (enough : size ≤ offset + (joined chunks).length) :
    offset + (joined chunks).length = size ∧
      chunks.length = (size - offset + most - 1) / most := by
  induction chunks generalizing offset with
  | nil =>
    have reached : offset = size := Nat.le_antisymm start enough
    subst reached
    exact ⟨rfl, (Nat.div_eq_of_lt (by omega)).symm⟩
  | cons chunk later inductionHypothesis =>
    obtain ⟨⟨more, length⟩, others⟩ := List.forall_mem_cons.mp full
    have joins : (joined (chunk :: later)).length = chunk.data.length + (joined later).length := by
      simp [joined]
    dsimp only at more length
    rw [joins] at enough ⊢
    obtain ⟨total, count⟩ := @inductionHypothesis (offset + chunk.data.length) (by omega) others
      (by omega)
    refine ⟨by omega, ?_⟩
    rw [List.length_cons, count]
    by_cases last : size - offset ≤ most
    · rw [show size - (offset + chunk.data.length) + most - 1 = most - 1 by omega,
        Nat.div_eq_of_lt (by omega), show size - offset + most - 1 = size - offset - 1 + most by omega,
        Nat.add_div_right _ positive, Nat.div_eq_of_lt (by omega)]
    · rw [show size - offset + most - 1 = size - (offset + chunk.data.length) + most - 1 + most by
        omega, Nat.add_div_right _ positive]

end Chunk

open Chunk

/-! ## The requests of a download -/

/-- The request for the piece at an offset. -/
def Want.piece (chunkSize : UInt64) (path : String) (offset : Nat) : Want :=
  ⟨.read path (UInt64.ofNat offset), .readChunk path (Int64.ofNat offset) chunkSize, .chunk⟩

/-- The next piece is asked for as long as its offset is short of the sign. -/
theorem Want.read_eq_piece {chunkSize : UInt64} {path : String} {offset : Nat} {want : Want}
    (fits : offset < UInt64.size)
    (wanted : Want.read path (UInt64.ofNat offset) chunkSize = .ok want) :
    offset < 0x8000000000000000 ∧ want = Want.piece chunkSize path offset := by
  unfold Want.read at wanted
  split at wanted
  · next inside =>
    cases wanted
    rw [UInt64.toNat_ofNat_of_lt' fits] at inside
    exact ⟨inside, rfl⟩
  · cases wanted

/-- A piece whose offset is not short of the sign cannot be asked for. -/
theorem Want.read_eq_error {chunkSize : UInt64} {path : String} {offset : Nat} {failure : Failure}
    (fits : offset < UInt64.size)
    (refused : Want.read path (UInt64.ofNat offset) chunkSize = .error failure) :
    0x8000000000000000 ≤ offset ∧
      failure = .protocol (.offsetOutOfRange (UInt64.ofNat offset)) := by
  unfold Want.read at refused
  split at refused
  · cases refused
  · next beyond =>
    cases refused
    rw [UInt64.toNat_ofNat_of_lt' fits] at beyond
    exact ⟨Nat.not_lt.mp beyond, rfl⟩

namespace Download

variable {chunkSize : UInt64} {path : String} {destination : Destination} {info : FileInfo}
  {chunks : List Chunk}

/-- The requests for pieces, each where the ones before it end, with these as the replies. -/
def fetches (chunkSize : UInt64) (path : String) (chunks : List Chunk) : List (Want × Reply) :=
  (placed 0 chunks).map fun place => (Want.piece chunkSize path place.1, .chunk place.2)

/-- The progress with each piece that is not empty, out of a size. -/
def reports (size : UInt64) (chunks : List Chunk) : List Progress :=
  ((placed 0 chunks).filter fun place => !place.2.data.isEmpty).map fun place =>
    ⟨UInt64.ofNat (place.1 + place.2.data.length), size⟩

/-- A download that has taken these pieces goes on to the next. -/
structure Wanting (info : FileInfo) (chunks : List Chunk) : Prop where
  short : (joined chunks).length < info.size.toNat
  notEmpty : ∀ chunk ∈ chunks, chunk.data ≠ []

/-- Pieces that a download took one after the other: each was asked for while the ones before it fell
short of the size, and none of these was empty. -/
structure Taken (info : FileInfo) (chunks : List Chunk) : Prop where
  inside : ∀ place ∈ placed 0 chunks, place.1 < info.size.toNat ∧ place.1 < 0x8000000000000000
  /-- No count of octets wraps around. -/
  counted : ∀ place ∈ placed 0 chunks, place.1 + place.2.data.length < UInt64.size
  notEmpty : ∀ chunk ∈ chunks.dropLast, chunk.data ≠ []

/-- A download need not go on. -/
def Enough (info : FileInfo) (chunks : List Chunk) : Prop :=
  info.size.toNat ≤ (joined chunks).length ∨ ∃ chunk, chunks.getLast? = some chunk ∧ chunk.data = []

/-- Where a download can have come, by the pieces that it has taken. -/
inductive Fetching (chunkSize : UInt64) (path : String) (destination : Destination) :
    List (Want × Reply) → List Progress → Transfer.Turn → Prop where
  /-- It waits for the metadata. -/
  | sizing : Fetching chunkSize path destination [] [] (.go (.sizing path destination))
  /-- It goes on to the next piece. -/
  | receiving {info : FileInfo} {chunks : List Chunk} (taken : Taken info chunks)
      (wanting : Wanting info chunks) :
      Fetching chunkSize path destination
        ((Want.info path, .info info) :: fetches chunkSize path chunks) (reports info.size chunks)
        (.go (.receiving path destination info (joined chunks)
          (UInt64.ofNat (joined chunks).length)))
  /-- It has got what there is. -/
  | stops {info : FileInfo} {chunks : List Chunk} (taken : Taken info chunks)
      (enough : Enough info chunks) :
      Fetching chunkSize path destination
        ((Want.info path, .info info) :: fetches chunkSize path chunks) (reports info.size chunks)
        (.stop (Transfer.store ⟨info, joined chunks⟩ destination))

theorem fetches_concat (chunkSize : UInt64) (path : String) (chunks : List Chunk) (chunk : Chunk) :
    fetches chunkSize path (chunks ++ [chunk]) = fetches chunkSize path chunks ++
      [(Want.piece chunkSize path (joined chunks).length, .chunk chunk)] := by
  simp [fetches, placed_concat]

theorem reports_concat (size : UInt64) (chunks : List Chunk) (chunk : Chunk) :
    reports size (chunks ++ [chunk]) = reports size chunks ++
      if chunk.data = [] then []
      else [⟨UInt64.ofNat (joined (chunks ++ [chunk])).length, size⟩] := by
  by_cases empty : chunk.data = [] <;> simp [reports, placed_concat, empty]

/-- Pieces that left something to want, with one more that was asked for within reach. -/
theorem Wanting.taken (wanting : Wanting info chunks) (taken : Taken info chunks)
    (inRange : (joined chunks).length < 0x8000000000000000) {chunk : Chunk}
    (short : chunk.data.length < 0x8000000000000000) :
    Taken info (chunks ++ [chunk]) where
  inside := by
    intro place member
    rw [placed_concat] at member
    rcases List.mem_append.mp member with old | new
    · exact taken.inside place old
    · rw [List.mem_singleton.mp new]
      simpa using ⟨wanting.short, inRange⟩
  counted := by
    intro place member
    rw [placed_concat] at member
    rcases List.mem_append.mp member with old | new
    · exact taken.counted place old
    · rw [List.mem_singleton.mp new]
      change 0 + (joined chunks).length + chunk.data.length < 2 ^ 64
      omega
  notEmpty := by
    rw [List.dropLast_concat]
    exact wanting.notEmpty

/-- A download that has taken pieces, none of them empty, goes on or has enough. -/
theorem fetching_receive (taken : Taken info chunks) (notEmpty : ∀ chunk ∈ chunks, chunk.data ≠ [])
    (fits : (joined chunks).length < UInt64.size) :
    Fetching chunkSize path destination
      ((Want.info path, .info info) :: fetches chunkSize path chunks) (reports info.size chunks)
      (Transfer.receive path destination info (joined chunks)
        (UInt64.ofNat (joined chunks).length)) := by
  have compares : UInt64.ofNat (joined chunks).length < info.size ↔
      (joined chunks).length < info.size.toNat := by
    rw [UInt64.lt_iff_toNat_lt, UInt64.toNat_ofNat_of_lt' fits]
  unfold Transfer.receive
  split
  · next more => exact .receiving taken ⟨compares.mp more, notEmpty⟩
  · next reached => exact .stops taken (.inl (Nat.not_lt.mp fun more => reached (compares.mpr more)))

/-- A reply brings a download to where it goes on or has enough. -/
theorem Fetching.resume {exchanged : List (Want × Reply)} {progress : List Progress}
    {transfer : Transfer} {want : Want} {reply : Reply}
    (fetching : Fetching chunkSize path destination exchanged progress (.go transfer))
    (wanted : transfer.wants chunkSize = .ok want) (fits : reply.kind = want.awaits)
    (short : ∀ chunk, reply = .chunk chunk → chunk.data.length < 0x8000000000000000) :
    Fetching chunkSize path destination (exchanged ++ [(want, reply)])
      (progress ++ (transfer.resume chunkSize reply).1.toList)
      (transfer.resume chunkSize reply).2 := by
  cases fetching with
  | sizing =>
    cases wanted
    cases reply with
    | info info =>
      have nothing : Taken info [] := ⟨by simp [placed], by simp [placed], by simp⟩
      exact fetching_receive nothing (by simp) (by decide)
    | _ => cases fits
  | @receiving info chunks taken wanting =>
    obtain ⟨inRange, rfl⟩ :=
      Want.read_eq_piece (Nat.lt_trans wanting.short info.size.toNat_lt) wanted
    cases reply with
    | chunk chunk =>
      have further := wanting.taken taken inRange (short chunk rfl)
      have joins := joined_concat chunks chunk
      rw [List.cons_append, ← fetches_concat]
      by_cases empty : chunk.data = []
      · have same : joined (chunks ++ [chunk]) = joined chunks := by rw [joins, empty, List.append_nil]
        have stops := @Fetching.stops chunkSize path destination info _ further
          (.inr ⟨chunk, List.getLast?_concat, empty⟩)
        rw [reports_concat, if_pos empty, same] at stops
        simpa [Transfer.resume, empty] using stops
      · have length : (joined (chunks ++ [chunk])).length < UInt64.size := by
          have := short chunk rfl
          rw [joins, List.length_append]
          change _ < 2 ^ 64
          omega
        have reached : UInt64.ofNat (joined chunks).length + Transfer.count chunk.data =
            UInt64.ofNat (joined (chunks ++ [chunk])).length := by
          rw [joins, List.length_append, UInt64.ofNat_add, Transfer.count]
        have goesOn := @fetching_receive chunkSize path destination info _ further (by
          simpa [or_imp, forall_and] using ⟨wanting.notEmpty, empty⟩) length
        rw [reports_concat, if_neg empty] at goesOn
        simpa [Transfer.resume, empty, reached, joins] using goesOn
    | _ => cases fits

/-- A download takes one piece after the other, whatever they are. -/
theorem fetching_of_reaches {exchanged : List (Want × Reply)} {progress : List Progress}
    {turn : Transfer.Turn}
    (reaches : Transfer.Reaches chunkSize (.download path destination) exchanged progress turn)
    (short : ∀ pair ∈ exchanged, ∀ chunk, pair.2 = .chunk chunk →
      chunk.data.length < 0x8000000000000000) :
    Fetching chunkSize path destination exchanged progress turn := by
  induction reaches with
  | begins => exact .sizing
  | resumes _ wanted fits inductionHypothesis =>
    have before := inductionHypothesis fun pair member => short pair (List.mem_append_left _ member)
    exact before.resume wanted fits (short _ (List.mem_append_right _ (List.mem_singleton.mpr rfl)))

/-! ## What is told of a download -/

/-- What is told of a download behind the pieces that it has taken. -/
inductive Ensues (chunkSize : UInt64) (path : String) (destination : Destination) (info : FileInfo)
    (chunks : List Chunk) : List Line → Prop where
  /-- It has asked for the next piece, which has not come or does not. -/
  | unanswered {rest : List Line} (wanting : Wanting info chunks)
      (inRange : (joined chunks).length < 0x8000000000000000)
      (unanswered : Unanswered (Want.piece chunkSize path (joined chunks).length)
        (reports info.size chunks) rest) :
      Ensues chunkSize path destination info chunks rest
  /-- It has failed, since the next piece is out of reach. -/
  | beyond (wanting : Wanting info chunks) (far : 0x8000000000000000 ≤ (joined chunks).length) :
      Ensues chunkSize path destination info chunks
        [.ends (reports info.size chunks)
          (.error (.protocol (.offsetOutOfRange (UInt64.ofNat (joined chunks).length))))]
  /-- It has ended with what it got. -/
  | whole (enough : Enough info chunks) :
      Ensues chunkSize path destination info chunks
        [.ends (reports info.size chunks) (Transfer.store ⟨info, joined chunks⟩ destination)]

/-- A download that has taken pieces waits for the next one, whose offset is within reach. -/
structure Waiting (path : String) (destination : Destination) (info : FileInfo)
    (chunks : List Chunk) (transfer : Transfer) : Prop where
  next : transfer =
    .receiving path destination info (joined chunks) (UInt64.ofNat (joined chunks).length)
  inRange : (joined chunks).length < 0x8000000000000000

/-- A download is told to have taken one piece after the other, and what then follows. -/
theorem takes_of_unfolds {lines : List Line} {stage : Stage}
    (unfolds : Unfolds chunkSize (.download path destination) lines stage)
    (resting : stage.isResting = true)
    (short : ∀ chunk, .hears (.ok (.chunk chunk)) ∈ lines →
      chunk.data.length < 0x8000000000000000) :
    (Unanswered (Want.info path) [] lines ∧
        ∀ progress transfer isSent, stage = .waits progress transfer isSent →
          progress = [] ∧ transfer = .sizing path destination) ∨
      ∃ info chunks rest,
        lines = exchanges ((Want.info path, .info info) :: fetches chunkSize path chunks) ++ rest ∧
        Taken info chunks ∧ Ensues chunkSize path destination info chunks rest ∧
        ∀ progress transfer isSent, stage = .waits progress transfer isSent →
          progress = reports info.size chunks ∧ Waiting path destination info chunks transfer := by
  obtain ⟨exchanged, progress, turn, rest, reaches, follows, rfl⟩ := unfolds.exchanged
  have fetching := fetching_of_reaches reaches fun pair member chunk holds =>
    short chunk (List.mem_append_left _ (holds ▸ heard_of_exchanges member))
  cases fetching with
  | sizing =>
    refine .inl ?_
    cases follows with
    | waits wanted isSent =>
      cases wanted
      exact ⟨.waits isSent, by rintro _ _ _ ⟨⟩; exact ⟨rfl, rfl⟩⟩
    | failed wanted isSent failure =>
      cases wanted
      exact ⟨.failed isSent failure, by rintro _ _ _ ⟨⟩⟩
    | refused refused => cases refused
    | _ => cases resting
  | @receiving info chunks taken wanting =>
    refine .inr ⟨info, chunks, rest, rfl, taken, ?_⟩
    have fits := Nat.lt_trans wanting.short info.size.toNat_lt
    cases follows with
    | waits wanted isSent =>
      obtain ⟨inRange, rfl⟩ := Want.read_eq_piece fits wanted
      exact ⟨.unanswered wanting inRange (.waits isSent), by
        rintro _ _ _ ⟨⟩
        exact ⟨rfl, rfl, inRange⟩⟩
    | failed wanted isSent failure =>
      obtain ⟨inRange, rfl⟩ := Want.read_eq_piece fits wanted
      exact ⟨.unanswered wanting inRange (.failed isSent failure), by rintro _ _ _ ⟨⟩⟩
    | refused refused =>
      obtain ⟨far, rfl⟩ := Want.read_eq_error fits refused
      exact ⟨.beyond wanting far, by rintro _ _ _ ⟨⟩⟩
    | _ => cases resting
  | @stops info chunks taken enough =>
    refine .inr ⟨info, chunks, rest, rfl, taken, ?_⟩
    cases follows with
    | stopped => exact ⟨.whole enough, by rintro _ _ _ ⟨⟩⟩
    | comes => cases resting

/-! ## The requests, all in all -/

/-- Every piece has as many octets as it may have, up to the size. -/
def Full (chunkSize size : UInt64) (chunks : List Chunk) : Prop :=
  ∀ place ∈ placed 0 chunks, place.2.data.length = min chunkSize.toNat (size.toNat - place.1)

/-- A download got as many octets as promised, with no more requests than that takes. -/
structure Whole (chunkSize size : UInt64) (chunks : List Chunk) (offsets : List Nat)
    (progress : List Progress) : Prop where
  requests : offsets.length = (size.toNat + chunkSize.toNat - 1) / chunkSize.toNat
  length : (joined chunks).length = size.toNat
  last : 0 < size → progress.getLast? = some ⟨size, size⟩

/-- What is told of a download that has the metadata, by the pieces that it took and the offsets that
it asked for. -/
structure Fetched (chunkSize : UInt64) (path : String) (destination : Destination) (info : FileInfo)
    (chunks : List Chunk) (offsets : List Nat) (lines : List Line) : Prop where
  /-- Piece after piece came, each asked for where those before it end. What follows depends on them. -/
  talk : ∃ rest,
    lines = exchanges ((Want.info path, .info info) :: fetches chunkSize path chunks) ++ rest ∧
      Ensues chunkSize path destination info chunks rest
  /-- There was something to want before each piece. -/
  taken : Taken info chunks
  /-- The offsets are 0 and what the pieces have come to since, one sum after the other. -/
  sums : offsets <+: sums chunks
  ascending : offsets.Pairwise (· < ·)
  inside : ∀ offset ∈ offsets, offset < info.size.toNat ∧ offset < 0x8000000000000000
  few : offsets.length ≤ info.size.toNat
  asked : lines.filterMap Line.key? =
    .info path :: offsets.map fun offset => .read path (UInt64.ofNat offset)
  /-- All requests are sent, or all but the last. -/
  sent : ∃ unsent, unsent.length ≤ 1 ∧ lines.filterMap Line.frame? ++ unsent =
    (Outbound.queryFile path).encode ::
      offsets.map fun offset => (Outbound.readChunk path (Int64.ofNat offset) chunkSize).encode
  /-- With full pieces, a download that ends without a failing request has the promised size. -/
  whole : 0 < chunkSize → Full chunkSize info.size chunks →
    (∀ failure, .hears (.error failure) ∉ lines) →
    ∀ progress outcome, .ends progress outcome ∈ lines →
      (∀ offset, outcome ≠ .error (.protocol (.offsetOutOfRange offset))) →
      outcome = Transfer.store ⟨info, joined chunks⟩ destination ∧
        Whole chunkSize info.size chunks offsets progress

/-- Pieces that are asked for within a size, at ever greater offsets, are no more than it counts. -/
theorem Taken.few (taken : Taken info chunks) :
    ((placed 0 chunks).map (·.1)).length ≤ info.size.toNat := by
  have distinct := (placed_ascending 0 taken.notEmpty).imp Nat.ne_of_lt
  have inside : (placed 0 chunks).map (·.1) ⊆ List.range info.size.toNat := by
    intro offset member
    obtain ⟨place, placed, rfl⟩ := List.mem_map.mp member
    exact List.mem_range.mpr (taken.inside place placed).1
  simpa using (List.Nodup.subperm distinct inside).length_le

/-- A download that has got enough in full pieces has the promised size. -/
theorem Taken.whole (taken : Taken info chunks) (enough : Enough info chunks)
    (positive : 0 < chunkSize) (full : Full chunkSize info.size chunks) :
    Whole chunkSize info.size chunks ((placed 0 chunks).map (·.1)) (reports info.size chunks) := by
  have positiveToo : 0 < chunkSize.toNat := UInt64.lt_iff_toNat_lt.mp positive
  have filled : ∀ chunk ∈ chunks, chunk.data ≠ [] := by
    intro chunk member empty
    rw [← placed_map_snd 0 chunks] at member
    obtain ⟨place, placed, rfl⟩ := List.mem_map.mp member
    have inside := (taken.inside place placed).1
    have length := full place placed
    rw [empty, List.length_nil] at length
    omega
  have reached : info.size.toNat ≤ 0 + (joined chunks).length := by
    rcases enough with reached | ⟨chunk, last, empty⟩
    · omega
    · exact absurd empty (filled chunk (List.mem_of_getLast? last))
  obtain ⟨total, count⟩ := length_of_full positiveToo (Nat.zero_le _)
    (fun place member => ⟨(taken.inside place member).1, full place member⟩) reached
  rw [Nat.zero_add] at total
  refine ⟨?_, total, fun some => ?_⟩
  · rw [List.length_map, ← @List.length_map _ _ (placed 0 chunks) (·.2), placed_map_snd, count,
      Nat.sub_zero]
  · rcases List.eq_nil_or_concat' chunks with rfl | ⟨before, chunk, rfl⟩
    · have promised : 0 < info.size.toNat := UInt64.lt_iff_toNat_lt.mp some
      rw [← total] at promised
      cases promised
    · rw [reports_concat, if_neg (filled chunk (by simp)), total]
      simp

/-- What is told of a download in which pieces were asked for, some of which came. -/
theorem Taken.fetched {requested : List Chunk} {rest : List Line} {later : List (Nat × Chunk)}
    (taken : Taken info chunks) (ensues : Ensues chunkSize path destination info chunks rest)
    (within : Taken info requested) (places : placed 0 requested = placed 0 chunks ++ later)
    (sums : (placed 0 requested).map (·.1) <+: sums chunks)
    (asked : rest.filterMap Line.key? = later.map fun place => .read path (UInt64.ofNat place.1))
    (sent : ∃ unsent, unsent.length ≤ 1 ∧ rest.filterMap Line.frame? ++ unsent =
      later.map fun place => (Outbound.readChunk path (Int64.ofNat place.1) chunkSize).encode)
    (whole : 0 < chunkSize → Full chunkSize info.size chunks →
      (∀ failure, .hears (.error failure) ∉ rest) →
      ∀ progress outcome, .ends progress outcome ∈ rest →
        (∀ offset, outcome ≠ .error (.protocol (.offsetOutOfRange offset))) →
        outcome = Transfer.store ⟨info, joined chunks⟩ destination ∧
          Whole chunkSize info.size chunks ((placed 0 requested).map (·.1)) progress) :
    Fetched chunkSize path destination info chunks ((placed 0 requested).map (·.1))
      (exchanges ((Want.info path, .info info) :: fetches chunkSize path chunks) ++ rest) where
  talk := ⟨rest, rfl, ensues⟩
  taken := taken
  sums := sums
  ascending := placed_ascending 0 within.notEmpty
  inside := by
    intro offset member
    obtain ⟨place, placed, rfl⟩ := List.mem_map.mp member
    exact within.inside place placed
  few := within.few
  asked := by
    rw [List.filterMap_append, keys_of_exchanges, asked, places]
    simp [fetches, Want.piece, Want.info, Function.comp_def]
  sent := by
    obtain ⟨unsent, few, all⟩ := sent
    refine ⟨unsent, few, ?_⟩
    rw [List.filterMap_append, frames_of_exchanges, List.append_assoc, all, places]
    simp [fetches, Want.piece, Want.info, Function.comp_def]
  whole := by
    intro positive full clean progress outcome ends reachable
    refine whole positive full (fun failure member => clean failure (List.mem_append_right _ member))
      progress outcome ?_ reachable
    exact (List.mem_append.mp ends).resolve_left (not_ends_of_exchanges _ _ _)

/-- What follows on the pieces decides which have been asked for. -/
theorem Ensues.fetched {rest : List Line} (taken : Taken info chunks)
    (ensues : Ensues chunkSize path destination info chunks rest) :
    ∃ offsets, Fetched chunkSize path destination info chunks offsets
      (exchanges ((Want.info path, .info info) :: fetches chunkSize path chunks) ++ rest) := by
  have front : (placed 0 chunks).map (·.1) <+: Chunk.sums chunks := by
    rw [sums_eq chunks ⟨0, []⟩, placed_concat, List.map_append]
    exact List.prefix_append _ _
  cases id ensues with
  | unanswered wanting inRange unanswered =>
    have next := placed_concat 0 chunks ⟨0, []⟩
    rw [Nat.zero_add] at next
    refine ⟨_, taken.fetched ensues (wanting.taken taken inRange (by decide)) next
      (sums_eq chunks ⟨0, []⟩ ▸ List.prefix_rfl) unanswered.keys unanswered.frames ?_⟩
    intro _ _ clean progress outcome ends
    obtain ⟨failure, fails⟩ := unanswered.fails ends
    exact absurd fails (clean failure)
  | beyond wanting far =>
    refine ⟨_, taken.fetched ensues taken (List.append_nil _).symm front rfl
      ⟨[], Nat.zero_le _, rfl⟩ ?_⟩
    intro _ _ _ progress outcome ends inRange
    cases List.mem_singleton.mp ends
    exact absurd rfl (inRange _)
  | whole enough =>
    refine ⟨_, taken.fetched ensues taken (List.append_nil _).symm front rfl
      ⟨[], Nat.zero_le _, rfl⟩ ?_⟩
    intro positive full _ progress outcome ends _
    cases List.mem_singleton.mp ends
    exact ⟨rfl, taken.whole enough positive full⟩

end Download

end RemoteAgent
