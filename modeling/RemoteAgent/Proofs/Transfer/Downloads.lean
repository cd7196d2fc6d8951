import RemoteAgent.Transfer.Basic

/-!
# What a download receives

A transfer is where its replies have brought it (`Transfer.Reaches`). As long as the metadata tell
the size of the contents, and every piece is some of what stands at its offset and not empty before
the end, a download has received the contents up to its offset, and delivers them as a whole
(`Transfer.Reaches.delivers`).
-/

namespace RemoteAgent

/-- A reply under a key is true of the contents of files: metadata tell the size, and a piece is some
of what stands at its offset, and empty at the end only. -/
def Reply.Fits (contents : String → Bytes) : RequestKey → Reply → Prop
  | .info path, .info metadata => metadata.size.toNat = (contents path).length
  | .read path offset, .chunk piece =>
    piece.data <+: (contents path).drop offset.toNat ∧
      (offset.toNat < (contents path).length → piece.data ≠ [])
  | _, _ => True

namespace Transfer

/-- Where an operation has come, and the progress that it has reported, with the requests that it made
and the replies to them. -/
inductive Reaches (chunkSize : UInt64) (operation : Operation) :
    List (Want × Reply) → List Progress → Turn → Prop where
  | begins : Reaches chunkSize operation [] [] (begin operation)
  | resumes {exchanged : List (Want × Reply)} {progress : List Progress} {transfer : Transfer}
      {want : Want} {reply : Reply}
      (before : Reaches chunkSize operation exchanged progress (.go transfer))
      (wanted : transfer.wants chunkSize = .ok want) (fits : reply.kind = want.awaits) :
      Reaches chunkSize operation (exchanged ++ [(want, reply)])
        (progress ++ (transfer.resume chunkSize reply).1.toList)
        (transfer.resume chunkSize reply).2

/-- Where a download of some contents can have come. -/
inductive Downloads (contents : Bytes) (path : String) (destination : Destination) : Turn → Prop where
  /-- It waits for the metadata. -/
  | sizing : Downloads contents path destination (.go (sizing path destination))
  /-- It has received what stands before its offset. -/
  | receiving {info : FileInfo} {offset : UInt64} (size : info.size.toNat = contents.length)
      (inside : offset.toNat < contents.length) :
      Downloads contents path destination
        (.go (receiving path destination info (contents.take offset.toNat) offset))
  /-- It has received everything. -/
  | stops (info : FileInfo) :
      Downloads contents path destination (.stop (store ⟨info, contents⟩ destination))

variable {contents : Bytes} {path : String} {destination : Destination}

/-- A download that has received what stands before its offset goes on, or has everything. -/
theorem downloads_receive {info : FileInfo} {received : Bytes} {offset : UInt64}
    (size : info.size.toNat = contents.length)
    (known : received = contents.take offset.toNat) :
    Downloads contents path destination (receive path destination info received offset) := by
  unfold receive
  split
  · next more =>
    subst known
    exact .receiving size (size ▸ UInt64.lt_iff_toNat_lt.mp more)
  · next enough =>
    have whole : contents.length ≤ offset.toNat :=
      size ▸ Nat.not_lt.mp fun more => enough (UInt64.lt_iff_toNat_lt.mpr more)
    rw [known, List.take_of_length_le whole]
    exact .stops info

/-- Received octets are counted without a carry as long as they are some of the contents. -/
theorem toNat_add_count {offset : UInt64} {size : UInt64} {data : Bytes}
    (inside : offset.toNat + data.length ≤ size.toNat) :
    (offset + count data).toNat = offset.toNat + data.length := by
  have bound := size.toNat_lt
  rw [count, UInt64.toNat_add, UInt64.toNat_ofNat', Nat.mod_eq_of_lt, Nat.mod_eq_of_lt]
  all_goals omega

/-- A true reply brings a download further. -/
theorem Downloads.resume {files : String → Bytes} {chunkSize : UInt64} {transfer : Transfer}
    {want : Want} {reply : Reply}
    (downloads : Downloads (files path) path destination (.go transfer))
    (wanted : transfer.wants chunkSize = .ok want) (fits : reply.kind = want.awaits)
    (holds : reply.Fits files want.key) :
    Downloads (files path) path destination (transfer.resume chunkSize reply).2 := by
  cases downloads with
  | sizing =>
    cases wanted
    cases reply with
    | info info => exact downloads_receive holds (by simp)
    | _ => cases fits
  | @receiving info offset size inside =>
    have awaits := awaits_of_wants wanted
    have key : want.key = .read path offset := by
      simp only [wants, Want.read] at wanted
      split at wanted
      · cases wanted
        rfl
      · cases wanted
    rw [key] at awaits holds
    cases reply with
    | chunk chunk =>
      obtain ⟨front, notEmpty⟩ := holds
      obtain ⟨rest, whole⟩ := id front
      have fitting : offset.toNat + chunk.data.length ≤ info.size.toNat := by
        have longest := front.length_le
        rw [List.length_drop] at longest
        omega
      simp only [Transfer.resume]
      split
      · next empty => exact absurd (List.isEmpty_iff.mp empty) (notEmpty inside)
      · refine downloads_receive size ?_
        rw [toNat_add_count fitting, List.take_add, ← whole, List.take_left]
    | _ => exact absurd (fits.trans awaits) (by simp [Reply.kind, RequestKey.replyKind])

/-- With true replies only, a download receives the contents. -/
theorem Reaches.downloads {files : String → Bytes} {chunkSize : UInt64}
    {exchanged : List (Want × Reply)} {progress : List Progress} {turn : Turn}
    (reaches : Reaches chunkSize (.download path destination) exchanged progress turn)
    (allTrue : ∀ pair ∈ exchanged, pair.2.Fits files pair.1.key) :
    Downloads (files path) path destination turn := by
  induction reaches with
  | begins => exact .sizing
  | resumes _ wanted fits inductionHypothesis =>
    have before := inductionHypothesis fun pair member =>
      allTrue pair (List.mem_append_left _ member)
    exact before.resume wanted fits
      (allTrue _ (List.mem_append_right _ (List.mem_singleton.mpr rfl)))

/-- What a download delivers is the contents. -/
theorem Reaches.delivers {files : String → Bytes} {chunkSize : UInt64}
    {exchanged : List (Want × Reply)} {progress : List Progress} {delivery : Delivery}
    (reaches : Reaches chunkSize (.download path destination) exchanged progress
      (.stop (.ok delivery)))
    (allTrue : ∀ pair ∈ exchanged, pair.2.Fits files pair.1.key) :
    ∃ info, delivery = .file ⟨info, files path⟩ ∨ delivery = .stored ⟨info, files path⟩ := by
  have downloads := reaches.downloads allTrue
  generalize stopped : Turn.stop (.ok delivery) = turn at downloads
  cases downloads with
  | sizing => cases stopped
  | receiving => cases stopped
  | stops info =>
    have stored := Turn.stop.inj stopped
    refine ⟨info, ?_⟩
    cases destination with
    | caller =>
      cases stored
      exact .inl rfl
    | localFile directoryExists =>
      cases directoryExists with
      | true =>
        cases stored
        exact .inr rfl
      | false => cases stored

end Transfer

end RemoteAgent
