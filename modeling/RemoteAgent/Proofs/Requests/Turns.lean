import RemoteAgent.Proofs.Requests.Sound

/-!
# Turns in the lanes

Requests stay sound when one of them takes its place in the lane of its key (`Sound.issue`), and
when one leaves it, whether it has ended (`Sound.release`) or is dropped (`Sound.drop`). The turn
of one that has held the lane goes to the first that waits for it (`Sound.vacate`).
-/

namespace RemoteAgent.Requests.Sound

variable {requests : Requests}

/-! ## Leaving -/

/-- Behind the first request of a queue are its other ones. -/
theorem mem_tail_queue (sound : requests.Sound) (key : RequestKey) (number : Nat) :
    number ∈ (requests.queue key).tail ↔
      number ∈ requests.queue key ∧ (requests.queue key).head? ≠ some number := by
  have nodup := sound.nodup key
  cases queued : requests.queue key with
  | nil => simp
  | cons first later =>
    rw [queued] at nodup
    have absent := (List.nodup_cons.mp nodup).1
    simp only [List.tail_cons, List.mem_cons, List.head?_cons, ne_eq, Option.some.injEq]
    constructor
    · intro member
      exact ⟨Or.inr member, by rintro rfl; exact absent member⟩
    · rintro ⟨rfl | member, notFirst⟩
      · exact absurd rfl notFirst
      · exact member

/-- Requests stay sound when the holder of a lane leaves and the lane goes to the first request
of its queue. -/
theorem vacate (sound : requests.Sound) {after : Requests} {request : Request}
    (found : requests.find? request.number = some request) (turn : request.standing ≠ .queued)
    (lanes : after.LanesDistinct) (issued : after.issued = requests.issued)
    (left : ∀ number, after.find? number =
      if number = request.number then none
      else if (requests.queue request.key).head? = some number then
        (requests.find? number).map fun next => { next with standing := .granted }
      else requests.find? number)
    (holder : ∀ key, after.holder? key =
      if key = request.key then (requests.queue request.key).head? else requests.holder? key)
    (queue : ∀ key, after.queue key =
      if key = request.key then (requests.queue request.key).tail else requests.queue key)
    (inFlight : after.inFlight = requests.inFlight.filter (·.key != request.key))
    (ready : ∀ number, number ≠ request.number →
      number ∈ requests.ready ∨ (requests.queue request.key).head? = some number →
      number ∈ after.ready) :
    after.Sound := by
  have holds : requests.holder? request.key = some request.number :=
    (sound.holder_iff _ _).mpr ⟨request, found, rfl, turn⟩
  have next : ∀ number, (requests.queue request.key).head? = some number →
      number ≠ request.number ∧ ∃ waiting, requests.find? number = some waiting ∧
        waiting.key = request.key ∧ waiting.standing = .queued := by
    intro number first
    obtain ⟨waiting, foundNext, key, queued⟩ :=
      (sound.queue_iff _ _).mp (List.mem_of_head? first)
    refine ⟨?_, waiting, foundNext, key, queued⟩
    rintro rfl
    rw [found] at foundNext
    cases foundNext
    exact turn queued
  have behind := sound.mem_tail_queue request.key
  refine
    { lanes
      number_lt := ?_
      entry_iff := ?_
      holder_iff := ?_
      queue_iff := ?_
      free := ?_
      ordered := ?_
      ready := ?_
      awaits := ?_ }
  · intro number other foundOther
    rw [left] at foundOther
    rw [issued]
    have := @sound.number_lt number
    grind
  · intro entry
    rw [inFlight, left, List.mem_filter, sound.entry_iff]
    have := sound.holder_iff request.key entry.request
    grind
  · intro key number
    rw [holder, left]
    have := sound.holder_iff key number
    grind
  · intro key number
    rw [queue, left]
    have := sound.queue_iff key number
    grind
  · intro key free
    rw [holder] at free
    rw [queue]
    split at free
    · next same =>
      rw [if_pos same, List.head?_eq_none_iff.mp free]
      rfl
    · next different =>
      rw [if_neg different]
      exact sound.free key free
  · intro key
    rw [holder, queue]
    by_cases own : key = request.key
    · have lane : (requests.queue request.key).head?.toList ++
          (requests.queue request.key).tail = requests.queue request.key := by
        cases requests.queue request.key <;> rfl
      rw [if_pos own, if_pos own, lane]
      exact (List.pairwise_append.mp (sound.ordered _)).2.1
    · rw [if_neg own, if_neg own]
      exact sound.ordered key
  · intro number other foundOther eager
    rw [left] at foundOther
    apply ready number
    · grind
    · have := @sound.ready number
      grind
  · intro number other foundOther
    rw [left] at foundOther
    have := @sound.awaits number
    grind

theorem release (sound : requests.Sound) {request : Request}
    (found : requests.find? request.number = some request) (turn : request.standing ≠ .queued) :
    (requests.release request).Sound := by
  have passed : ((requests.clear request.key).forget request.number).LanesDistinct := sound.lanes
  apply sound.vacate found turn
  · exact prune_lanesDistinct (passTurn_lanesDistinct passed _) _
  · exact passTurn_issued _ _
  · exact requests.release_find? request
  · intro key
    rw [Requests.release, holder?_prune (passTurn_lanesDistinct passed _), passTurn_holder?]
    rfl
  · intro key
    rw [Requests.release, queue_prune (passTurn_lanesDistinct passed _), passTurn_queue]
    rfl
  · exact release_inFlight requests request
  · intro number different
    rw [release_ready]
    grind

/-- A request at its turn that is dropped leaves the lane to the next one. -/
theorem drop_granted (sound : requests.Sound) {request : Request}
    (found : requests.find? request.number = some request) (turn : request.standing = .granted) :
    ((requests.forget request.number).passTurn request.key).Sound := by
  have absent := entryFor?_eq_none_iff.mp (sound.entryFor?_eq_none found turn)
  have forgotten : (requests.forget request.number).LanesDistinct := sound.lanes
  apply sound.vacate found (by simp [turn])
  · exact passTurn_lanesDistinct forgotten _
  · exact passTurn_issued _ _
  · intro number
    simp only [passTurn_find?, find?_forget]
    change (if (requests.queue request.key).head? = some number then _ else _) = _
    grind
  · intro key
    rw [passTurn_holder?]
    rfl
  · intro key
    rw [passTurn_queue]
    rfl
  · rw [passTurn_inFlight]
    exact (List.filter_eq_self.mpr fun entry member => by simpa using absent entry member).symm
  · intro number different
    rw [passTurn_ready]
    change _ → number ∈ requests.ready.filter _ ++ (requests.queue request.key).head?.toList
    grind

/-- A queued request that is dropped leaves the queue. -/
theorem drop_queued (sound : requests.Sound) {request : Request} {lane : Lane}
    (found : requests.find? request.number = some request) (queued : request.standing = .queued)
    (ofKey : requests.lane? request.key = some lane) :
    ((requests.setLane { lane with waiting := lane.waiting.filter (· != request.number) }).forget
        request.number).Sound := by
  have named := key_of_lane? ofKey
  have left : ∀ number, ((requests.setLane
      { lane with waiting := lane.waiting.filter (· != request.number) }).forget
        request.number).find? number =
        if number = request.number then none else requests.find? number :=
    find?_forget _ request.number
  have stays : ∀ number other, (if number = request.number then none else requests.find? number) =
      some other → number ≠ request.number ∧ requests.find? number = some other := by
    intro number other foundOther
    split at foundOther
    · cases foundOther
    · next different => exact ⟨different, foundOther⟩
  have holder : ∀ key, ((requests.setLane
      { lane with waiting := lane.waiting.filter (· != request.number) }).forget
        request.number).holder? key = requests.holder? key := by
    intro key
    refine (requests.holder?_setLane _ key).trans ?_
    split
    · next same => simp [same, holder?, named, ofKey]
    · rfl
  have queue : ∀ key, ((requests.setLane
      { lane with waiting := lane.waiting.filter (· != request.number) }).forget
        request.number).queue key =
        if key = request.key then (requests.queue key).filter (· != request.number)
        else requests.queue key := by
    intro key
    apply (requests.queue_setLane _ key).trans
    rw [named]
    split
    · next same => simp [same, Requests.queue, ofKey]
    · rfl
  refine
    { lanes := setLane_lanesDistinct sound.lanes _
      number_lt := ?_
      entry_iff := ?_
      holder_iff := ?_
      queue_iff := ?_
      free := ?_
      ordered := ?_
      ready := ?_
      awaits := ?_ }
  · intro number other foundOther
    rw [left] at foundOther
    exact sound.number_lt (stays number other foundOther).2
  · intro entry
    rw [left]
    apply (sound.entry_iff entry).trans
    grind
  · intro key number
    rw [holder, left, sound.holder_iff]
    grind
  · intro key number
    rw [queue, left]
    have := sound.queue_iff key number
    grind
  · intro key
    rw [holder, queue]
    intro free
    simp [sound.free key free]
  · intro key
    rw [holder, queue]
    split
    · exact (sound.ordered key).sublist (List.filter_sublist.append_left _)
    · exact sound.ordered key
  · intro number other foundOther eager
    rw [left] at foundOther
    obtain ⟨different, before⟩ := stays number other foundOther
    exact List.mem_filter.mpr ⟨sound.ready before eager, by simpa using different⟩
  · intro number other foundOther
    rw [left] at foundOther
    exact sound.awaits (stays number other foundOther).2

theorem drop (sound : requests.Sound) {request : Request}
    (found : requests.find? request.number = some request) :
    (requests.drop request).Sound := by
  unfold Requests.drop
  split
  · next queued =>
    have member := (sound.queue_iff request.key request.number).mpr ⟨request, found, rfl, queued⟩
    cases ofKey : requests.lane? request.key with
    | none => simp [Requests.queue, ofKey] at member
    | some lane => exact sound.drop_queued found queued ofKey
  · next turn => exact sound.drop_granted found turn
  · next notQueued _ => exact sound.release found notQueued

/-- A request that is dropped is forgotten. If it had its turn, the turn goes to the first one that
waits for it. -/
theorem drop_find? (sound : requests.Sound) {request : Request}
    (found : requests.find? request.number = some request) (number : Nat) :
    (requests.drop request).find? number =
      if number = request.number then none
      else if request.standing ≠ .queued ∧
          (requests.queue request.key).head? = some number then
        (requests.find? number).map fun next => { next with standing := .granted }
      else requests.find? number := by
  unfold Requests.drop
  split
  · next queued =>
    have member := (sound.queue_iff request.key request.number).mpr ⟨request, found, rfl, queued⟩
    cases ofKey : requests.lane? request.key with
    | none => simp [Requests.queue, ofKey] at member
    | some lane =>
      simp only [queued, ne_eq, not_true_eq_false, false_and, if_false]
      exact find?_forget _ request.number number
  · next turn =>
    rw [passTurn_find?, find?_forget, turn]
    change (if (requests.queue request.key).head? = some number then _ else _) = _
    by_cases own : number = request.number
    · simp [own]
    · simp [own]
  · next notQueued _ =>
    have other : request.standing ≠ .queued := notQueued
    rw [release_find?]
    simp [other]

/-! ## Issuing -/

/-- The number of the next request is new. -/
theorem find?_issued (sound : requests.Sound) : requests.find? requests.issued = none := by
  cases found : requests.find? requests.issued with
  | none => rfl
  | some request => exact absurd (sound.number_lt found) (Nat.lt_irrefl _)

/-- An entry in flight is not that of the next request. -/
theorem entry_ne_issued (sound : requests.Sound) :
    ∀ entry ∈ requests.inFlight, entry.request ≠ requests.issued := by
  intro entry member same
  obtain ⟨request, _, found, _⟩ := (sound.entry_iff entry).mp member
  rw [same, sound.find?_issued] at found
  cases found

/-- The next request comes behind all that hold a lane or wait for it. -/
theorem ordered_concat (sound : requests.Sound) (key : RequestKey) :
    ((requests.holder? key).toList ++ requests.queue key ++ [requests.issued]).Pairwise
      (· < ·) := by
  refine List.pairwise_append.mpr ⟨sound.ordered key, List.pairwise_singleton _ _, ?_⟩
  intro number member last newest
  rw [List.mem_singleton.mp newest]
  rcases List.mem_append.mp member with holds | waits
  · rw [Option.mem_toList] at holds
    obtain ⟨other, found, _⟩ := (sound.holder_iff key number).mp holds
    exact sound.number_lt found
  · obtain ⟨other, found, _⟩ := (sound.queue_iff _ number).mp waits
    exact sound.number_lt found

/-- Requests stay sound when a new one takes a free lane, or the end of the queue of one that is
held. -/
theorem join (sound : requests.Sound) {after : Requests} {request : Request}
    (fits : request.awaits = request.key.replyKind) (lanes : after.LanesDistinct)
    (issued : after.issued = requests.issued + 1)
    (added : ∀ number, after.find? number =
      if number = requests.issued then some request else requests.find? number)
    (inFlight : after.inFlight = requests.inFlight)
    (ready : ∀ number, number ∈ requests.ready ∨
      number = requests.issued ∧ request.standing.isEager = true → number ∈ after.ready)
    (seat :
      request.standing = .granted ∧ requests.holder? request.key = none ∧
          (∀ key, after.holder? key =
            if key = request.key then some requests.issued else requests.holder? key) ∧
          (∀ key, after.queue key = requests.queue key) ∨
        request.standing = .queued ∧ requests.holder? request.key ≠ none ∧
          (∀ key, after.holder? key = requests.holder? key) ∧
          ∀ key, after.queue key =
            if key = request.key then requests.queue key ++ [requests.issued]
            else requests.queue key) :
    after.Sound := by
  have new := sound.find?_issued
  have notWaiting : ∀ generation sentAt, request.standing ≠ .waiting generation sentAt := by
    intro generation sentAt waits
    rcases seat with ⟨turn, _⟩ | ⟨queued, _⟩
    · rw [waits] at turn
      cases turn
    · rw [waits] at queued
      cases queued
  refine
    { lanes
      number_lt := ?_
      entry_iff := ?_
      holder_iff := ?_
      queue_iff := ?_
      free := ?_
      ordered := ?_
      ready := ?_
      awaits := ?_ }
  · intro number other found
    rw [added] at found
    have := @sound.number_lt number
    grind
  · intro entry
    rw [inFlight, added]
    have := sound.entry_ne_issued entry
    have := sound.entry_iff entry
    grind
  · intro key number
    have before := sound.holder_iff key number
    rcases seat with ⟨turn, free, holder, _⟩ | ⟨queued, held, holder, _⟩
    · rw [holder, added]
      grind
    · rw [holder, added]
      grind
  · intro key number
    have before := sound.queue_iff key number
    rcases seat with ⟨turn, free, _, queue⟩ | ⟨queued, held, _, queue⟩
    · rw [queue, added]
      grind
    · rw [queue, added]
      grind
  · intro key
    have before := sound.free key
    rcases seat with ⟨turn, free, holder, queue⟩ | ⟨queued, held, holder, queue⟩
    · rw [queue, holder]
      grind
    · rw [queue, holder]
      grind
  · intro key
    have before := sound.ordered key
    rcases seat with ⟨_, free, holder, queue⟩ | ⟨_, _, holder, queue⟩
    · rw [holder, queue]
      by_cases own : key = request.key
      · rw [if_pos own, own, sound.free _ free]
        simp
      · rw [if_neg own]
        exact before
    · rw [holder, queue]
      by_cases own : key = request.key
      · rw [if_pos own, ← List.append_assoc]
        exact sound.ordered_concat key
      · rw [if_neg own]
        exact before
  · intro number other found eager
    rw [added] at found
    have := @sound.ready number
    apply ready
    grind
  · intro number other found
    rw [added] at found
    have := @sound.awaits number
    grind

/-- Among the requests with a new one, the new one is found under its number. -/
theorem enroll_find? (sound : requests.Sound) (lane : Lane) (want : Want)
    (limit : Option Duration) (standing : Standing) (number : Nat) :
    (requests.enroll lane (requests.requestFor want limit standing)).find? number =
      if number = requests.issued then some (requests.requestFor want limit standing)
      else requests.find? number := by
  rw [find?_enroll]
  by_cases own : number = requests.issued
  · subst own
    simp [sound.find?_issued, requestFor]
  · have other : (requests.requestFor want limit standing).number ≠ number := fun same =>
      own same.symm
    simp [own, other]

/-- A request that was just made is found under its number, and all others as before. -/
theorem issue_find? (sound : requests.Sound) (want : Want) (limit : Option Duration)
    (number : Nat) :
    (requests.issue want limit).1.find? number =
      if number = requests.issued then some (requests.issue want limit).2
      else requests.find? number := by
  cases held : requests.holder? want.key with
  | none =>
    rw [issue_of_free limit held]
    exact sound.enroll_find? ⟨want.key, some requests.issued, requests.queue want.key⟩ want limit
      .granted number
  | some holder =>
    rw [issue_of_held limit held]
    exact sound.enroll_find? _ want limit .queued number

theorem issue (sound : requests.Sound) (want : Want) (limit : Option Duration)
    (fits : want.awaits = want.key.replyKind) : (requests.issue want limit).1.Sound := by
  cases held : requests.holder? want.key with
  | none =>
    let lane : Lane := ⟨want.key, some requests.issued, requests.queue want.key⟩
    let request := requests.requestFor want limit .granted
    rw [issue_of_free limit held]
    have fitsToo : request.awaits = request.key.replyKind := fits
    apply sound.join fitsToo
    · exact setLane_lanesDistinct sound.lanes _
    · rfl
    · exact sound.enroll_find? lane want limit .granted
    · rfl
    · rintro number (member | ⟨rfl, _⟩)
      · exact List.mem_append_left _ member
      · exact List.mem_append_right _ (List.mem_singleton.mpr rfl)
    · refine .inl ⟨rfl, held, requests.holder?_enroll lane request, fun key => ?_⟩
      apply (requests.queue_enroll lane request key).trans
      split
      · next same => rw [same]
      · rfl
  | some holder =>
    let request := requests.requestFor want limit .queued
    have fitsToo : request.awaits = request.key.replyKind := fits
    rw [issue_of_held limit held]
    apply sound.join fitsToo
    · exact setLane_lanesDistinct sound.lanes _
    · rfl
    · exact sound.enroll_find? _ want limit .queued
    · rfl
    · rintro number (member | ⟨_, eager⟩)
      · exact member
      · cases eager
    · refine .inr ⟨rfl, by simp [request, requestFor, held], fun key => ?_, fun key => ?_⟩
      · refine (requests.holder?_enroll _ _ key).trans ?_
        split
        · next same => rw [same, held]
        · rfl
      · apply (requests.queue_enroll _ _ key).trans
        split
        · next same => rw [same]; exact (if_pos rfl).symm
        · next different => exact (if_neg different).symm

end RemoteAgent.Requests.Sound
