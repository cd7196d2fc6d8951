import RemoteAgent.Proofs.Requests.Turns

/-!
# Lanes that nobody is in

The lane of a key is there for the requests under the key, or it is vacant (`Sound.lane_isSome_iff`).
A request that ends removes its lane when nobody is behind it, and so does one that is dropped, unless
its turn has come and it has not run since: then the lane is left vacant (`Sound.drop_isVacant`), until
another request joins it.
-/

namespace RemoteAgent.Requests

/-- The lane of a key is there, and nobody is in it. -/
def IsVacant (requests : Requests) (key : RequestKey) : Prop :=
  requests.lane? key = some { key, holder := none }

variable {requests : Requests} {request : Request}

/-- What is in a lane decides whether it is vacant. -/
theorem isVacant_iff (key : RequestKey) :
    requests.IsVacant key ↔
      (requests.lane? key).isSome = true ∧ requests.holder? key = none ∧ requests.queue key = [] := by
  unfold IsVacant holder? queue
  cases found : requests.lane? key with
  | none => simp
  | some lane =>
    have named := key_of_lane? found
    subst named
    obtain ⟨key, holder, waiting⟩ := lane
    simp

/-- The lane of a request is there. -/
theorem Sound.lane_isSome (sound : requests.Sound) {number : Nat}
    (found : requests.find? number = some request) :
    (requests.lane? request.key).isSome = true := by
  rw [Option.isSome_iff_ne_none]
  intro absent
  by_cases queued : request.standing = .queued
  · have member := (sound.queue_iff request.key number).mpr ⟨request, found, rfl, queued⟩
    simp [queue, absent] at member
  · have holds := (sound.holder_iff request.key number).mpr ⟨request, found, rfl, queued⟩
    simp [holder?, absent] at holds

/-- The lane of a request is not vacant. -/
theorem Sound.not_isVacant (sound : requests.Sound) {number : Nat}
    (found : requests.find? number = some request) : ¬ requests.IsVacant request.key := by
  rw [isVacant_iff]
  rintro ⟨_, free, empty⟩
  by_cases queued : request.standing = .queued
  · have member := (sound.queue_iff request.key number).mpr ⟨request, found, rfl, queued⟩
    simp [empty] at member
  · have holds := (sound.holder_iff request.key number).mpr ⟨request, found, rfl, queued⟩
    simp [free] at holds

/-- A lane is there for the requests under its key, or it is vacant. -/
theorem Sound.lane_isSome_iff (sound : requests.Sound) (key : RequestKey) :
    (requests.lane? key).isSome = true ↔
      (∃ number request, requests.find? number = some request ∧ request.key = key) ∨
        requests.IsVacant key := by
  constructor
  · intro there
    cases holder : requests.holder? key with
    | none => exact .inr ((isVacant_iff key).mpr ⟨there, holder, sound.free key holder⟩)
    | some number =>
      obtain ⟨request, found, sameKey, _⟩ := (sound.holder_iff key number).mp holder
      exact .inl ⟨number, request, found, sameKey⟩
  · rintro (⟨number, request, found, rfl⟩ | vacant)
    · exact sound.lane_isSome found
    · exact ((isVacant_iff key).mp vacant).1

/-! ## What changes do to vacant lanes -/

/-- A request that is made takes the lane of its key. -/
theorem issue_isVacant (requests : Requests) (want : Want) (limit : Option Duration)
    (key : RequestKey) :
    (requests.issue want limit).1.IsVacant key ↔ requests.IsVacant key ∧ key ≠ want.key := by
  have taken : ∀ (lane : Lane) (request : Request), lane.key = want.key → lane.holder ≠ none →
      ((requests.enroll lane request).IsVacant key ↔ requests.IsVacant key ∧ key ≠ want.key) := by
    intro lane request named held
    have lanes : (requests.enroll lane request).lane? key =
        if key = lane.key then some lane else requests.lane? key := requests.lane?_setLane lane key
    rw [IsVacant, lanes, named]
    split
    · next same =>
      refine ⟨fun vacant => ?_, fun other => absurd same other.2⟩
      exact absurd (congrArg Lane.holder (Option.some.inj vacant)) held
    · next other => exact (and_iff_left other).symm
  cases holder : requests.holder? want.key with
  | none =>
    rw [issue_of_free limit holder]
    exact taken { key := want.key, holder := some requests.issued, waiting := requests.queue want.key }
      (requests.requestFor want limit .granted) rfl (by simp)
  | some number =>
    rw [issue_of_held limit holder]
    exact taken _ _ rfl (by simp)

@[simp]
theorem enter_lanes (requests : Requests) (request : Request) (generation clock : Nat) :
    (requests.enter request generation clock).lanes = requests.lanes := by
  unfold enter
  split <;> rfl

@[simp]
theorem deliver_lanes (requests : Requests) (key : RequestKey) (reply : Reply) :
    (requests.deliver key reply).lanes = requests.lanes := by
  unfold deliver
  split <;> rfl

/-- With the same lanes, the same ones are vacant. -/
theorem isVacant_congr {after : Requests} (same : after.lanes = requests.lanes) (key : RequestKey) :
    after.IsVacant key ↔ requests.IsVacant key := by
  unfold IsVacant lane?
  rw [same]

/-- A request that ends leaves no vacant lane. -/
theorem Sound.release_isVacant (sound : requests.Sound) {number : Nat}
    (found : requests.find? number = some request) (key : RequestKey) :
    (requests.release request).IsVacant key ↔ requests.IsVacant key := by
  have distinct : (((requests.clear request.key).forget request.number).passTurn
      request.key).LanesDistinct :=
    @passTurn_lanesDistinct ((requests.clear request.key).forget request.number) sound.lanes _
  rw [IsVacant, Requests.release, lane?_prune distinct, passTurn_lane?, Option.filter_eq_some_iff]
  by_cases own : key = request.key
  · subst own
    refine ⟨?_, fun vacant => absurd vacant (sound.not_isVacant found)⟩
    rintro ⟨_, kept⟩
    simp at kept
  · rw [if_neg own]
    exact and_iff_left (by simpa using own)

/-- A request that is dropped leaves its lane vacant if its turn has come and it has not run, and nobody
is behind it. -/
theorem Sound.drop_isVacant (sound : requests.Sound) {number : Nat}
    (found : requests.find? number = some request) (key : RequestKey) :
    (requests.drop request).IsVacant key ↔ requests.IsVacant key ∨
      request.key = key ∧ request.standing = .granted ∧ requests.queue key = [] := by
  unfold Requests.drop
  split
  · next queued =>
    have unturned : ¬ (request.key = key ∧ request.standing = .granted ∧ requests.queue key = []) :=
      fun ⟨_, turn, _⟩ => by simp [queued] at turn
    have member := (sound.queue_iff request.key number).mpr ⟨request, found, rfl, queued⟩
    cases ofKey : requests.lane? request.key with
    | none => simp [queue, ofKey] at member
    | some lane =>
      have named := key_of_lane? ofKey
      have held : lane.holder ≠ none := by
        intro free
        have holder : requests.holder? request.key = none := by simp [holder?, ofKey, free]
        rw [sound.free request.key holder] at member
        cases member
      change (requests.setLane { lane with
        waiting := lane.waiting.filter (· != request.number) }).IsVacant key ↔ _
      rw [or_iff_left unturned, IsVacant, lane?_setLane]
      dsimp only
      split
      · next own =>
        subst own
        refine ⟨fun vacant => ?_, fun vacant => ?_⟩
        · exact absurd (congrArg Lane.holder (Option.some.inj vacant)) held
        · rw [IsVacant, named, ofKey] at vacant
          exact absurd (congrArg Lane.holder (Option.some.inj vacant)) held
      · rfl
  · next turn =>
    by_cases own : request.key = key
    · subst own
      have there := sound.lane_isSome found
      rw [isVacant_iff, passTurn_lane?, passTurn_holder?, passTurn_queue, if_pos rfl, if_pos rfl,
        if_pos rfl, Option.isSome_map]
      change (requests.lane? request.key).isSome = true ∧ (requests.queue request.key).head? = none ∧
        (requests.queue request.key).tail = [] ↔ _
      rw [or_iff_right (sound.not_isVacant found)]
      cases requests.queue request.key <;> simp [there, turn]
    · rw [IsVacant, passTurn_lane?, if_neg (Ne.symm own)]
      simp only [own, false_and, or_false]
      rfl
  · next notQueued notTurn =>
    rw [sound.release_isVacant found, or_iff_left fun ⟨_, turn, _⟩ => notTurn turn]

end RemoteAgent.Requests
