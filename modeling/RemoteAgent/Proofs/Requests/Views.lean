import RemoteAgent.Request.Basic

/-!
# Views of the requests

What is true of requests is said through five views: the request of a number, the entries in
flight, the holder of a lane, the queue of a lane, and who is ready to run. This module says
what each change to the parts does to each view, so that later proofs open no definition of
a change. A lane that is missing looks like a lane that is free, which is why pruning is
invisible here.
-/

namespace RemoteAgent.Requests

/-- The request whose turn it is under a key. -/
def holder? (requests : Requests) (key : RequestKey) : Option Nat :=
  (requests.lane? key).bind (·.holder)

/-- The requests that wait for their turn under a key, first come first. -/
def queue (requests : Requests) (key : RequestKey) : List Nat :=
  ((requests.lane? key).map (·.waiting)).getD []

/-- No two lanes have the same key. -/
def LanesDistinct (requests : Requests) : Prop :=
  requests.lanes.Pairwise fun lane other => lane.key ≠ other.key

/-! ## Looking up -/

/-- A request is found under its own number. -/
theorem number_of_find? {requests : Requests} {number : Nat} {request : Request}
    (found : requests.find? number = some request) : request.number = number := by
  have same := List.find?_some found
  simpa using same

/-- A lane is found under its own key. -/
theorem key_of_lane? {requests : Requests} {key : RequestKey} {lane : Lane}
    (found : requests.lane? key = some lane) : lane.key = key := by
  have same := List.find?_some found
  simpa using same

/-- An entry that is found under a key is in flight, and has that key. -/
theorem mem_of_entryFor? {requests : Requests} {key : RequestKey} {entry : Entry}
    (found : requests.entryFor? key = some entry) :
    entry ∈ requests.inFlight ∧ entry.key = key := by
  have same := List.find?_some found
  exact ⟨List.mem_of_find?_eq_some found, by simpa using same⟩

/-- No entry is found under a key exactly if none in flight has it. -/
theorem entryFor?_eq_none_iff {requests : Requests} {key : RequestKey} :
    requests.entryFor? key = none ↔ ∀ entry ∈ requests.inFlight, entry.key ≠ key := by
  simp [entryFor?, List.find?_eq_none]

variable (requests : Requests)

/-! ## The request of a number -/

/-- To place a request changes where it stands, and nothing about other requests. -/
theorem find?_place (number other : Nat) (standing : Standing) :
    (requests.place number standing).find? other =
      if other = number then (requests.find? other).map fun request => { request with standing }
      else requests.find? other := by
  have unnumbered : ((fun request : Request => request.number == other) ∘ fun request : Request =>
      if request.number = number then { request with standing } else request) =
        fun request => request.number == other := by
    funext request
    simp only [Function.comp_apply]
    split <;> rfl
  simp only [find?, place, List.find?_map, unnumbered]
  cases found : requests.live.find? fun request => request.number == other with
  | none => simp
  | some request =>
    have same : request.number = other := by simpa using List.find?_some found
    simp only [Option.map_some, same]
    split <;> rfl

/-- To wake a request changes where it stands, and nothing about other requests. -/
theorem find?_wake (number other : Nat) (standing : Standing) :
    (requests.wake number standing).find? other =
      if other = number then (requests.find? other).map fun request => { request with standing }
      else requests.find? other :=
  requests.find?_place number other standing

/-- A forgotten request is not found, and every other one is. -/
theorem find?_forget (number other : Nat) :
    (requests.forget number).find? other =
      if other = number then none else requests.find? other := by
  simp only [find?, forget, List.find?_filter]
  split
  · next same =>
    subst same
    simp
  · next different =>
    congr 1
    funext request
    by_cases same : request.number = other
    · simp [same, different]
    · simp [same]

/-- To enroll a request adds it behind those that are there. -/
theorem find?_enroll (lane : Lane) (request : Request) (number : Nat) :
    (requests.enroll lane request).find? number =
      (requests.find? number).or (if request.number = number then some request else none) := by
  simp only [find?, enroll, List.find?_append, List.find?_cons, List.find?_nil]
  by_cases same : request.number = number
  · simp [same]
  · have named : (request.number == number) = false := by simpa using same
    simp [same, named]

/-- To clear entries leaves the requests. -/
@[simp] theorem find?_clear (key : RequestKey) (number : Nat) :
    (requests.clear key).find? number = requests.find? number := rfl

/-- A request that rests is still there. -/
@[simp] theorem find?_rest (rested number : Nat) :
    (requests.rest rested).find? number = requests.find? number := rfl

/-- A change to a lane leaves the requests. -/
@[simp] theorem find?_setLane (lane : Lane) (number : Nat) :
    (requests.setLane lane).find? number = requests.find? number := rfl

/-- Pruning leaves the requests. -/
@[simp] theorem find?_prune (key : RequestKey) (number : Nat) :
    (requests.prune key).find? number = requests.find? number := rfl

/-! ## Lanes -/

/-- To wake a request leaves the lanes. -/
@[simp] theorem lane?_wake (number : Nat) (standing : Standing) (key : RequestKey) :
    (requests.wake number standing).lane? key = requests.lane? key := rfl

/-- A lane that is set is found under its key, and every other lane as before. -/
theorem lane?_setLane (lane : Lane) (key : RequestKey) :
    (requests.setLane lane).lane? key =
      if key = lane.key then some lane else requests.lane? key := by
  split
  · next same => exact same ▸ requests.lane?_setLane_self lane
  · next different => exact requests.lane?_setLane_of_ne different

/-- Whose turn it is under the key of a lane is read off the lane that is set. -/
theorem holder?_setLane (lane : Lane) (key : RequestKey) :
    (requests.setLane lane).holder? key =
      if key = lane.key then lane.holder else requests.holder? key := by
  simp only [holder?, lane?_setLane]
  split <;> rfl

/-- Who waits under the key of a lane is read off the lane that is set. -/
theorem queue_setLane (lane : Lane) (key : RequestKey) :
    (requests.setLane lane).queue key =
      if key = lane.key then lane.waiting else requests.queue key := by
  simp only [queue, lane?_setLane]
  split <;> rfl

/-- With a new request comes the lane that it joins, and so whose turn it is there. -/
theorem holder?_enroll (lane : Lane) (request : Request) (key : RequestKey) :
    (requests.enroll lane request).holder? key =
      if key = lane.key then lane.holder else requests.holder? key :=
  requests.holder?_setLane lane key

/-- With a new request comes the lane that it joins, and so who waits there. -/
theorem queue_enroll (lane : Lane) (request : Request) (key : RequestKey) :
    (requests.enroll lane request).queue key =
      if key = lane.key then lane.waiting else requests.queue key :=
  requests.queue_setLane lane key

/-- To set a lane replaces the one with its key. -/
theorem setLane_lanesDistinct {requests : Requests} (distinct : requests.LanesDistinct)
    (lane : Lane) : (requests.setLane lane).LanesDistinct := by
  refine List.Pairwise.cons ?_ (List.Pairwise.filter _ distinct)
  intro other member same
  have different := (List.mem_filter.mp member).2
  simp [same] at different

/-- Pruning gives no key a second lane. -/
theorem prune_lanesDistinct {requests : Requests} (distinct : requests.LanesDistinct)
    (key : RequestKey) : (requests.prune key).LanesDistinct :=
  List.Pairwise.filter _ distinct

/-- Among lanes with distinct keys, one that is kept is found as before. -/
private theorem find?_filter_lanes {lanes : List Lane} (keeps : Lane → Bool) (key : RequestKey)
    (distinct : lanes.Pairwise fun lane other => lane.key ≠ other.key) :
    (lanes.filter keeps).find? (·.key == key) = (lanes.find? (·.key == key)).filter keeps := by
  induction distinct with
  | nil => rfl
  | @cons lane lanes apart _ inductionHypothesis =>
    by_cases same : lane.key = key
    · have absent : (lanes.filter keeps).find? (·.key == key) = none := by
        refine List.find?_eq_none.mpr fun other member => ?_
        have different := apart other (List.mem_filter.mp member).1
        simpa using (same ▸ different).symm
      have named : (lane.key == key) = true := by simpa using same
      by_cases kept : keeps lane
      · simp only [List.filter_cons_of_pos kept, List.find?_cons, named, Option.filter_some, kept,
          if_true]
      · simp only [List.filter_cons_of_neg kept, List.find?_cons, named, Option.filter_some, kept,
          absent, Bool.false_eq_true, if_false]
    · have named : (lane.key == key) = false := by simpa using same
      by_cases kept : keeps lane
      · simpa only [List.filter_cons_of_pos kept, List.find?_cons, named] using inductionHypothesis
      · simpa only [List.filter_cons_of_neg kept, List.find?_cons, named] using inductionHypothesis

/-- Pruning keeps a lane unless it is free. -/
theorem lane?_prune {requests : Requests} (distinct : requests.LanesDistinct)
    (key other : RequestKey) :
    (requests.prune key).lane? other = (requests.lane? other).filter fun lane =>
      lane.key != key || lane.holder.isSome || !lane.waiting.isEmpty :=
  find?_filter_lanes _ other distinct

/-- Pruning takes no turn from anyone: a lane that goes had no holder. -/
theorem holder?_prune {requests : Requests} (distinct : requests.LanesDistinct)
    (key other : RequestKey) : (requests.prune key).holder? other = requests.holder? other := by
  simp only [holder?, lane?_prune distinct]
  cases requests.lane? other with
  | none => rfl
  | some lane =>
    rw [Option.filter_some]
    split
    · rfl
    · next pruned =>
      have free : lane.holder = none := by
        simp only [Bool.or_eq_true, not_or, Option.not_isSome_iff_eq_none] at pruned
        exact pruned.1.2
      simp [free]

/-- Pruning takes nobody out of a queue: a lane that goes had an empty one. -/
theorem queue_prune {requests : Requests} (distinct : requests.LanesDistinct)
    (key other : RequestKey) : (requests.prune key).queue other = requests.queue other := by
  simp only [queue, lane?_prune distinct]
  cases requests.lane? other with
  | none => rfl
  | some lane =>
    rw [Option.filter_some]
    split
    · rfl
    · next pruned =>
      have empty : lane.waiting = [] := by
        simp only [Bool.or_eq_true, not_or] at pruned
        simpa using pruned.2
      simp [empty]

/-! ## Passing a turn on -/

/-- The first request of a queue gets the turn that is passed on, and no other one changes. -/
theorem passTurn_find? (key : RequestKey) (number : Nat) :
    (requests.passTurn key).find? number =
      if (requests.queue key).head? = some number then
        (requests.find? number).map fun request => { request with standing := .granted }
      else requests.find? number := by
  unfold passTurn queue
  cases requests.lane? key with
  | none => simp
  | some lane =>
    cases waiting : lane.waiting with
    | nil => simp [waiting]
    | cons next later =>
      simp only [find?_wake, find?_setLane, Option.map_some, Option.getD_some, waiting,
        List.head?_cons, Option.some.injEq, eq_comm]

/-- A lane whose turn is passed on is held by the first of its queue, which leaves the queue. -/
theorem passTurn_lane? (key other : RequestKey) :
    (requests.passTurn key).lane? other =
      if other = key then (requests.lane? key).map fun lane =>
        { lane with holder := lane.waiting.head?, waiting := lane.waiting.tail }
      else requests.lane? other := by
  unfold passTurn
  cases found : requests.lane? key with
  | none =>
    by_cases same : other = key
    · simp [same, found]
    · simp [same]
  | some lane =>
    have named := key_of_lane? found
    cases waiting : lane.waiting with
    | nil => simp [waiting, lane?_setLane, named]
    | cons next later =>
      simp [waiting, lane?_setLane, named]

/-- The turn goes to the first request of the queue, or to nobody. -/
theorem passTurn_holder? (key other : RequestKey) :
    (requests.passTurn key).holder? other =
      if other = key then (requests.queue key).head? else requests.holder? other := by
  simp only [holder?, queue, passTurn_lane?]
  split
  · cases requests.lane? key <;> rfl
  · rfl

/-- The first request of the queue leaves it. -/
theorem passTurn_queue (key other : RequestKey) :
    (requests.passTurn key).queue other =
      if other = key then (requests.queue key).tail else requests.queue other := by
  simp only [queue, passTurn_lane?]
  split
  · cases requests.lane? key <;> rfl
  · rfl

/-- Who gets the turn is ready to run, behind those that already are. -/
theorem passTurn_ready (key : RequestKey) :
    (requests.passTurn key).ready = requests.ready ++ (requests.queue key).head?.toList := by
  unfold passTurn queue
  cases requests.lane? key with
  | none => simp
  | some lane =>
    cases waiting : lane.waiting with
    | nil => simp [waiting, setLane]
    | cons next later => simp [waiting, wake, place, setLane]

/-- To pass a turn on gives no key a second lane. -/
theorem passTurn_lanesDistinct {requests : Requests} (distinct : requests.LanesDistinct)
    (key : RequestKey) : (requests.passTurn key).LanesDistinct := by
  unfold passTurn
  cases requests.lane? key with
  | none => exact distinct
  | some lane =>
    cases waiting : lane.waiting with
    | nil => simpa only [waiting] using setLane_lanesDistinct distinct _
    | cons next later =>
      simp only [waiting]
      exact setLane_lanesDistinct distinct _

/-- To pass a turn on issues nothing. -/
@[simp] theorem passTurn_issued (key : RequestKey) :
    (requests.passTurn key).issued = requests.issued := by
  unfold passTurn
  split
  · rfl
  · split <;> rfl

/-- A release takes the request from those who are ready, and adds the next one of its lane. -/
theorem release_ready (request : Request) :
    (requests.release request).ready = requests.ready.filter (· != request.number) ++
      (requests.queue request.key).head?.toList :=
  passTurn_ready ((requests.clear request.key).forget request.number) request.key

/-- A release forgets the request, and passes its turn to the first one that waits for it. -/
theorem release_find? (request : Request) (number : Nat) :
    (requests.release request).find? number =
      if number = request.number then none
      else if (requests.queue request.key).head? = some number then
        (requests.find? number).map fun next => { next with standing := .granted }
      else requests.find? number := by
  simp only [release, find?_prune, passTurn_find?, find?_forget, find?_clear]
  change (if (requests.queue request.key).head? = some number then _ else _) = _
  by_cases own : number = request.number
  · simp [own]
  · simp [own]

/-! ## Issuing -/

/-- A missing lane is as good as a free one with an empty queue. -/
private theorem lane?_getD (key : RequestKey) :
    (requests.lane? key).getD { key, holder := none } =
      { key, holder := requests.holder? key, waiting := requests.queue key } := by
  cases found : requests.lane? key with
  | none => simp [holder?, queue, found]
  | some lane =>
    have named := key_of_lane? found
    subst named
    simp [holder?, queue, found]

/-- In a free lane a new request has its turn and is ready to run. -/
theorem issue_of_free {requests : Requests} {want : Want} (limit : Option Duration)
    (free : requests.holder? want.key = none) :
    requests.issue want limit =
      ({ requests.enroll
            { key := want.key
              holder := some requests.issued
              waiting := requests.queue want.key }
            (requests.requestFor want limit .granted) with
          ready := requests.ready ++ [requests.issued] },
        requests.requestFor want limit .granted) := by
  simp only [issue, lane?_getD, free]

/-- In a lane that is held a new request stands at the end of the queue. -/
theorem issue_of_held {requests : Requests} {want : Want} {holder : Nat}
    (limit : Option Duration) (held : requests.holder? want.key = some holder) :
    requests.issue want limit =
      (requests.enroll
          { key := want.key
            holder := some holder
            waiting := requests.queue want.key ++ [requests.issued] }
          (requests.requestFor want limit .queued),
        requests.requestFor want limit .queued) := by
  simp only [issue, lane?_getD, held]

/-- A request that is issued is not in flight yet. -/
@[simp] theorem issue_inFlight (want : Want) (limit : Option Duration) :
    (requests.issue want limit).1.inFlight = requests.inFlight := by
  simp only [issue]
  split <;> rfl

/-- A new request has its turn or stands in the queue. -/
theorem issue_request (want : Want) (limit : Option Duration) :
    ∃ standing : Standing, (standing = .granted ∨ standing = .queued) ∧
      (requests.issue want limit).2 = requests.requestFor want limit standing := by
  simp only [issue]
  split
  · exact ⟨.granted, .inl rfl, rfl⟩
  · exact ⟨.queued, .inr rfl, rfl⟩

/-- A new request gets the next number. -/
@[simp] theorem issue_number (want : Want) (limit : Option Duration) :
    (requests.issue want limit).2.number = requests.issued := by
  obtain ⟨standing, _, made⟩ := requests.issue_request want limit
  rw [made]
  rfl

/-- With a new request, one more number has been given away. -/
@[simp] theorem issue_issued (want : Want) (limit : Option Duration) :
    (requests.issue want limit).1.issued = requests.issued + 1 := by
  simp only [issue]
  split <;> rfl

/-! ## The number of requests -/

/-- To enter a request into the table issues nothing. -/
@[simp] theorem enter_issued (request : Request) (generation clock : Nat) :
    (requests.enter request generation clock).issued = requests.issued := by
  simp only [enter]
  split <;> rfl

/-- A release issues nothing. -/
@[simp] theorem release_issued (request : Request) :
    (requests.release request).issued = requests.issued :=
  passTurn_issued ((requests.clear request.key).forget request.number) request.key

/-- To drop a request issues nothing. -/
@[simp] theorem drop_issued (request : Request) :
    (requests.drop request).issued = requests.issued := by
  unfold drop
  split
  · split <;> rfl
  · exact passTurn_issued (requests.forget request.number) request.key
  · exact requests.release_issued request

/-- A reply that is delivered issues nothing. -/
@[simp] theorem deliver_issued (key : RequestKey) (reply : Reply) :
    (requests.deliver key reply).issued = requests.issued := by
  unfold deliver
  split <;> rfl

/-! ## Losing a socket -/

/-- Those whose entries have failed learn that their socket is gone, and nobody else. -/
private theorem wakeAll_find? (failed : List Entry) (number : Nat) :
    (failed.foldl (fun requests entry => requests.wake entry.request .disconnected)
        requests).find? number =
      if ∃ entry ∈ failed, entry.request = number then
        (requests.find? number).map fun request => { request with standing := .disconnected }
      else requests.find? number := by
  induction failed generalizing requests with
  | nil => simp
  | cons entry failed inductionHypothesis =>
    rw [List.foldl_cons, inductionHypothesis, find?_wake]
    by_cases first : number = entry.request
    · subst first
      cases requests.find? entry.request <;> simp
    · have notFirst : entry.request ≠ number := fun same => first same.symm
      simp [first, notFirst]

/-- To wake requests adds them to those who are ready in the order of their entries, and leaves the
lanes and the numbers. -/
private theorem wakeAll_rest (failed : List Entry) :
    (failed.foldl (fun requests entry => requests.wake entry.request .disconnected)
        requests).ready = requests.ready ++ failed.map (·.request) ∧
      (failed.foldl (fun requests entry => requests.wake entry.request .disconnected)
        requests).lanes = requests.lanes ∧
      (failed.foldl (fun requests entry => requests.wake entry.request .disconnected)
        requests).issued = requests.issued := by
  induction failed generalizing requests with
  | nil => simp
  | cons entry failed inductionHypothesis =>
    obtain ⟨ready, lanes, issued⟩ := inductionHypothesis (requests.wake entry.request .disconnected)
    rw [List.foldl_cons]
    refine ⟨?_, lanes, issued⟩
    rw [ready]
    simp [wake, place]

/-- With a socket, the requests that were sent on it fail, and no other ones. -/
theorem disconnect_find? (generation number : Nat) :
    (requests.disconnect generation).find? number =
      if ∃ entry ∈ requests.inFlight, entry.generation = generation ∧ entry.request = number then
        (requests.find? number).map fun request => { request with standing := .disconnected }
      else requests.find? number := by
  unfold disconnect
  rw [wakeAll_find?]
  simp only [List.mem_filter, beq_iff_eq, and_assoc]
  rfl

/-- The requests that lose their socket are ready to run, behind those that already are. -/
theorem disconnect_ready (generation : Nat) :
    (requests.disconnect generation).ready = requests.ready ++
      (requests.inFlight.filter (·.generation == generation)).map (·.request) :=
  (wakeAll_rest _ _).1

/-- The loss of a socket leaves the lanes. -/
@[simp] theorem disconnect_lanes (generation : Nat) :
    (requests.disconnect generation).lanes = requests.lanes :=
  (wakeAll_rest _ _).2.1

/-- The loss of a socket issues nothing. -/
@[simp] theorem disconnect_issued (generation : Nat) :
    (requests.disconnect generation).issued = requests.issued :=
  (wakeAll_rest _ _).2.2

end RemoteAgent.Requests
