import RemoteAgent.Duration
import RemoteAgent.Request.Reply

/-!
# Requests under way

A request takes its turn in the lane of its key before its frame is sent. From then on it
has an entry in the table of requests in flight, under which the reply finds it. A lane
serves its requests in the order in which they came, one at a time, so that a key names at
most one request in flight. `deliver_inFlight`, `disconnect_inFlight` and `release_inFlight`
say which entries a reply, the end of a socket and the end of a request take away.
-/

namespace RemoteAgent

/-- How far a request has come. -/
inductive Standing where
  /-- It waits for its turn. -/
  | queued
  /-- It is its turn. -/
  | granted
  /-- Its frame was accepted for the socket of a generation at a moment, and no reply has come
  yet. -/
  | waiting (generation sentAt : Nat)
  /-- The reply has come. -/
  | answered (reply : Reply)
  /-- No reply will come. -/
  | disconnected
  deriving DecidableEq, Repr

/-- A request that has not ended. -/
structure Request where
  number : Nat
  key : RequestKey
  /-- The octets to send. -/
  frame : Bytes
  awaits : Reply.Kind
  /-- How long to wait for the reply, if not for ever. -/
  limit : Option Duration
  standing : Standing
  deriving DecidableEq, Repr

/-- The request has waited for its reply as long as it may. -/
def Request.isOverdue (request : Request) (clock : Nat) : Bool :=
  match request.standing, request.limit with
  | .waiting _ sentAt, some limit => decide (sentAt + limit.nanoseconds ≤ clock)
  | _, _ => false

/-- A request in flight. -/
structure Entry where
  key : RequestKey
  /-- The generation of the socket that the frame was accepted for. -/
  generation : Nat
  request : Nat
  awaits : Reply.Kind
  deriving DecidableEq, Repr

/-- The requests under a key. -/
structure Lane where
  key : RequestKey
  /-- The request whose turn it is. -/
  holder : Option Nat
  /-- The requests behind it, first come first. -/
  waiting : List Nat := []
  deriving DecidableEq, Repr

/-- Every request that has not ended. -/
structure Requests where
  /-- The number of requests so far. -/
  issued : Nat := 0
  live : List Request := []
  inFlight : List Entry := []
  lanes : List Lane := []
  /-- Requests for which something has changed since they last ran, in that order. -/
  ready : List Nat := []
  deriving DecidableEq, Repr

namespace Requests

/-- The request of a number. -/
def find? (requests : Requests) (number : Nat) : Option Request :=
  requests.live.find? (·.number == number)

/-- The request in flight under a key. -/
def entryFor? (requests : Requests) (key : RequestKey) : Option Entry :=
  requests.inFlight.find? (·.key == key)

/-- The lane of a key. -/
def lane? (requests : Requests) (key : RequestKey) : Option Lane :=
  requests.lanes.find? (·.key == key)

/-- The number of requests in flight. -/
def pending (requests : Requests) : Nat := requests.inFlight.length

/-! ## Changes to the parts -/

/-- A request has come further. -/
def place (requests : Requests) (number : Nat) (standing : Standing) : Requests :=
  { requests with live := requests.live.map fun request =>
      if request.number = number then { request with standing } else request }

/-- A request has come further through no action of its own, and is to run. -/
def wake (requests : Requests) (number : Nat) (standing : Standing) : Requests :=
  { requests.place number standing with ready := requests.ready ++ [number] }

/-- A request runs. -/
def rest (requests : Requests) (number : Nat) : Requests :=
  { requests with ready := requests.ready.filter (· != number) }

/-- Forgets a request. -/
def forget (requests : Requests) (number : Nat) : Requests :=
  { requests with
    live := requests.live.filter (·.number != number)
    ready := requests.ready.filter (· != number) }

/-- Removes the entry of a key. -/
def clear (requests : Requests) (key : RequestKey) : Requests :=
  { requests with inFlight := requests.inFlight.filter (·.key != key) }

/-- Sets the lane of a key. -/
def setLane (requests : Requests) (lane : Lane) : Requests :=
  { requests with lanes := lane :: requests.lanes.filter (·.key != lane.key) }

/-- Removes the lane of a key when nobody is in it. -/
def prune (requests : Requests) (key : RequestKey) : Requests :=
  { requests with lanes := requests.lanes.filter fun lane =>
      lane.key != key || lane.holder.isSome || !lane.waiting.isEmpty }

/-- The turn under a key goes to the first request that waits for it. -/
def passTurn (requests : Requests) (key : RequestKey) : Requests :=
  match requests.lane? key with
  | none => requests
  | some lane =>
    match lane.waiting with
    | [] => requests.setLane { lane with holder := none }
    | next :: later =>
      (requests.setLane { lane with holder := some next, waiting := later }).wake next .granted

/-! ## The course of a request -/

/-- The request that a want becomes. -/
def requestFor (requests : Requests) (want : Want) (limit : Option Duration)
    (standing : Standing) : Request :=
  { number := requests.issued, key := want.key, frame := want.frame.encode, awaits := want.awaits,
    limit, standing }

/-- Adds a request in the lane of its key. -/
def enroll (requests : Requests) (lane : Lane) (request : Request) : Requests :=
  { requests.setLane lane with
    issued := requests.issued + 1
    live := requests.live ++ [request] }

/-- Makes a request. In a free lane it is its turn at once, and it is to run. -/
def issue (requests : Requests) (want : Want) (limit : Option Duration) : Requests × Request :=
  let number := requests.issued
  let lane := (requests.lane? want.key).getD { key := want.key, holder := none }
  match lane.holder with
  | none =>
    let request := requests.requestFor want limit .granted
    ({ requests.enroll { lane with holder := some number } request with
        ready := requests.ready ++ [number] }, request)
  | some _ =>
    let request := requests.requestFor want limit .queued
    (requests.enroll { lane with waiting := lane.waiting ++ [number] } request, request)

/-- Records that the frame of a request was accepted for a socket. The request has run. An entry
that was still there is displaced, and its request gets no reply. -/
def enter (requests : Requests) (request : Request) (generation clock : Nat) : Requests :=
  let displaced := match requests.entryFor? request.key with
    | none => requests
    | some entry => requests.wake entry.request .disconnected
  let cleared := (displaced.clear request.key).rest request.number
  { cleared.place request.number (.waiting generation clock) with
    inFlight := cleared.inFlight ++
      [{ key := request.key, generation, request := request.number, awaits := request.awaits }] }

/-- A request that has had its turn ends: its entry goes, and so does its turn. -/
def release (requests : Requests) (request : Request) : Requests :=
  (((requests.clear request.key).forget request.number).passTurn request.key).prune request.key

/-- A request is dropped. Before its turn it only leaves the queue. At its turn, when it has
not run yet, it hands the turn on. After that it is released. -/
def drop (requests : Requests) (request : Request) : Requests :=
  match request.standing with
  | .queued =>
    match requests.lane? request.key with
    | none => requests.forget request.number
    | some lane =>
      (requests.setLane { lane with waiting := lane.waiting.filter (· != request.number) }).forget
        request.number
  | .granted => (requests.forget request.number).passTurn request.key
  | _ => requests.release request

/-- A reply comes in. It goes to the request in flight under its key, if there is one that
can use it. -/
def deliver (requests : Requests) (key : RequestKey) (reply : Reply) : Requests :=
  match requests.entryFor? key with
  | none => requests
  | some entry =>
    (requests.clear key).wake entry.request
      (if entry.awaits = reply.kind then .answered reply else .disconnected)

/-- The socket of a generation is gone, and with it its requests in flight. -/
def disconnect (requests : Requests) (generation : Nat) : Requests :=
  let failed := requests.inFlight.filter (·.generation == generation)
  failed.foldl (fun requests entry => requests.wake entry.request .disconnected)
    { requests with inFlight := requests.inFlight.filter (·.generation != generation) }

/-! ## What the changes do to the views -/

@[simp] theorem entryFor?_clear_self (requests : Requests) (key : RequestKey) :
    (requests.clear key).entryFor? key = none := by
  simp [entryFor?, clear]

theorem entryFor?_clear_of_ne (requests : Requests) {key other : RequestKey} (different : other ≠ key) :
    (requests.clear key).entryFor? other = requests.entryFor? other := by
  simp only [entryFor?, clear, List.find?_filter]
  congr 1
  funext entry
  by_cases same : entry.key = other
  · simp [same, different]
  · simp [same]

@[simp] theorem lane?_setLane_self (requests : Requests) (lane : Lane) :
    (requests.setLane lane).lane? lane.key = some lane := by
  simp [lane?, setLane]

theorem lane?_setLane_of_ne (requests : Requests) {lane : Lane} {other : RequestKey}
    (different : other ≠ lane.key) :
    (requests.setLane lane).lane? other = requests.lane? other := by
  simp only [lane?, setLane, List.find?_cons, List.find?_filter]
  have notSame : (lane.key == other) = false := by simpa using Ne.symm different
  rw [notSame]
  change List.find? _ requests.lanes = List.find? _ requests.lanes
  congr 1
  funext candidate
  by_cases same : candidate.key = other
  · simp [same, different]
  · simp [same]

@[simp] theorem wake_inFlight (requests : Requests) (number : Nat) (standing : Standing) :
    (requests.wake number standing).inFlight = requests.inFlight := rfl

@[simp] theorem wake_lanes (requests : Requests) (number : Nat) (standing : Standing) :
    (requests.wake number standing).lanes = requests.lanes := rfl

@[simp] theorem setLane_inFlight (requests : Requests) (lane : Lane) :
    (requests.setLane lane).inFlight = requests.inFlight := rfl

@[simp] theorem passTurn_inFlight (requests : Requests) (key : RequestKey) :
    (requests.passTurn key).inFlight = requests.inFlight := by
  unfold passTurn
  split
  · rfl
  · split <;> rfl

/-- A release takes the entries of its key out of flight, and no others. -/
@[simp] theorem release_inFlight (requests : Requests) (request : Request) :
    (requests.release request).inFlight =
      requests.inFlight.filter (·.key != request.key) := by
  simp [release, prune, forget, clear]

/-- A reply takes the entries of its key out of flight, and no others. -/
theorem deliver_inFlight (requests : Requests) (key : RequestKey) (reply : Reply) :
    (requests.deliver key reply).inFlight = requests.inFlight.filter (·.key != key) := by
  unfold deliver
  split
  · next nothing =>
    have distinct : ∀ entry ∈ requests.inFlight, entry.key ≠ key := by
      simpa [entryFor?, List.find?_eq_none] using nothing
    exact (List.filter_eq_self.mpr fun entry member => by simpa using distinct entry member).symm
  · rfl

/-- The end of a socket takes the entries of its generation out of flight, and no others. -/
theorem disconnect_inFlight (requests : Requests) (generation : Nat) :
    (requests.disconnect generation).inFlight =
      requests.inFlight.filter (·.generation != generation) := by
  have kept : ∀ (failed : List Entry) (start : Requests),
      (failed.foldl (fun requests entry => requests.wake entry.request .disconnected)
        start).inFlight = start.inFlight := by
    intro failed
    induction failed with
    | nil => exact fun _ => rfl
    | cons entry failed inductionHypothesis =>
      exact fun start => (inductionHypothesis _).trans (wake_inFlight ..)
  exact kept _ _

end Requests

end RemoteAgent
