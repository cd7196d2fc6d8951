import RemoteAgent.Proofs.Client.Calls
import RemoteAgent.Proofs.Transfer.Talks

/-!
# The transcript of a call

What can be seen of one call for files among all that a client does: what it asks for, what is sent
for it, what it hears, and how it ends (`transcript`). The trace tells whose a request is, since a
call makes its first request as it comes in, and every other one with the reply to the one before
(`askerOf`). The calls that are under way and what the trace tells of all calls fit together
(`Client.Scripts`).
-/

namespace RemoteAgent

/-- The call that made a request. Traces begin with the last thing. -/
def askerOf : List Event → Nat → Option Nat
  | [], _ => none
  | .issued number _ :: earlier, request =>
    if number = request then
      match earlier with
      | .started call _ :: _ => some call
      | .answered before _ :: _ => askerOf earlier before
      | _ => none
    else askerOf earlier request
  | _ :: earlier, request => askerOf earlier request

/-- What an event tells of a call. -/
def lineOf (call : Nat) (earlier : List Event) : Event → Option Line
  | .issued request key =>
    if askerOf (.issued request key :: earlier) request = some call then some (.asks key) else none
  | .sent request _ =>
    match earlier with
    | .accepted _ frame :: _ =>
      if askerOf earlier request = some call then some (.sends frame) else none
    | _ => none
  | .answered request outcome =>
    if askerOf earlier request = some call then some (.hears outcome) else none
  | .finished number progress outcome =>
    if number = call then some (.ends progress outcome) else none
  | _ => none

/-- What a trace tells of a call, the first thing first. -/
def transcript (call : Nat) : List Event → List Line
  | [] => []
  | event :: earlier => transcript call earlier ++ (lineOf call earlier event).toList

/-! ## Events that are not of the call -/

/-- Whose request a request is was settled when it was issued. -/
theorem askerOf_cons {event : Event} {earlier : List Event} {request : Nat}
    (other : ∀ key, event ≠ .issued request key) :
    askerOf (event :: earlier) request = askerOf earlier request := by
  cases event with
  | issued number key =>
    have different : number ≠ request := by
      rintro rfl
      exact other key rfl
    simp [askerOf, different]
  | _ => rfl

/-- An event of another call adds no line. -/
theorem transcript_cons_of_none {event : Event} {earlier : List Event} {call : Nat}
    (aside : lineOf call earlier event = none) :
    transcript call (event :: earlier) = transcript call earlier := by
  simp [transcript, aside]

/-- An event of the call adds its line behind all others. -/
theorem transcript_cons_of_some {event : Event} {earlier : List Event} {call : Nat} {line : Line}
    (tells : lineOf call earlier event = some line) :
    transcript call (event :: earlier) = transcript call earlier ++ [line] := by
  simp [transcript, tells]

/-- Where nothing is told of calls and their requests, nothing is told of any of them. -/
theorem transcript_of_aside {events : List Event}
    (aside : ∀ event ∈ events, event.isOfTransfer = false) (earlier : List Event) (number : Nat) :
    askerOf (events ++ earlier) number = askerOf earlier number ∧
      transcript number (events ++ earlier) = transcript number earlier := by
  induction events with
  | nil => exact ⟨rfl, rfl⟩
  | cons event events inductionHypothesis =>
    obtain ⟨first, others⟩ := List.forall_mem_cons.mp aside
    obtain ⟨asker, lines⟩ := inductionHypothesis others
    have silent : lineOf number (events ++ earlier) event = none := by
      cases event <;> first | rfl | cases first
    refine ⟨(askerOf_cons ?_).trans asker, (transcript_cons_of_none silent).trans lines⟩
    rintro key rfl
    cases first

/-- The end of a request leaves the others as they are, up to the turn that it hands on. -/
theorem Requests.Sound.release_alike {requests : Requests} (sound : requests.Sound)
    (request : Request) {number : Nat} {before : Request}
    (found : requests.find? number = some before) (other : number ≠ request.number) :
    ∃ later, (requests.release request).find? number = some later ∧ before.Alike later := by
  rw [Requests.release_find?, if_neg other, found]
  split
  · next first =>
    obtain ⟨queued, foundQueued, _, standing⟩ :=
      (sound.queue_iff request.key number).mp (List.mem_of_head? first)
    rw [found] at foundQueued
    cases foundQueued
    exact ⟨_, rfl, rfl, rfl, by rw [standing]; rfl⟩
  · exact ⟨before, rfl, .refl before⟩

/-- Whatever is left when a request ends was there before, and is another one. -/
theorem Requests.found_of_release {requests : Requests} {request later : Request} {number : Nat}
    (found : (requests.release request).find? number = some later) :
    number ≠ request.number ∧ ∃ before, requests.find? number = some before := by
  rw [Requests.release_find?] at found
  split at found
  · cases found
  · next apart =>
    refine ⟨apart, ?_⟩
    split at found
    · obtain ⟨before, foundBefore, -⟩ := Option.map_eq_some_iff.mp found
      exact ⟨before, foundBefore⟩
    · exact ⟨later, found⟩

namespace Client

variable {config : Config} {client after : Client} {action : Action}

/-- A call has come so far, and its transcript tells so. -/
def Unfolds (client : Client) (operation : Operation) (number : Nat) (stage : Stage) : Prop :=
  RemoteAgent.Unfolds client.config.chunkSize operation (transcript number client.trace) stage

/-- A call for an operation waits for the request that its transfer wants. -/
structure Underway (client : Client) (call : Call) (operation : Operation) (want : Want)
    (request : Request) : Prop where
  started : .started call.number operation ∈ client.trace
  asker : askerOf client.trace call.request = some call.number
  unfolds : client.Unfolds operation call.number
    (.waits call.progress call.transfer request.standing.isSent)
  wanted : call.transfer.wants client.config.chunkSize = .ok want
  found : client.requests.find? call.request = some request
  key : request.key = want.key
  frame : request.frame = want.frame.encode

/-- What the trace tells of calls, whether they are under way or not. A call may be in turn, and all
others rest. -/
structure Ledger (client : Client) (turning : Option Nat) : Prop where
  unfolds : ∀ {number operation}, .started number operation ∈ client.trace →
    turning ≠ some number → ∃ stage, stage.isResting = true ∧ client.Unfolds operation number stage
  /-- A call is for one operation. -/
  unique : ∀ {number operation other}, .started number operation ∈ client.trace →
    .started number other ∈ client.trace → operation = other
  past : ∀ {number operation}, .started number operation ∈ client.trace →
    number < client.called
  /-- Every request is that of a call. -/
  asked : ∀ {request key}, .issued request key ∈ client.trace → ∃ number operation,
    askerOf client.trace request = some number ∧ .started number operation ∈ client.trace
  known : ∀ {request call}, askerOf client.trace request = some call →
    request < client.requests.issued ∧ call < client.called
  /-- Nothing is told of calls that have not come in. -/
  idle : ∀ {number}, client.called ≤ number → transcript number client.trace = []

/-- Calls and what the trace tells of them fit together. -/
structure Scripts (client : Client) (turning : Option Nat) : Prop extends client.Ledger turning where
  underway : ∀ call ∈ client.calls, ∃ operation want request,
    client.Underway call operation want request
  /-- Every request is that of a call that waits for it. -/
  owned : ∀ {number request}, client.requests.find? number = some request →
    ∃ call ∈ client.calls, call.request = number
  /-- Calls have numbers of their own. -/
  numbered : (client.calls.map (·.number)).Nodup

/-- A call is about to go on from a turn of its transfer. -/
structure InTurn (client : Client) (number : Nat) (operation : Operation)
    (progress : List Progress) (turn : Transfer.Turn) : Prop where
  others : (client.without number).Scripts (some number)
  started : .started number operation ∈ client.trace
  past : number < client.called
  unfolds : client.Unfolds operation number (.comes progress turn)
  /-- The next request is that of the call. -/
  asker : ∀ request key, askerOf (.issued request key :: client.trace) request = some number

/-! ## What is told of one call only -/

/-- Nothing is told of any call but one. -/
structure Touches (client after : Client) (number : Nat) : Prop where
  config : after.config = client.config
  called : after.called = client.called
  issued : client.requests.issued ≤ after.requests.issued
  started : ∀ {other operation}, .started other operation ∈ after.trace ↔
    .started other operation ∈ client.trace
  lines : ∀ other, other ≠ number → transcript other after.trace = transcript other client.trace
  issues : ∀ {request key}, .issued request key ∈ after.trace →
    .issued request key ∈ client.trace ∨ askerOf after.trace request = some number
  /-- Requests keep their askers, and a new one is that of the call. -/
  askers : ∀ request, askerOf after.trace request = askerOf client.trace request ∨
    client.requests.issued ≤ request ∧ request < after.requests.issued ∧
      askerOf after.trace request = some number

namespace Touches

variable {number : Nat}

theorem trans {first middle last : Client} (before : first.Touches middle number)
    (afterwards : middle.Touches last number) : first.Touches last number where
  config := afterwards.config.trans before.config
  called := afterwards.called.trans before.called
  issued := Nat.le_trans before.issued afterwards.issued
  started := afterwards.started.trans before.started
  lines other different := (afterwards.lines other different).trans (before.lines other different)
  issues issued := by
    rcases afterwards.issues issued with old | own
    · refine (before.issues old).imp_right fun own => ?_
      rcases afterwards.askers _ with same | ⟨_, _, ownToo⟩
      · exact same.trans own
      · exact ownToo
    · exact .inr own
  askers request := by
    rcases afterwards.askers request with same | ⟨fresh, past, own⟩
    · rw [same]
      exact (before.askers request).imp_right fun ⟨fresh, past, own⟩ =>
        ⟨fresh, Nat.lt_of_lt_of_le past afterwards.issued, own⟩
    · exact .inr ⟨Nat.le_trans before.issued fresh, past, own⟩

/-- Nothing is told where requests and calls change. -/
theorem within (client : Client) (link : Link) (requests : Requests) (calls : List Call)
    (issued : client.requests.issued ≤ requests.issued) :
    client.Touches { client with link, requests, calls } number :=
  ⟨rfl, rfl, issued, Iff.rfl, fun _ _ => rfl, .inl, fun _ => .inl rfl⟩

/-- An event touches only the call in whose transcript it has a line. -/
theorem note (client : Client) {event : Event}
    (running : ∀ other operation, event ≠ .started other operation)
    (asked : ∀ request key, event ≠ .issued request key)
    (others : ∀ other, other ≠ number → lineOf other client.trace event = none) :
    client.Touches (client.note event) number where
  config := rfl
  called := rfl
  issued := Nat.le_refl _
  started := by
    intro other operation
    rw [show (client.note event).trace = event :: client.trace from rfl, List.mem_cons]
    exact or_iff_right (running other operation).symm
  lines other different := transcript_cons_of_none (others other different)
  issues := by
    intro request key issued
    rw [show (client.note event).trace = event :: client.trace from rfl, List.mem_cons] at issued
    exact .inl (issued.resolve_left (asked request key).symm)
  askers request := .inl (askerOf_cons (asked request))

/-- The end of a call touches that call. -/
theorem finished (client : Client) (progress : List Progress) (outcome : Except Failure Delivery) :
    client.Touches (client.note (.finished number progress outcome)) number :=
  note client (by simp) (by simp) fun other different => by simp [lineOf, Ne.symm different]

/-- The end of a request touches the call whose request it is. -/
theorem answered {request : Nat} (own : askerOf client.trace request = some number)
    (outcome : Except Failure Reply) :
    client.Touches (client.note (.answered request outcome)) number :=
  note client (by simp) (by simp) fun other different => by
    simp [lineOf, own, Ne.symm different]

/-- Sending a request touches the call whose request it is. -/
theorem sent {request : Nat} (own : askerOf client.trace request = some number)
    (generation : Nat) (frame : Bytes) :
    client.Touches ((client.note (.accepted generation frame)).note (.sent request generation))
      number := by
  have ownToo : askerOf (client.note (.accepted generation frame)).trace request = some number := own
  refine (note client (by simp) (by simp) fun _ _ => rfl).trans
    (note _ (by simp) (by simp) fun other different => ?_)
  simp only [lineOf, Client.note]
  exact if_neg fun same => different (Option.some.inj (same.symm.trans ownToo))

end Touches

/-- What is told of one call only is told of no other. -/
theorem Unfolds.keep {number : Nat} {operation : Operation} {stage : Stage}
    (unfolds : client.Unfolds operation number stage) (config : after.config = client.config)
    (lines : transcript number after.trace = transcript number client.trace) :
    after.Unfolds operation number stage := by
  unfold Unfolds at unfolds ⊢
  rw [config, lines]
  exact unfolds

/-- What the trace tells of calls is kept where nothing is told of any but one. -/
theorem Ledger.touched {number : Nat} {operation : Operation} {before turning : Option Nat}
    (ledger : client.Ledger before) (touches : client.Touches after number)
    (only : ∀ other, before = some other → other = number) (past : number < client.called)
    (started : .started number operation ∈ client.trace)
    (own : turning = some number ∨
      ∃ stage, stage.isResting = true ∧ after.Unfolds operation number stage) :
    after.Ledger turning where
  unfolds := by
    intro other otherOperation startedOther rests
    have startedBefore := touches.started.mp startedOther
    by_cases isOwn : other = number
    · subst isOwn
      cases ledger.unique started startedBefore
      exact own.resolve_left rests
    · obtain ⟨stage, resting, unfolds⟩ := ledger.unfolds startedBefore fun same =>
        isOwn (only other same)
      exact ⟨stage, resting, unfolds.keep touches.config (touches.lines other isOwn)⟩
  unique first second := ledger.unique (touches.started.mp first) (touches.started.mp second)
  past startedOther := touches.called ▸ ledger.past (touches.started.mp startedOther)
  asked := by
    intro request key issued
    have own : askerOf after.trace request = some number → ∃ number operation,
        askerOf after.trace request = some number ∧ .started number operation ∈ after.trace :=
      fun own => ⟨number, operation, own, touches.started.mpr started⟩
    rcases touches.issues issued with old | new
    · obtain ⟨other, otherOperation, asker, startedOther⟩ := ledger.asked old
      rcases touches.askers request with same | ⟨_, _, new⟩
      · exact ⟨other, otherOperation, same.trans asker, touches.started.mpr startedOther⟩
      · exact own new
    · exact own new
  known := by
    intro request call asker
    rw [touches.called]
    rcases touches.askers request with same | ⟨_, issued, own⟩
    · obtain ⟨issued, called⟩ := ledger.known (same ▸ asker)
      exact ⟨Nat.lt_of_lt_of_le issued touches.issued, called⟩
    · cases own.symm.trans asker
      exact ⟨issued, past⟩
  idle := by
    intro other beyond
    rw [touches.called] at beyond
    rw [touches.lines other (Nat.ne_of_gt (Nat.lt_of_lt_of_le past beyond))]
    exact ledger.idle beyond

/-- A call of which nothing is told still waits, as long as its request is as it was. -/
theorem Underway.touched {number : Nat} {call : Call} {operation : Operation} {want : Want}
    {request later : Request} {turning : Option Nat}
    (underway : client.Underway call operation want request)
    (ledger : client.Ledger turning) (touches : client.Touches after number) (other : call.number ≠ number)
    (found : after.requests.find? call.request = some later) (alike : request.Alike later) :
    after.Underway call operation want later where
  started := touches.started.mpr underway.started
  asker := by
    rcases touches.askers call.request with same | ⟨fresh, _⟩
    · exact same.trans underway.asker
    · exact absurd (ledger.known underway.asker).1 (Nat.not_lt.mpr fresh)
  unfolds := alike.sent ▸ underway.unfolds.keep touches.config (touches.lines _ other)
  wanted := touches.config ▸ underway.wanted
  found := found
  key := alike.key.trans underway.key
  frame := alike.frame.trans underway.frame

end Client

end RemoteAgent
