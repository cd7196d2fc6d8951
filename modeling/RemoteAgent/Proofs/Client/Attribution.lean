import RemoteAgent.Proofs.Client.Places
import RemoteAgent.Proofs.Client.Replies
import RemoteAgent.Proofs.Frame.Files

/-!
# Whose answer a request gets

An `Exchange` is a run with an agent that answers each request for a file at most once: with a reply
under the key of the request, on any socket and after any delay. Replies carry no number, so that one
which comes late goes to the request that waits under its key by then
(`late_answer_misattributed`). A request therefore gets the answer to its own frame, or to
one under its key whose answer was still to come when it was sent (`answer_attribution`).
-/

namespace RemoteAgent

/-- The agent reads the octets of a message, whose number eight octets can hold, as a request for a
file under a key. -/
def Asks (octets : Bytes) (key : RequestKey) : Prop :=
  octets.length < Bytes.span 8 ∧ ∃ frame, Outbound.decode octets = .ok frame ∧ frame.key? = some key

/-- The reply that comes in with an action, under its key. -/
def Action.reply? : Action → Option (RequestKey × Reply)
  | .receive _ (.binary octets) =>
    match Inbound.decode octets with
    | .ok frame => frame.reply?
    | .error _ => none
  | _ => none

/-- An answer of the agent. -/
structure Answer where
  /-- The place of the frame that it answers. -/
  place : Place
  frame : Inbound
  /-- What the client had done when it came, the last thing first. -/
  past : List Event

namespace Client

/-- Runs in which every reply is the agent's only answer to a frame that it has received. -/
inductive Exchange (config : Config) : Client → List Answer → Prop where
  | initial : Exchange config (.initial config) []
  | act {client : Client} {answers : List Answer} (before : Exchange config client answers)
      (action : Action) (quiet : action.reply? = none) :
      Exchange config (client.step action) answers
  | answer {client : Client} {answers : List Answer} (before : Exchange config client answers)
      {place : Place} {asking octets : Bytes} {frame : Inbound} {key : RequestKey} {reply : Reply}
      (received : (transmittedOn place.generation client.trace)[place.index]? = some asking)
      (asks : Asks asking key) (unanswered : ∀ other ∈ answers, other.place ≠ place)
      (decoded : Inbound.decode octets = .ok frame) (replies : frame.reply? = some (key, reply))
      (generation : Nat) :
      Exchange config (client.step (.receive generation (.binary octets)))
        (⟨place, frame, client.trace⟩ :: answers)

/-- How a request came by its reply. -/
structure Attribution (client : Client) (answers : List Answer) (number : Nat) (reply : Reply)
    (key : RequestKey) (own : Place) (answer : Answer) : Prop where
  issued : .issued number key ∈ client.trace
  /-- The place of its own frame. -/
  placed : placeOf number client.trace = some own
  given : answer ∈ answers
  replies : answer.frame.reply? = some (key, reply)
  /-- The request had been sent when the answer came. -/
  inTime : placeOf number answer.past = some own
  /-- The frame that is answered asks for the same. -/
  asked : ∃ octets, frameAt answer.place answer.past = some octets ∧ Asks octets key
  /-- That frame is its own, or came before it, or was sent by the owner on no request's behalf. -/
  source : answer.place = own ∨ answer.place.Precedes own ∨
    ∀ other, placeOf other client.trace ≠ some answer.place

variable {config : Config} {client after : Client} {action : Action} {answers : List Answer}

/-! ## Exchanges -/

/-- An exchange is a run. -/
theorem Exchange.reachable (exchange : Exchange config client answers) :
    Reachable config client := by
  induction exchange with
  | initial => exact .initial
  | act _ action _ inductionHypothesis => exact inductionHypothesis.step action
  | answer _ _ _ _ _ _ _ inductionHypothesis => exact inductionHypothesis.step _

/-- An exchange goes on while no reply comes in. -/
theorem Exchange.run (exchange : Exchange config client answers) {actions : List Action}
    (quiet : ∀ action ∈ actions, action.reply? = none) :
    Exchange config (client.run actions) answers := by
  induction actions generalizing client with
  | nil => exact exchange
  | cons action later inductionHypothesis =>
    exact inductionHypothesis (exchange.act action (quiet action List.mem_cons_self))
      fun other member => quiet other (List.mem_cons_of_mem _ member)

/-- A frame is answered once. -/
theorem Exchange.once (exchange : Exchange config client answers) {answer other : Answer}
    (given : answer ∈ answers) (givenToo : other ∈ answers) (same : other.place = answer.place) :
    other = answer := by
  induction exchange with
  | initial => cases given
  | act _ _ _ inductionHypothesis => exact inductionHypothesis given givenToo
  | answer _ _ _ unanswered _ _ _ inductionHypothesis =>
    rcases List.mem_cons.mp given with rfl | old
    · rcases List.mem_cons.mp givenToo with rfl | oldToo
      · rfl
      · exact absurd same (unanswered other oldToo)
    · rcases List.mem_cons.mp givenToo with rfl | oldToo
      · exact absurd same.symm (unanswered answer old)
      · exact inductionHypothesis old oldToo

/-! ## What moves keep -/

/-- A place that no request has taken by the time its frame is accepted stays so. -/
theorem Move.unclaimed (moves : Move action client after) (sound : client.Sound) {place : Place}
    {octets : Bytes} (accepted : frameAt place client.trace = some octets)
    (unclaimed : ∀ other, RemoteAgent.placeOf other client.trace ≠ some place) (other : Nat) :
    RemoteAgent.placeOf other after.trace ≠ some place := by
  intro placed
  rcases moves.sends sound with ⟨request, generation, _, _, _, _, told⟩ |
    ⟨events, extended, unsent⟩
  · rw [told, placeOf_sent] at placed
    split at placed
    · cases placed
      obtain ⟨inside, _⟩ := List.getElem?_eq_some_iff.mp accepted
      exact Nat.lt_irrefl _ inside
    · exact unclaimed other placed
  · rw [extended, placeOf_append unsent] at placed
    exact unclaimed other placed

/-- How a request came by its reply does not change. -/
theorem Attribution.move {number : Nat} {reply : Reply} {key : RequestKey} {own : Place}
    {answer : Answer} (attribution : client.Attribution answers number reply key own answer)
    (past : answer.past <:+ client.trace) (moves : Move action client after) (sound : client.Sound)
    (outcomes : client.Outcomes) : after.Attribution answers number reply key own answer := by
  refine { attribution with
    issued := moves.remembers sound attribution.issued
    placed := moves.placeOf sound outcomes attribution.placed
    source := attribution.source.imp_right (Or.imp_right fun unclaimed => ?_) }
  obtain ⟨octets, accepted, _⟩ := attribution.asked
  obtain ⟨events, extended⟩ := past
  exact moves.unclaimed sound (extended ▸ frameAt_append accepted events) unclaimed

/-- Every reply that a request got is attributed. -/
structure Attributed (client : Client) (answers : List Answer) : Prop where
  past : ∀ answer ∈ answers, answer.past <:+ client.trace
  answered : ∀ {number request reply}, client.requests.find? number = some request →
    request.standing = .answered reply →
      ∃ key own answer, client.Attribution answers number reply key own answer
  ended : ∀ {number reply}, .answered number (.ok reply) ∈ client.trace →
    ∃ key own answer, client.Attribution answers number reply key own answer

/-- A reply that goes to a request that waits. -/
theorem attribution_of_delivery (outcomes : client.Outcomes) (places : client.Places)
    {answer : Answer} (given : answer ∈ answers) (past : answer.past <:+ client.trace)
    {number : Nat} {request : Request} {reply : Reply}
    (found : client.requests.find? number = some request)
    (waits : request.standing.isWaiting = true)
    (replies : answer.frame.reply? = some (request.key, reply))
    (asked : ∃ octets, frameAt answer.place answer.past = some octets ∧ Asks octets request.key)
    (settled : ∀ other place, placeOf other client.trace = some place →
      placeOf other answer.past = some place) :
    ∃ key own answer, client.Attribution answers number reply key own answer := by
  obtain ⟨own, placed, others⟩ := places.waiting found waits
  refine ⟨request.key, own, answer, outcomes.issued found, placed, given, replies,
    settled number own placed, asked, ?_⟩
  by_cases claimed : ∃ other, placeOf other client.trace = some answer.place
  · obtain ⟨other, placedOther⟩ := claimed
    rcases others other answer.place placedOther with same | before | ⟨key, issued, different⟩
    · exact .inl same
    · exact .inr (.inl before)
    · -- The frame that is answered is that of a request under the key of the reply.
      exfalso
      obtain ⟨octets, accepted, fits, read, decoded, asks⟩ := asked
      obtain ⟨events, extended⟩ := past
      obtain ⟨named, frame, issuedToo, keyOfFrame, acceptedToo⟩ := places.placed placedOther
      rw [← extended, frameAt_append accepted events] at acceptedToo
      cases acceptedToo
      rw [Outbound.decode_encode_of_key keyOfFrame fits] at decoded
      cases decoded
      rw [keyOfFrame] at asks
      cases asks
      exact different (outcomes.issued_unique issued issuedToo)
  · exact .inr (.inr fun other placedOther => claimed ⟨other, placedOther⟩)

/-- A move keeps replies attributed, if what comes in is attributed. -/
theorem Move.attributed (moves : Move action client after) (sound : client.Sound)
    (outcomes : client.Outcomes) (places : client.Places) (attributed : client.Attributed answers)
    (comes : ∀ key reply, action.reply? = some (key, reply) → ∃ answer ∈ answers,
      answer.frame.reply? = some (key, reply) ∧
        (∃ octets, frameAt answer.place answer.past = some octets ∧ Asks octets key) ∧
        ∀ other place, RemoteAgent.placeOf other client.trace = some place →
          RemoteAgent.placeOf other answer.past = some place) :
    after.Attributed answers := by
  obtain ⟨events, extended, _⟩ := moves.adds sound
  have keep : ∀ {number reply},
      (∃ key own answer, client.Attribution answers number reply key own answer) →
      ∃ key own answer, after.Attribution answers number reply key own answer := by
    rintro number reply ⟨key, own, answer, attribution⟩
    exact ⟨key, own, answer,
      attribution.move (attributed.past answer attribution.given) moves sound outcomes⟩
  refine ⟨?_, ?_, ?_⟩
  · intro answer given
    exact (attributed.past answer given).trans ⟨events, extended.symm⟩
  · intro number request reply found came
    rcases moves.foundAfter sound found with ⟨before, foundBefore, follows⟩ | ⟨_, _, early, _⟩
    · cases follows with
      | same => exact keep (attributed.answered foundBefore came)
      | granted => cases came
      | sent => cases came
      | answered waits receives _ _ decoded replies =>
        cases came
        obtain ⟨answer, given, repliesToo, asked, settled⟩ := comes before.key reply (by
          simp [receives, Action.reply?, decoded, replies])
        exact keep (attribution_of_delivery outcomes places given (attributed.past answer given)
          foundBefore waits repliesToo asked settled)
      | lost => cases came
    · rcases early with turn | turn <;> simp [turn] at came
  · intro number reply member
    rcases moves.explains sound member with old | ⟨_, request, found, ending, _⟩
    · exact keep (attributed.ended old)
    · cases ending with
      | answered came => exact keep (attributed.answered found came)

/-- With another answer, what was attributed stays so. -/
theorem Attributed.cons (attributed : client.Attributed answers) {answer : Answer}
    (past : answer.past <:+ client.trace) : client.Attributed (answer :: answers) := by
  have keep : ∀ {number reply},
      (∃ key own other, client.Attribution answers number reply key own other) →
      ∃ key own other, client.Attribution (answer :: answers) number reply key own other := by
    rintro number reply ⟨key, own, other, attribution⟩
    exact ⟨key, own, other,
      { attribution with given := List.mem_cons_of_mem _ attribution.given }⟩
  refine ⟨?_, fun found came => keep (attributed.answered found came),
    fun member => keep (attributed.ended member)⟩
  intro other given
  rcases List.mem_cons.mp given with rfl | old
  · exact past
  · exact attributed.past other old

/-- A frame that was written was accepted at its place. -/
theorem InOrder.frameAt_of_transmitted (inOrder : client.InOrder) {place : Place} {octets : Bytes}
    (received : (transmittedOn place.generation client.trace)[place.index]? = some octets) :
    frameAt place client.trace = some octets := by
  obtain ⟨later, accepted⟩ := inOrder.written place.generation
  obtain ⟨inside, _⟩ := List.getElem?_eq_some_iff.mp received
  rw [frameAt, ← accepted, List.getElem?_append_left inside]
  exact received

/-- Nothing is sent while a message comes in. -/
theorem Move.placeOf_of_aside (moves : Move action client after) (sound : client.Sound)
    (aside : action.runsRequests = false) (number : Nat) :
    RemoteAgent.placeOf number after.trace = RemoteAgent.placeOf number client.trace := by
  rcases moves.sends sound with ⟨_, _, runs, _⟩ | ⟨events, extended, unsent⟩
  · exact absurd (runs.symm.trans aside) (by simp)
  · rw [extended, placeOf_append unsent]

/-- In an exchange, every reply that a request got is attributed. -/
theorem Exchange.attributed (exchange : Exchange config client answers) :
    client.Attributed answers := by
  induction exchange with
  | initial => exact ⟨by simp, by simp [Client.initial, Requests.find?], by simp [Client.initial]⟩
  | act before action quiet inductionHypothesis =>
    refine @Reachable.step_keeps _ _ action (fun client => client.Attributed _) before.reachable
      ?_ inductionHypothesis
    intro middle next sound outcomes places moves attributed
    apply moves.attributed sound outcomes places attributed
    intro key reply comes
    rw [quiet] at comes
    cases comes
  | @answer client answers before place asking octets frame key reply received asks _ decoded
      replies generation inductionHypothesis =>
    have comesIn : (Action.receive generation (.binary octets)).reply? =
        some (key, reply) := by
      simp [Action.reply?, decoded, replies]
    have asked : ∃ octets, frameAt place client.trace = some octets ∧ Asks octets key :=
      ⟨asking, before.reachable.inOrder.frameAt_of_transmitted received, asks⟩
    -- The requests that have been sent stay the same in the step.
    refine (@Reachable.step_keeps _ _ (.receive generation (.binary octets))
      (fun middle => middle.Attributed (⟨place, frame, client.trace⟩ :: answers) ∧
        ∀ number, placeOf number middle.trace = placeOf number client.trace) before.reachable ?_
      ⟨inductionHypothesis.cons (List.suffix_refl _), fun _ => rfl⟩).1
    rintro middle next sound outcomes places moves ⟨attributed, settled⟩
    refine ⟨moves.attributed sound outcomes places attributed ?_, fun number =>
      (moves.placeOf_of_aside sound rfl number).trans (settled number)⟩
    intro other otherReply comes
    rw [comesIn] at comes
    cases comes
    exact ⟨_, List.mem_cons_self, replies, asked, fun number place placed =>
      (settled number).symm.trans placed⟩

/-- A request keeps its place in every run. -/
theorem Reachable.placeOf_run (reachable : Reachable config client) {number : Nat} {place : Place}
    (placed : placeOf number client.trace = some place) (actions : List Action) :
    placeOf number (client.run actions).trace = some place := by
  induction actions generalizing client with
  | nil => exact placed
  | cons action later inductionHypothesis =>
    apply inductionHypothesis (reachable.step action)
    exact @Reachable.step_keeps _ _ action (fun client => placeOf number client.trace = some place)
      reachable
      (fun _ _ sound outcomes _ moves placed => moves.placeOf sound outcomes placed) placed

/-- A request that ends with a reply has it from an answer to a frame under its key, which came when
its own frame had been sent: an answer to its own frame, or to one that was accepted before it, or to
one that no request had sent. It has the answer to its own frame if all other frames under its key
had been answered before it was sent. -/
theorem answer_attribution (exchange : Exchange config client answers) {number : Nat}
    {reply : Reply} (answered : .answered number (.ok reply) ∈ client.trace) :
    ∃ key own answer, client.Attribution answers number reply key own answer ∧
      ((∀ place octets, frameAt place answer.past = some octets → Asks octets key → place ≠ own →
          ∃ other ∈ answers, other.place = place ∧ placeOf number other.past = none) →
        answer.place = own) := by
  obtain ⟨key, own, answer, attribution⟩ := exchange.attributed.ended answered
  refine ⟨key, own, answer, attribution, fun timely => ?_⟩
  by_cases same : answer.place = own
  · exact same
  · exfalso
    obtain ⟨octets, accepted, asks⟩ := attribution.asked
    obtain ⟨other, given, samePlace, unsent⟩ := timely answer.place octets accepted asks same
    rw [exchange.once attribution.given given samePlace, attribution.inTime] at unsent
    cases unsent

/-- A client that has asked for a piece of a file. -/
def asking : Client :=
  (Client.initial .loopback).run
    [.connect, .settle 1 .accepted, .resolve 1, .start (.read "a" 0) (some (.ofSeconds 1)),
      .transmit 1]

/-- A client that has asked for the same piece of a file twice, the first time in vain. -/
def askingAgain : Client :=
  asking.run [.wait (.ofSeconds 1), .poll 0, .start (.read "a" 0) none, .transmit 1]

/-- A piece of the file that is asked for. -/
def piece : Inbound := .fileChunk "a" ⟨0, [1]⟩

theorem decode_piece : Inbound.decode piece.encode = .ok piece :=
  Inbound.decode_encode_fileChunk "a" (by decide)

theorem asks_piece : Asks (Outbound.readChunk "a" 0 4).encode (.read "a" 0) := by
  have fits : (Outbound.readChunk "a" 0 4).encode.length < Bytes.span 8 := by decide
  exact ⟨fits, _, Outbound.decode_encode_of_key rfl fits, rfl⟩

theorem exchange_asking : Exchange .loopback asking [] := Exchange.initial.run (by decide)

/-- The answer to the only request goes to that request. -/
theorem answer_attribution_of_read :
    let client := (asking.step (.receive 1 (.binary piece.encode))).step (.poll 0)
    let answers : List Answer := [⟨⟨1, 0⟩, piece, asking.trace⟩]
    Exchange .loopback client answers ∧ .answered 0 (.ok (.chunk ⟨0, [1]⟩)) ∈ client.trace ∧
      ∃ key own answer, client.Attribution answers 0 (.chunk ⟨0, [1]⟩) key own answer ∧
        answer.place = own := by
  intro client answers
  have received : (transmittedOn 1 asking.trace)[0]? =
      some (Outbound.readChunk "a" 0 4).encode := by decide
  have exchange : Exchange .loopback client answers :=
    (@Exchange.answer _ _ _ exchange_asking ⟨1, 0⟩ _ _ _ _ _ received asks_piece (by simp)
      decode_piece rfl 1).act (.poll 0) rfl
  have answered : .answered 0 (.ok (.chunk ⟨0, [1]⟩)) ∈ client.trace :=
    @answers_of_entry _ exchange_asking.reachable.sound ⟨.read "a" 0, 1, 0, .chunk⟩ (by decide)
      1 ⟨1, 1, [], .running⟩ _ _ _ (by decide) rfl decode_piece rfl
  refine ⟨exchange, answered, ?_⟩
  obtain ⟨key, own, answer, attribution, timely⟩ := answer_attribution exchange answered
  refine ⟨key, own, answer, attribution, timely ?_⟩
  have placed : placeOf 0 client.trace = some ⟨1, 0⟩ :=
    exchange_asking.reachable.placeOf_run (by decide) [.receive 1 (.binary piece.encode), .poll 0]
  rw [attribution.placed] at placed
  cases placed
  -- No other frame has been accepted so far.
  rintro ⟨generation, index⟩ octets accepted _ other
  rw [List.mem_singleton.mp attribution.given] at accepted
  have trace : asking.trace =
      [.transmitted 1 (Outbound.readChunk "a" 0 4).encode, .sent 0 1,
        .accepted 1 (Outbound.readChunk "a" 0 4).encode, .issued 0 (.read "a" 0),
        .started 1 (.read "a" 0), .connected 0 (.ok ()), .opened 1 1, .dialed 1,
        .joined 0 1] := rfl
  have frames : acceptedOn generation asking.trace =
      if 1 = generation then [(Outbound.readChunk "a" 0 4).encode] else [] := by
    by_cases own : 1 = generation
    · simp [trace, acceptedOn, List.filterMap_cons, Event.accepted?, own]
    · simp [trace, acceptedOn, List.filterMap_cons, Event.accepted?, own]
  rw [frameAt, frames] at accepted
  split at accepted
  · next own =>
    subst own
    obtain ⟨inside, _⟩ := List.getElem?_eq_some_iff.mp accepted
    have first : index = 0 := by simpa using inside
    exact absurd (by rw [first]) other
  · cases accepted

/-- The late answer to a request that has timed out goes to a later one under its key, although the
frame of that one was not answered. -/
theorem late_answer_misattributed :
    let client := (askingAgain.step (.receive 1 (.binary piece.encode))).step (.poll 1)
    let answers : List Answer := [⟨⟨1, 0⟩, piece, askingAgain.trace⟩]
    Exchange .loopback client answers ∧ .answered 1 (.ok (.chunk ⟨0, [1]⟩)) ∈ client.trace ∧
      ¬ ∃ answer ∈ answers, placeOf 1 client.trace = some answer.place := by
  intro client answers
  have again : Exchange .loopback askingAgain [] := exchange_asking.run (by decide)
  have received : (transmittedOn 1 askingAgain.trace)[0]? =
      some (Outbound.readChunk "a" 0 4).encode := by decide
  have exchange : Exchange .loopback client answers :=
    (@Exchange.answer _ _ _ again ⟨1, 0⟩ _ _ _ _ _ received asks_piece (by simp)
      decode_piece rfl 1).act (.poll 1) rfl
  have answered : .answered 1 (.ok (.chunk ⟨0, [1]⟩)) ∈ client.trace :=
    @answers_of_entry _ again.reachable.sound ⟨.read "a" 0, 1, 1, .chunk⟩ (by decide)
      1 ⟨1, 1, [], .running⟩ _ _ _ (by decide) rfl decode_piece rfl
  have placed : placeOf 1 client.trace = some ⟨1, 1⟩ :=
    again.reachable.placeOf_run (by decide) [.receive 1 (.binary piece.encode), .poll 1]
  refine ⟨exchange, answered, ?_⟩
  rintro ⟨answer, given, own⟩
  rw [List.mem_singleton.mp given, placed] at own
  cases own

end Client

end RemoteAgent
