import RemoteAgent.Proofs.Client.Frames

/-!
# Frames that are handed over

An action hands at most one frame over for the agent: one of the owner's, or that of a request whose
turn it is (`Client.handed`). What is handed over does not depend on the link. The link decides what
becomes of it: an open socket gets the frame into its queue, and without one the frame is dropped
(`step_hands`). Nothing else is ever accepted for a socket (`accepted_of_run`).
-/

namespace RemoteAgent

/-- The frame of a request, if it is its turn. -/
def Request.turnFrame (request : Request) : Option Bytes :=
  match request.standing with
  | .granted => some request.frame
  | _ => none

/-- The link after a frame was handed over. -/
def Link.afterHanding (link : Link) (frame : Bytes) : Link :=
  match link.accept frame with
  | some (after, _) => after
  | none => link

theorem Link.afterHanding_of_opened {link : Link} {generation : Nat}
    (opened : link.lifecycle = .opened generation) (frame : Bytes) :
    link.afterHanding frame = link.changeSocket generation (·.push (.frame frame)) := by
  rw [afterHanding, Link.accept_eq_some_iff.mpr ⟨opened, rfl⟩]

theorem Link.afterHanding_of_unopened {link : Link}
    (unopened : ∀ generation, link.lifecycle ≠ .opened generation) (frame : Bytes) :
    link.afterHanding frame = link := by
  unfold afterHanding
  split
  · next accepted => exact absurd (Link.accept_eq_some_iff.mp accepted).1 (unopened _)
  · rfl

namespace Client

/-- The frame that a call hands over as it goes on, if it makes a request whose turn it is at
once. -/
def wantedFrame (client : Client) (limit : Option Duration) : Transfer.Turn → Option Bytes
  | .stop _ => none
  | .go transfer =>
    match transfer.wants client.config.chunkSize with
    | .ok want => (client.requests.issue want limit).2.turnFrame
    | .error _ => none

/-- The frame that the call which waits for a request hands over with the reply. -/
def resumedFrame (client : Client) (number : Nat) (reply : Reply) : Option Bytes :=
  match client.calls.find? (·.request == number) with
  | none => none
  | some call =>
    client.wantedFrame call.limit (call.transfer.resume client.config.chunkSize reply).2

/-- The frame that an action hands over for the agent, be the link open or not. -/
def handed (client : Client) : Action → Option Bytes
  | .send frame => if client.isHeld then some frame else none
  | .start operation limit =>
    if client.isHeld then client.wantedFrame limit (Transfer.begin operation) else none
  | .poll number =>
    match client.requests.find? number with
    | none => none
    | some request =>
      match request.standing with
      | .granted => some request.frame
      | .answered reply =>
        { client with requests := client.requests.release request }.resumedFrame number reply
      | _ => none
  | _ => none

/-- The frames that a run hands over, each with the lifecycle of the link at that time. -/
def handings (client : Client) : List Action → List (Lifecycle × Bytes)
  | [] => []
  | action :: later =>
    ((client.handed action).map (client.link.lifecycle, ·)).toList ++
      (client.step action).handings later

/-- What becomes of a frame that is handed over, and of nothing else: the open socket gets it. -/
structure Hands (client after : Client) (frame : Option Bytes) : Prop where
  link : after.link = (frame.map client.link.afterHanding).getD client.link
  accepted : ∀ generation, acceptedOn generation after.trace =
    acceptedOn generation client.trace ++
      if client.link.lifecycle = .opened generation then frame.toList else []

variable {client middle after : Client} {action : Action} {frame : Option Bytes}

namespace Hands

/-- Nothing is handed over where the link stays and nothing is accepted. -/
theorem nothing (events : List Event) (link : after.link = client.link)
    (extended : after.trace = events ++ client.trace)
    (unaccepted : ∀ generation, acceptedOn generation events = []) : client.Hands after none where
  link := link
  accepted generation := by
    rw [extended, acceptedOn_append, unaccepted generation]
    simp

theorem refl (client : Client) : client.Hands client none :=
  nothing [] rfl rfl fun _ => rfl

/-- Nothing is handed over before a frame. -/
theorem after_nothing (first : client.Hands middle none) (second : middle.Hands after frame) :
    client.Hands after frame where
  link := by
    have same : middle.link = client.link := first.link
    rw [second.link, same]
  accepted generation := by
    have same : middle.link = client.link := first.link
    have quiet := first.accepted generation
    rw [Option.toList_none, ite_self, List.append_nil] at quiet
    rw [second.accepted, quiet, same]

theorem note {event : Event} (aside : ∀ generation, event.accepted? generation = none) :
    client.Hands (client.note event) none := by
  refine nothing [event] rfl rfl fun generation => ?_
  simp [acceptedOn, aside]

/-- A call that ends hands nothing over. -/
theorem finish (client : Client) (call : Call) (outcome : Except Failure Delivery) :
    client.Hands (client.finish call outcome) none :=
  nothing [.finished call.number call.progress outcome] rfl rfl fun _ => rfl

/-- A request that fails hands nothing over. -/
theorem failRequest (client : Client) (number : Nat) (failure : Failure) :
    client.Hands (client.failRequest number failure) none := by
  have noted : client.Hands (client.note (.answered number (.error failure))) none :=
    note fun _ => rfl
  dsimp only [Client.failRequest]
  split
  · exact noted
  · exact noted.after_nothing (finish _ _ _)

/-- A request at its turn hands its frame over. -/
theorem sendRequest (client : Client) (request : Request) :
    client.Hands (client.sendRequest request) (some request.frame) := by
  unfold Client.sendRequest
  split
  · next link opened accepted =>
    obtain ⟨own, rfl⟩ := Link.accept_eq_some_iff.mp accepted
    refine ⟨(Link.afterHanding_of_opened own request.frame).symm, fun generation => ?_⟩
    have told : acceptedOn generation
        [Event.sent request.number opened, .accepted opened request.frame] =
          if opened = generation then [request.frame] else [] := by
      by_cases same : opened = generation <;> simp [acceptedOn, Event.accepted?, same]
    rw [own, Option.toList_some]
    simp only [Lifecycle.opened.injEq]
    rw [← told, ← acceptedOn_append]
    rfl
  · next refused =>
    have unopened : ∀ generation, client.link.lifecycle ≠ .opened generation := by
      intro generation opened
      rw [Link.accept_eq_some_iff.mpr ⟨opened, rfl⟩] at refused
      cases refused
    have failed := failRequest { client with requests := client.requests.release request }
      request.number .notConnected
    refine ⟨failed.link.trans (Link.afterHanding_of_unopened unopened request.frame).symm, ?_⟩
    intro generation
    rw [if_neg (unopened generation), List.append_nil]
    simpa using failed.accepted generation

/-- A call that makes a request hands its frame over if it is its turn at once. -/
theorem ask (client : Client) (call : Call) (want : Want) :
    client.Hands (client.ask call want) (client.requests.issue want call.limit).2.turnFrame := by
  have issued : client.Hands (client.issue call want).1 none :=
    nothing [.issued _ _] rfl rfl fun _ => rfl
  have same : (client.issue call want).2 = (client.requests.issue want call.limit).2 := rfl
  dsimp only [Client.ask]
  rw [← same, Request.turnFrame]
  cases (client.issue call want).2.standing with
  | granted => exact issued.after_nothing (sendRequest _ _)
  | _ => exact issued

/-- A transfer hands over the frame it wants, if it goes on. -/
theorem proceed (client : Client) (call : Call) (turn : Transfer.Turn) :
    client.Hands (client.proceed call turn) (client.wantedFrame call.limit turn) := by
  cases turn with
  | stop result => exact finish _ _ _
  | go transfer =>
    dsimp only [Client.proceed, wantedFrame]
    cases transfer.wants client.config.chunkSize with
    | ok want => exact ask client { call with transfer } want
    | error failure => exact finish _ _ _

/-- A call hands over the first frame it wants. -/
theorem start (client : Client) (operation : Operation) (limit : Option Duration) :
    client.Hands (client.start operation limit)
      (client.wantedFrame limit (Transfer.begin operation)) := by
  have counted : client.Hands ({ client with called := client.called + 1 }.note
      (.started client.called operation)) none :=
    nothing [.started client.called operation] rfl rfl fun _ => rfl
  dsimp only [Client.start]
  cases Transfer.begin operation with
  | stop result => exact counted.after_nothing (note fun _ => rfl)
  | go transfer => exact counted.after_nothing (proceed _ _ _)

/-- A call that hears a reply hands over the next frame it wants. -/
theorem answerRequest (client : Client) (number : Nat) (reply : Reply) :
    client.Hands (client.answerRequest number reply) (client.resumedFrame number reply) := by
  have noted : client.Hands (client.note (.answered number (.ok reply))) none := note fun _ => rfl
  have same : (client.note (.answered number (.ok reply))).calls = client.calls := rfl
  dsimp only [Client.answerRequest]
  rw [same, resumedFrame]
  cases client.calls.find? (·.request == number) with
  | none => exact noted
  | some call => exact noted.after_nothing (proceed _ _ _)

/-- A request that runs hands over its own frame, or the next one of its call. -/
theorem poll (client : Client) (number : Nat) :
    client.Hands (client.poll number) (client.handed (.poll number)) := by
  have rested : client.Hands { client with requests := client.requests.rest number } none :=
    nothing [] rfl rfl fun _ => rfl
  have released : ∀ request, client.Hands
      { client with requests := client.requests.release request } none :=
    fun request => nothing [] rfl rfl fun _ => rfl
  dsimp only [Client.poll, handed]
  cases client.requests.find? number with
  | none => exact rested
  | some request =>
    dsimp only
    cases request.standing with
    | queued => exact rested
    | granted => exact sendRequest _ _
    | waiting generation sentAt =>
      dsimp only
      split
      · split
        · exact (released request).after_nothing (failRequest _ _ _)
        · exact rested
      · exact rested
    | answered reply => exact (released request).after_nothing (answerRequest _ _ _)
    | disconnected => exact (released request).after_nothing (failRequest _ _ _)

/-- The owner hands over a frame. -/
theorem send (client : Client) (frame : Bytes) : client.Hands (client.send frame) (some frame) := by
  unfold Client.send
  split
  · next refused =>
    have unopened : ∀ generation, client.link.lifecycle ≠ .opened generation := by
      intro generation opened
      rw [Link.accept_eq_some_iff.mpr ⟨opened, rfl⟩] at refused
      cases refused
    refine ⟨(Link.afterHanding_of_unopened unopened frame).symm, fun generation => ?_⟩
    rw [if_neg (unopened generation), List.append_nil]
  · next link opened accepted =>
    obtain ⟨own, rfl⟩ := Link.accept_eq_some_iff.mp accepted
    refine ⟨(Link.afterHanding_of_opened own frame).symm, fun generation => ?_⟩
    have told : acceptedOn generation [Event.accepted opened frame] =
        if opened = generation then [frame] else [] := by
      by_cases same : opened = generation <;> simp [acceptedOn, Event.accepted?, same]
    rw [own, Option.toList_some]
    simp only [Lifecycle.opened.injEq]
    rw [← told, ← acceptedOn_append]
    rfl

end Hands

/-! ## Steps and runs -/

/-- The frames that are handed over while the socket of a generation is open. -/
def handedTo (generation : Nat) (handings : List (Lifecycle × Bytes)) : List Bytes :=
  handings.filterMap fun (lifecycle, frame) =>
    if lifecycle = .opened generation then some frame else none

theorem handedTo_append (generation : Nat) (earlier later : List (Lifecycle × Bytes)) :
    handedTo generation (earlier ++ later) =
      handedTo generation earlier ++ handedTo generation later := List.filterMap_append

/-- An action that lets requests run, or sends a frame, does nothing to the link but to hand a frame
over. -/
theorem step_hands (hands : action.runsRequests = true ∨ ∃ frame, action = .send frame) :
    client.Hands (client.step action) (client.handed action) := by
  cases action with
  | send frame =>
    cases held : client.isHeld with
    | false => simpa [step, held, Action.isOwners, handed] using Hands.refl client
    | true => simpa [step, held, perform, handed] using Hands.send client frame
  | start operation limit =>
    cases held : client.isHeld with
    | false => simpa [step, held, Action.isOwners, handed] using Hands.refl client
    | true => simpa [step, held, perform, handed] using Hands.start client operation limit
  | poll number => exact Hands.poll client number
  | _ => simp [Action.runsRequests] at hands

/-- Nothing else hands a frame over. -/
theorem runs_or_sends {octets : Bytes} (hands : client.handed action = some octets) :
    action.runsRequests = true ∨ ∃ frame, action = .send frame := by
  cases action with
  | send frame => exact .inr ⟨frame, rfl⟩
  | start => exact .inl rfl
  | poll => exact .inl rfl
  | _ => cases hands

/-- Without an open socket, a frame of the owner's changes nothing. -/
theorem step_send_of_unopened (frame : Bytes)
    (unopened : ∀ generation, client.link.lifecycle ≠ .opened generation) :
    client.step (.send frame) = client := by
  unfold step
  split
  · rfl
  · change client.send frame = client
    unfold Client.send
    split
    · rfl
    · next accepted => exact absurd (Link.accept_eq_some_iff.mp accepted).1 (unopened _)

/-- No socket accepts a frame in a move without requests and without a frame of the owner. -/
theorem Move.unaccepted (moves : Move action client after) (sound : client.Sound)
    (aside : action.runsRequests = false) (unsent : ∀ frame, action ≠ .send frame)
    (generation : Nat) :
    acceptedOn generation after.trace = acceptedOn generation client.trace := by
  refine moves.view sound fun event cause => ?_
  cases event with
  | accepted other frame =>
    rcases cause.2 with runs | sends
    · cases runs.symm.trans aside
    · exact absurd sends (unsent frame)
  | _ => rfl

/-- A step has the frame accepted that it hands over, if a socket is open, and nothing else. -/
theorem step_accepted (sound : client.Sound) (action : Action) (generation : Nat) :
    acceptedOn generation (client.step action).trace = acceptedOn generation client.trace ++
      if client.link.lifecycle = .opened generation then (client.handed action).toList else [] := by
  by_cases hands : action.runsRequests = true ∨ ∃ frame, action = .send frame
  · exact (step_hands hands).accepted generation
  · obtain ⟨runs, sends⟩ := not_or.mp hands
    have aside : action.runsRequests = false := by simpa using runs
    have unsent : ∀ frame, action ≠ .send frame := fun frame same => sends ⟨frame, same⟩
    have none : client.handed action = Option.none :=
      Option.eq_none_iff_forall_ne_some.mpr fun _ handed => hands (runs_or_sends handed)
    rw [none, Option.toList_none, ite_self, List.append_nil]
    exact (@step_induct client action (fun after => after.Sound ∧
      acceptedOn generation after.trace = acceptedOn generation client.trace) sound.requests
      (fun _ _ _ moves ⟨soundMiddle, same⟩ => ⟨moves.keepsSound soundMiddle,
        (moves.unaccepted soundMiddle aside unsent generation).trans same⟩) ⟨sound, rfl⟩).2.2

/-- The frames that a run has accepted for a socket are those that it hands over while the socket is
open, in their order. -/
theorem accepted_of_run (sound : client.Sound) (actions : List Action) (generation : Nat) :
    acceptedOn generation (client.run actions).trace =
      acceptedOn generation client.trace ++ handedTo generation (client.handings actions) := by
  induction actions generalizing client with
  | nil => exact (List.append_nil _).symm
  | cons action later inductionHypothesis =>
    have rest := inductionHypothesis (sound.step action)
    rw [step_accepted sound action generation] at rest
    refine rest.trans ?_
    rw [handings, handedTo_append, List.append_assoc]
    congr 2
    cases client.handed action with
    | none => simp [handedTo]
    | some frame =>
      by_cases opened : client.link.lifecycle = .opened generation <;> simp [handedTo, opened]

end Client

end RemoteAgent
