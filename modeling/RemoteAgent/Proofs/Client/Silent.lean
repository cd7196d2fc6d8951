import RemoteAgent.Proofs.Client.Ownership

/-!
# Steps that leave calls alone

Calls for files go on when a request runs, and end when they are given up. Every other step keeps
them, and tells nothing of them and their requests (`step_silent`).
-/

namespace RemoteAgent

/-- The event tells of a call for files, or of one of its requests. -/
def Event.isOfTransfer : Event → Bool
  | .started _ _ | .issued _ _ | .sent _ _ | .answered _ _ | .finished _ _ _ => true
  | _ => false

/-- The action neither runs requests nor gives calls up. -/
def Action.sparesCalls : Action → Bool
  | .start _ _ | .poll _ | .cancel _ | .release => false
  | _ => true

namespace Client

variable {action : Action}

/-- Calls are kept, and nothing is told of them. -/
structure Silent (client after : Client) : Prop where
  config : after.config = client.config
  calls : after.calls = client.calls
  called : client.called ≤ after.called
  trace : ∃ events : List Event, (∀ event ∈ events, event.isOfTransfer = false) ∧
    after.trace = events ++ client.trace

namespace Silent

/-- To do nothing is silent. -/
theorem refl (client : Client) : client.Silent client :=
  ⟨rfl, rfl, Nat.le_refl _, [], by simp, rfl⟩

/-- What is silent may be followed by what is silent. -/
theorem trans {first middle last : Client} (before : first.Silent middle)
    (afterwards : middle.Silent last) : first.Silent last where
  config := afterwards.config.trans before.config
  calls := afterwards.calls.trans before.calls
  called := Nat.le_trans before.called afterwards.called
  trace := by
    obtain ⟨earlier, asideEarlier, grown⟩ := before.trace
    obtain ⟨later, asideLater, grownLater⟩ := afterwards.trace
    refine ⟨later ++ earlier, ?_, by rw [grownLater, grown, List.append_assoc]⟩
    intro event member
    rcases List.mem_append.mp member with new | old
    · exact asideLater event new
    · exact asideEarlier event old

/-- Changes to the link and to the requests are silent by themselves. -/
theorem within (client : Client) (link : Link) (requests : Requests) :
    client.Silent { client with link, requests } :=
  { refl client with }

/-- To record events that concern no transfer is silent. -/
theorem noteAll (client : Client) {events : List Event}
    (aside : ∀ event ∈ events, event.isOfTransfer = false) :
    client.Silent (client.noteAll events) := by
  rw [noteAll_eq]
  exact { refl client with
    trace := ⟨events.reverse, fun event member => aside event (List.mem_reverse.mp member), rfl⟩ }

/-- To record one event that concerns no transfer is silent. -/
theorem note (client : Client) {event : Event} (aside : event.isOfTransfer = false) :
    client.Silent (client.note event) :=
  { refl client with trace := ⟨[event], by simpa using aside, rfl⟩ }

/-- To write to the terminal is silent. -/
theorem write (client : Client) (data : Bytes) : client.Silent (client.write data) := by
  unfold Client.write
  split
  · exact refl client
  · exact note client rfl

/-- Attempts are swept away in silence. -/
theorem sweep (client : Client) : client.Silent client.sweep := by
  refine (within client _ _).trans (noteAll _ ?_)
  intro event member
  obtain ⟨number, _, rfl⟩ := List.mem_map.mp member
  rfl

/-- Callers of an attempt learn how it ended, and transfers do not. -/
theorem tellCallers (client : Client) (attempt : Attempt) (outcome : Except Failure Unit) :
    client.Silent (client.tellCallers attempt outcome) := by
  refine noteAll client ?_
  intro event member
  obtain ⟨caller, _, rfl⟩ := List.mem_map.mp member
  rfl

/-- An attempt fails in silence. -/
theorem failAttempt (client : Client) (attempt : Attempt) (failure : Failure) :
    client.Silent (client.failAttempt attempt failure) :=
  (within client _ _).trans (tellCallers _ _ _)

/-- A socket opens in silence. -/
theorem openSocket (client : Client) (attempt : Attempt) :
    client.Silent (client.openSocket attempt) := by
  unfold Client.openSocket
  split
  · exact (((within client _ _).trans (note _ rfl)).trans (write _ _)).trans (tellCallers _ _ _)
  · exact ((within client _ _).trans (note _ rfl)).trans (tellCallers _ _ _)

/-- An attempt goes on in silence. -/
theorem resolve (client : Client) (number : Nat) : client.Silent (client.resolve number) := by
  unfold Client.resolve
  split
  · exact refl client
  · split
    · split
      · exact openSocket _ _
      · exact failAttempt _ _ _
      · exact (failAttempt _ _ _).trans (note _ rfl)
    · exact refl client

/-- To offer a frame to one handler is silent: its request is still to run. -/
theorem handle (client : Client) (frame : Inbound) (handler : Handler) :
    client.Silent (client.handle frame handler) := by
  have offered := note client (show (Event.offered handler frame (handler.claims frame)).isOfTransfer =
    false from rfl)
  unfold Client.handle
  split
  · exact { offered with }
  · exact offered

/-- To offer a frame to handlers in turn is silent. -/
theorem offer (client : Client) (frame : Inbound) (handlers : List Handler) :
    client.Silent (client.offer frame handlers) := by
  induction handlers generalizing client with
  | nil => exact refl client
  | cons handler later inductionHypothesis =>
    unfold Client.offer
    split
    · exact handle _ _ _
    · exact (handle _ _ _).trans (inductionHypothesis _)

/-- To deal with octets is silent. -/
theorem dispatch (client : Client) (octets : Bytes) : client.Silent (client.dispatch octets) := by
  unfold Client.dispatch
  split
  · unfold route
    split
    · exact write _ _
    · exact write _ _
    · exact write _ _
    · exact note _ rfl
    · exact offer _ _ _
  · exact note _ rfl

/-- A message that comes in is silent, too: a reply is taken in when its request runs. -/
theorem receive (client : Client) (generation : Nat) (message : Message) :
    client.Silent (client.receive generation message) := by
  unfold Client.receive
  split
  · split
    · exact dispatch _ _
    · exact (within client _ _).trans (note _ rfl)
  · exact within client _ _
  · exact refl client

/-- A socket that has ended tells of it without a word to transfers. -/
theorem report (client : Client) (generation : Nat) :
    client.Silent (client.report generation) := by
  unfold Client.report
  split
  · split
    · exact (within client _ _).trans (write _ _)
    · exact within client _ _
  · next handler later _ =>
    have told : client.Silent
        ({ client with link := client.link.toldAllBut generation later }.note
          (.told handler generation)) := (within client _ _).trans (note _ rfl)
    unfold tell
    split
    · exact { told with }
    · exact told
  · exact within client _ _
  · exact refl client

/-- A call for an open link is silent. -/
theorem connect (client : Client) : client.Silent client.connect := by
  have counted : ∀ link : Link, client.Silent { client with link, called := client.called + 1 } :=
    fun link => { refl client with called := Nat.le_succ _ }
  simp only [Client.connect]
  split
  · exact (counted _).trans (note _ rfl)
  · exact (counted _).trans (note _ rfl)
  · exact ((counted _).trans (note _ rfl)).trans (note _ rfl)

end Silent

/-- A step that neither runs requests nor gives calls up keeps the calls, and tells nothing of
them. -/
theorem step_silent (client : Client) (spares : action.sparesCalls = true) :
    client.Silent (client.step action) := by
  unfold step
  split
  · exact .refl client
  · cases action with
    | connect => exact .connect client
    | send frame =>
      simp only [perform, send]
      split
      · exact .refl client
      · exact (Silent.within client _ _).trans (.note _ rfl)
    | attachTerminal terminal => exact { Silent.refl client with }
    | register name claims hears => exact { Silent.refl client with }
    | close => exact (Silent.within client _ _).trans (.sweep _)
    | settle attempt handshake => exact .within client _ _
    | receive generation message => exact .receive client generation message
    | wait time => exact { Silent.refl client with }
    | resolve attempt => exact .resolve client attempt
    | transmit generation =>
      simp only [perform, transmit]
      split
      · exact .refl client
      · exact (Silent.within client _ _).trans (.note _ rfl)
      · exact (Silent.within client _ _).trans (.note _ rfl)
    | report generation => exact .report client generation
    | _ => cases spares

/-- When a call is given up, nothing is told of it. -/
theorem silent_cancel (client : Client) (number : Nat) :
    (client.abandon number).Silent (client.cancel number) ∧
      (client.abandon number).trace = client.trace := by
  refine ⟨(Silent.within _ _ _).trans (Silent.sweep _), ?_⟩
  unfold abandon
  split
  · rfl
  · dsimp only
    split <;> rfl

/-- A step in which no request runs tells nothing of calls and their requests. -/
theorem step_aside (client : Client) (aside : action.runsRequests = false) :
    ∃ events : List Event, (∀ event ∈ events, event.isOfTransfer = false) ∧
      (client.step action).trace = events ++ client.trace := by
  cases action with
  | cancel number =>
    unfold step
    split
    · exact ⟨[], by simp, rfl⟩
    · obtain ⟨silent, same⟩ := client.silent_cancel number
      exact same ▸ silent.trace
  | release =>
    unfold step
    split
    · exact ⟨[], by simp, rfl⟩
    · refine ⟨_, ?_, by rw [perform, release, noteAll_eq]⟩
      intro event member
      obtain ⟨attempt, _, rfl⟩ := List.mem_map.mp (List.mem_reverse.mp member)
      rfl
  | start => cases aside
  | poll => cases aside
  | _ => exact (client.step_silent rfl).trace

/-- A call stays as long as its request is not given up and none runs. -/
theorem step_keeps_call {client : Client} (aside : action.runsRequests = false) {call : Call}
    (member : call ∈ client.calls) (spared : ¬ client.GivesUp call.request action) :
    call ∈ (client.step action).calls := by
  by_cases spares : action.sparesCalls = true
  · rw [(client.step_silent spares).calls]
    exact member
  · cases action with
    | cancel number =>
      have other : call.number ≠ number := fun same => spared ⟨call, member, same, rfl⟩
      unfold step
      split
      · exact member
      · rw [perform, (client.silent_cancel number).1.calls]
        unfold abandon
        split
        · exact member
        · dsimp only
          split <;> exact List.mem_filter.mpr ⟨member, by simpa using other⟩
    | release => exact absurd trivial spared
    | start => cases aside
    | poll => cases aside
    | _ => exact absurd rfl spares

end Client

end RemoteAgent
