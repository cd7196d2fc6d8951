import RemoteAgent.Proofs.Client.Generations
import RemoteAgent.Proofs.Client.Handed
import RemoteAgent.Proofs.Client.Runs
import Mathlib.Data.List.Induction

/-!
# Frames are delivered in order

The order to close a socket stands behind all frames in its queue (`Reachable.orderly`), so a socket
that ends with this order has written all that was accepted for it. Whatever is sent, asked, closed
and opened again, a socket writes the frames that were handed over while it was open, in their order
and each once. Those handed over at any other time are never written (`frames_delivered`).
-/

namespace RemoteAgent.Client

/-- No frame waits behind the order to close, and the open socket has no such order. -/
structure Orderly (client : Client) : Prop where
  last : ∀ {generation socket}, client.link.socket? generation = some socket →
    .shutdown ∉ socket.queue.dropLast
  unclosed : ∀ {generation socket}, client.link.socket? generation = some socket →
    client.link.lifecycle = .opened generation → .shutdown ∉ socket.queue

/-- A running socket ends, but not with the order to close it: its other side ends it, or a message
comes in for a client that nobody holds. -/
def Cuts (client : Client) (generation : Nat) (action : Action) : Prop :=
  client.link.stage? generation = some .running ∧ (action = .receive generation .ending ∨
    client.isHeld = false ∧ ∃ octets, action = .receive generation (.binary octets))

/-- The socket of a generation is never cut in a run. -/
def Uncut (config : Config) (actions : List Action) (generation : Nat) : Prop :=
  ∀ before action later, actions = before ++ action :: later →
    ¬ (ran config before).Cuts generation action

/-- All frames that were accepted for a socket are written, and no more are accepted. -/
structure Drained (client : Client) (generation : Nat) : Prop where
  shut : client.link.lifecycle ≠ .opened generation
  written : transmittedOn generation client.trace = acceptedOn generation client.trace

/-- How a run delivers the frames that it hands over. -/
structure DeliversInOrder (config : Config) (actions : List Action) : Prop where
  /-- The frames accepted for a socket are those that are handed over while it is open, in their
  order. -/
  accepted : ∀ generation, acceptedOn generation (ran config actions).trace =
    handedTo generation ((Client.initial config).handings actions)
  /-- The socket writes the first of these, in their order, and nothing else. -/
  received : ∀ generation, transmittedOn generation (ran config actions).trace <+:
    acceptedOn generation (ran config actions).trace
  /-- A frame that is handed over while a socket is open goes to the end of its queue. -/
  placed : ∀ {action frame generation}, (ran config actions).handed action = some frame →
    (ran config actions).link.lifecycle = .opened generation →
      ((ran config actions).step action).link =
        (ran config actions).link.changeSocket generation (·.push (.frame frame))
  /-- A frame that is handed over at any other time is dropped, and changes nothing. -/
  dropped : ∀ {action frame}, (ran config actions).handed action = some frame →
    (∀ generation, (ran config actions).link.lifecycle ≠ .opened generation) →
      ((ran config actions).step action).link = (ran config actions).link ∧
      (∀ generation, acceptedOn generation ((ran config actions).step action).trace =
        acceptedOn generation (ran config actions).trace) ∧
      (action = .send frame → (ran config actions).step action = ran config actions)
  /-- What is accepted and not yet written waits in the queue, before the order to close. -/
  queued : ∀ {generation socket}, (ran config actions).link.socket? generation = some socket →
    acceptedOn generation (ran config actions).trace =
        transmittedOn generation (ran config actions).trace ++ socket.frames ∧
      .shutdown ∉ socket.queue.dropLast ∧
      ((ran config actions).link.lifecycle = .opened generation → .shutdown ∉ socket.queue)
  /-- A socket that has ended without having been cut has written all that was accepted. -/
  ended : ∀ generation, Uncut config actions generation →
    (ran config actions).link.stage? generation ≠ some .running →
      transmittedOn generation (ran config actions).trace =
        acceptedOn generation (ran config actions).trace
  /-- So has every socket that was not cut, once nothing goes on by itself. -/
  flushed : (ran config actions).IsQuiescent → ∀ generation, Uncut config actions generation →
    transmittedOn generation (ran config actions).trace =
      acceptedOn generation (ran config actions).trace

variable {config : Config} {client after : Client} {action : Action} {generation : Nat}

/-! ## The order to close -/

theorem Move.orderly (moves : Move action client after) (sound : client.Sound)
    (orderly : client.Orderly) : after.Orderly where
  last := by
    intro generation socket found
    rcases moves.follows sound found with ⟨before, _, foundBefore, follows, _⟩ |
      ⟨_, _, _, empty, _⟩
    · have kept := orderly.last foundBefore
      cases follows with
      | accepts frame opened => simpa [Socket.push] using orderly.unclosed foundBefore opened
      | closes opened => simpa [Socket.push] using orderly.unclosed foundBefore opened
      | @writes frame rest _ queued =>
        rw [queued] at kept
        cases rest with
        | nil => simp
        | cons next rest => exact fun member => kept (List.mem_cons_of_mem _ member)
      | _ => exact kept
    · simp [empty]
  unclosed := by
    intro generation socket found opened
    rcases moves.follows sound found with ⟨before, _, foundBefore, follows, _⟩ |
      ⟨_, _, _, empty, _⟩
    · have bounded := sound.link.generation_le foundBefore
      have kept : .shutdown ∉ before.queue := by
        rcases moves.opened_before opened with same | newest
        · exact orderly.unclosed foundBefore same
        · omega
      cases follows with
      | accepts frame => simpa [Socket.push] using kept
      | closes _ closed => cases closed.symm.trans opened
      | writes _ queued =>
        rw [queued] at kept
        exact fun member => kept (List.mem_cons_of_mem _ member)
      | _ => exact kept
    · simp [empty]

/-- The order to close stands at the end of a queue, and never in that of the open socket. -/
theorem Reachable.orderly (reachable : Reachable config client) : client.Orderly :=
  reachable.bySoundMoves ⟨by simp [Client.initial, Link.socket?],
    by simp [Client.initial, Link.socket?]⟩ fun _ _ _ sound moves orderly =>
      moves.orderly sound orderly

/-! ## What is written in the end -/

/-- A step leaves the socket open that was open before it, or opens a new one. -/
theorem opened_of_step (sound : client.Sound)
    (opened : (client.step action).link.lifecycle = .opened generation) :
    client.link.lifecycle = .opened generation ∨ client.link.generations < generation := by
  refine (@step_induct client action (fun after =>
    client.link.generations ≤ after.link.generations ∧
      (after.link.lifecycle = .opened generation →
        client.link.lifecycle = .opened generation ∨ client.link.generations < generation))
    sound.requests ?_ ⟨Nat.le_refl _, .inl⟩).2.2 opened
  rintro middle next _ moves ⟨bounded, known⟩
  refine ⟨Nat.le_trans bounded moves.counts.1, fun opened => ?_⟩
  rcases moves.opened_before opened with same | newest
  · exact known same
  · omega

/-- A step takes nothing back that was told. -/
theorem step_extends (sound : client.Sound) (action : Action) :
    ∃ events, (client.step action).trace = events ++ client.trace := by
  refine (@step_induct client action (fun after => after.Sound ∧
    ∃ events, after.trace = events ++ client.trace) sound.requests ?_ ⟨sound, [], rfl⟩).2.2
  rintro middle next _ moves ⟨soundMiddle, earlier, extended⟩
  obtain ⟨later, extendedNext, _⟩ := moves.adds soundMiddle
  exact ⟨moves.keepsSound soundMiddle, later ++ earlier, by
    rw [extendedNext, extended, List.append_assoc]⟩

/-- A socket that ends with the order to close it has written all that was accepted. -/
theorem drained_of_shutdown (reachable : Reachable config client)
    (running : client.link.stage? generation = some .running) {socket : Socket}
    {rest : List Command} (found : client.link.socket? generation = some socket)
    (queued : socket.queue = .shutdown :: rest) :
    (client.step (.transmit generation)).Drained generation := by
  have stage : socket.stage = .running := by
    rw [stage?_of_found found] at running
    exact Option.some.inj running
  have stepped : client.step (.transmit generation) =
      { client with link := client.link.sever generation }.note (.hungUp generation) := by
    obtain ⟨number, attempt, queue, _⟩ := socket
    subst stage queued
    simp [step, perform, Action.isOwners, transmit, Link.dequeue, found]
  have empty : rest = [] := by
    have last := reachable.orderly.last found
    rw [queued] at last
    cases rest with
    | nil => rfl
    | cons next rest => exact absurd List.mem_cons_self last
  constructor
  · rw [stepped]
    intro opened
    have unclosed := reachable.orderly.unclosed found opened
    rw [queued] at unclosed
    exact unclosed List.mem_cons_self
  · have foundAfter : (client.step (.transmit generation)).link.socket? generation =
        some socket.ended := by
      rw [stepped]
      refine (client.link.socket?_changeSocket generation generation
        Socket.generation_ended).trans ?_
      rw [if_pos rfl, found]
      rfl
    have none : socket.ended.frames = [] := by
      rw [Socket.frames, Socket.ended, stage]
      simp [queued, empty, Command.frame?]
    rw [(reachable.step _).inOrder.queued foundAfter, none, List.append_nil]

/-- A socket that is not cut goes on running until it has written all that was accepted. -/
theorem step_drains (reachable : Reachable config client) (uncut : ¬ client.Cuts generation action)
    (before : client.link.stage? generation = some .running ∨ client.Drained generation) :
    (client.step action).link.stage? generation = some .running ∨
      (client.step action).Drained generation := by
  have passed := (client.step_tells action).passes generation
  have sound := reachable.sound
  by_cases running : client.link.stage? generation = some .running
  · rw [running] at passed
    generalize reached : (client.step action).link.stage? generation = next at passed
    cases passed with
    | stays => exact .inl rfl
    | breaks cause =>
      right
      cases cause with
      | ending => exact absurd ⟨running, .inl rfl⟩ uncut
      | unheld octets free => exact absurd ⟨running, .inr ⟨free, octets, rfl⟩⟩ uncut
      | shutdown found queued => exact drained_of_shutdown reachable running found queued
  · obtain ⟨shut, written⟩ := before.resolve_left running
    by_cases resting : (client.step action).link.stage? generation = some .running
    · exact .inl resting
    refine .inr ⟨fun opened => ?_, ?_⟩
    · rcases opened_of_step sound opened with same | newest
      · exact shut same
      · -- The socket is new, so it has just opened, and runs.
        have absent : client.link.stage? generation = none := by
          refine Option.eq_none_iff_forall_ne_some.mpr fun stage reached => ?_
          have bounded := generation_le_of_stage? sound reached
          omega
        obtain ⟨_, socket, found, live⟩ := (sound.step action).link.opened opened
        rw [absent] at passed
        generalize reached : (client.step action).link.stage? generation = next at passed resting
        cases passed with
        | stays => cases (stage?_of_found found).symm.trans reached
        | opens => exact resting rfl
    · have same := step_accepted sound action generation
      rw [if_neg shut, List.append_nil] at same
      obtain ⟨events, extended⟩ := step_extends sound action
      have grown : transmittedOn generation client.trace <+:
          transmittedOn generation (client.step action).trace := by
        rw [extended, transmittedOn_append]
        exact List.prefix_append _ _
      have bounded := (reachable.step action).inOrder.written generation
      rw [same, ← written] at bounded ⊢
      exact bounded.eq_of_length (Nat.le_antisymm bounded.length_le grown.length_le)

theorem drains_of_run (config : Config) (actions : List Action)
    (uncut : Uncut config actions generation) :
    (ran config actions).link.stage? generation = some .running ∨
      (ran config actions).Drained generation := by
  induction actions using List.reverseRecOn with
  | nil => exact .inr ⟨by simp [ran, run, Client.initial], rfl⟩
  | append_singleton before action inductionHypothesis =>
    have whole : ran config (before ++ [action]) = (ran config before).step action :=
      run_append _ _ _
    rw [whole]
    refine step_drains (Reachable.initial.run before) (uncut before action [] rfl)
      (inductionHypothesis ?_)
    rintro first next later rfl
    exact uncut first next (later ++ [action]) (by simp)

/-- Whatever is sent and asked while the link opens and closes, frames are delivered in the order in
which they were handed over to the open socket, and no others are. -/
theorem frames_delivered (config : Config) (actions : List Action) :
    DeliversInOrder config actions := by
  have reachable : Reachable config (ran config actions) := Reachable.initial.run actions
  refine
    { accepted := accepted_of_run Reachable.initial.sound actions
      received := reachable.inOrder.written
      placed := ?_
      dropped := ?_
      queued := fun found => ⟨reachable.inOrder.queued found, reachable.orderly.last found,
        reachable.orderly.unclosed found⟩
      ended := fun generation uncut resting =>
        ((drains_of_run config actions uncut).resolve_left resting).written
      flushed := ?_ }
  · intro action frame generation hands opened
    have handing := @step_hands (ran config actions) action (runs_or_sends hands)
    rw [hands] at handing
    exact handing.link.trans (Link.afterHanding_of_opened opened frame)
  · intro action frame hands unopened
    have handing := @step_hands (ran config actions) action (runs_or_sends hands)
    rw [hands] at handing
    refine ⟨handing.link.trans (Link.afterHanding_of_unopened unopened frame), ?_, ?_⟩
    · intro generation
      rw [handing.accepted generation, if_neg (unopened generation), List.append_nil]
    · rintro rfl
      exact step_send_of_unopened frame unopened
  · intro quiescent generation uncut
    rcases drains_of_run config actions uncut with running | drained
    · obtain ⟨socket, found, _⟩ := Option.map_eq_some_iff.mp running
      have waits := (quiescent.2.2.1 socket (List.mem_of_find?_eq_some found)).2
      rw [reachable.inOrder.queued found, Socket.frames, waits]
      exact (List.append_nil _).symm
    · exact drained.written

/-- Of the frames that are sent before the link opens, while it is open, and once it is closed,
those sent in between are written. -/
example :
    let sends : List Action := [.send [1], .connect, .send [2], .settle 1 .accepted, .resolve 1,
      .send [3], .send [4], .close, .send [5]]
    let after := ran .loopback (sends ++ [.transmit 1, .transmit 1, .transmit 1])
    transmittedOn 1 after.trace = [[3], [4]] ∧ after.link.stage? 1 = some .broken := by
  decide

end RemoteAgent.Client
