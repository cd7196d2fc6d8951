import RemoteAgent.Proofs.Client.Scripts
import RemoteAgent.Proofs.Requests.Vacancies

/-!
# Lanes that are left behind

The lane of a key is there exactly for the requests under the key, and after its last request was
given up at its turn, before it ran (`lanes_fit`). Then nobody is in it, and it stays until another
request joins it or the owner lets go of the client (`lane_left_behind`).
-/

namespace RemoteAgent.Client

open Requests (IsVacant)

variable {config : Config} {client after : Client} {action : Action} {key : RequestKey}

/-- To give up a call deserts the lane of a key: the turn of its request has come, but it has not run
since, and nobody is behind it. -/
def Deserts (client : Client) (key : RequestKey) (call : Nat) : Prop :=
  ∃ waiting ∈ client.calls, waiting.number = call ∧
    ∃ request, client.requests.find? waiting.request = some request ∧ request.key = key ∧
      request.standing = .granted ∧ client.requests.queue key = []

/-- Every request under a key was made before. -/
def JoinsNone (key : RequestKey) (client after : Client) : Prop :=
  ∀ request, .issued request key ∈ after.trace → .issued request key ∈ client.trace

/-- The lane of a key was deserted in a run, and since then no request has joined it, and the owner has
not let go of the client. -/
def Deserted (config : Config) (actions : List Action) (key : RequestKey) : Prop :=
  ∃ before call later, actions = before ++ .cancel call :: later ∧
    ((Client.initial config).run before).Deserts key call ∧ .release ∉ later ∧
      JoinsNone key ((Client.initial config).run before) ((Client.initial config).run actions)

/-! ## What happens to vacant lanes -/

/-- Only a request that joins a lane, or is given up, changes whether it is vacant. -/
theorem Move.isVacant_iff (moves : Move action client after) (sound : client.Sound)
    (outcomes : client.Outcomes) (keeps : action ≠ .release)
    (spares : ∀ call, action ≠ .cancel call) :
    after.requests.IsVacant key ↔ client.requests.IsVacant key ∧ JoinsNone key client after := by
  have none : after.requests.issued = client.requests.issued → JoinsNone key client after := by
    intro same request issued
    refine (moves.explains sound issued).resolve_right ?_
    rintro ⟨_, rfl, counted, _⟩
    omega
  cases moves with
  | remarks remarks =>
    rw [remarks.requests]
    exact (and_iff_left (none (by rw [remarks.requests]))).symm
  | registers => exact (and_iff_left (none rfl)).symm
  | waits => exact (and_iff_left (none rfl)).symm
  | link moves =>
    rw [moves.requests]
    exact (and_iff_left (none (by rw [moves.requests]))).symm
  | loses =>
    rw [Requests.isVacant_congr (Requests.disconnect_lanes ..)]
    exact (and_iff_left (none (Requests.disconnect_issued ..))).symm
  | releases releasing => exact absurd releasing keeps
  | request moves =>
    cases moves with
    | @issues call want =>
      have joins : JoinsNone key client (client.issue call want).1 ↔ key ≠ want.key := by
        unfold JoinsNone
        rw [issue_trace]
        constructor
        · rintro old rfl
          exact Nat.lt_irrefl _ (outcomes.issued_lt (old _ List.mem_cons_self))
        · intro other request issued
          refine (List.mem_cons.mp issued).resolve_left fun new => ?_
          cases new
          exact other rfl
      rw [joins]
      exact client.requests.issue_isVacant want call.limit key
    | sends runs found turn opened =>
      rw [note_requests, note_requests, Requests.isVacant_congr (Requests.enter_lanes ..)]
      exact (and_iff_left (none (Requests.enter_issued ..))).symm
    | ends runs found =>
      rw [note_requests, sound.requests.release_isVacant found]
      exact (and_iff_left (none (Requests.release_issued ..))).symm
    | rests => exact (and_iff_left (none rfl)).symm
    | drops cancels => exact absurd cancels (spares _)
    | delivers =>
      rw [Requests.isVacant_congr (Requests.deliver_lanes ..)]
      exact (and_iff_left (none (Requests.deliver_issued ..))).symm

/-- In a step that neither gives up a call nor lets go of the client, a vacant lane stays so until a
request joins it, and none becomes vacant. -/
theorem Reachable.step_isVacant (reachable : Reachable config client) (keeps : action ≠ .release)
    (spares : ∀ call, action ≠ .cancel call) :
    (client.step action).requests.IsVacant key ↔
      client.requests.IsVacant key ∧ JoinsNone key client (client.step action) := by
  refine (@Reachable.step_keeps _ _ action (fun middle => client.trace ⊆ middle.trace ∧
    (middle.requests.IsVacant key ↔ client.requests.IsVacant key ∧ JoinsNone key client middle))
    reachable ?_ ⟨fun _ told => told, (and_iff_left fun _ => id).symm⟩).2
  rintro middle next sound outcomes _ moves ⟨grown, before⟩
  have further : middle.trace ⊆ next.trace := fun _ told => moves.remembers sound told
  refine ⟨fun _ told => further (grown told), ?_⟩
  rw [moves.isVacant_iff sound outcomes keeps spares, before, and_assoc]
  refine and_congr_right fun _ => ⟨?_, ?_⟩
  · exact fun ⟨old, oldToo⟩ request issued => old request (oldToo request issued)
  · exact fun old => ⟨fun request issued => old request (further issued),
      fun request issued => grown (old request issued)⟩

/-- The request of a call that is given up is dropped. -/
theorem step_cancel_requests (held : client.isHeld = true) (number : Nat) :
    (client.step (.cancel number)).requests = (client.abandon number).requests := by
  simp [step, held, perform, cancel, leave, sweep, noteAll_eq]

/-- A call that is given up leaves the lanes that it deserts vacant. -/
theorem step_cancel_isVacant (sound : client.Sound) (number : Nat) :
    (client.step (.cancel number)).requests.IsVacant key ↔
      client.requests.IsVacant key ∨ client.Deserts key number := by
  by_cases held : client.isHeld = true
  · rw [step_cancel_requests held]
    unfold abandon
    split
    · next alone =>
      refine (or_iff_left ?_).symm
      rintro ⟨waiting, member, named, _⟩
      simpa [named] using List.find?_eq_none.mp alone waiting member
    · next call waits =>
      have named : call.number = number := by simpa using List.find?_some waits
      subst named
      have own : ∀ waiting ∈ client.calls, waiting.number = call.number → waiting = call :=
        fun waiting member same =>
          List.inj_on_of_nodup_map sound.calls member (List.mem_of_find?_eq_some waits) same
      dsimp only
      split
      · next gone =>
        refine (or_iff_left ?_).symm
        rintro ⟨waiting, member, same, request, found, _⟩
        cases own waiting member same
        exact absurd (gone.symm.trans found) (by simp)
      · next request found =>
        rw [sound.requests.drop_isVacant found]
        refine or_congr_right ⟨?_, ?_⟩
        · rintro ⟨sameKey, turn, empty⟩
          exact ⟨call, List.mem_of_find?_eq_some waits, rfl, request, found, sameKey, turn, empty⟩
        · rintro ⟨waiting, member, same, other, foundOther, sameKey, turn, empty⟩
          cases own waiting member same
          cases found.symm.trans foundOther
          exact ⟨sameKey, turn, empty⟩
  · have unheld : client.isHeld = false := by simpa using held
    have same : client.step (.cancel number) = client := by
      simp [step, unheld, Action.isOwners]
    rw [same]
    refine (or_iff_left ?_).symm
    rintro ⟨waiting, member, _⟩
    rw [(sound.released unheld).2.1] at member
    cases member

/-- Without an owner there are no lanes. -/
theorem Move.lanes_eq_nil (moves : Move action client after) (sound : client.Sound)
    (none : client.isHeld = false → client.requests.lanes = []) (unheld : after.isHeld = false) :
    after.requests.lanes = [] := by
  cases moves with
  | remarks remarks =>
    rw [remarks.requests]
    exact none (remarks.isHeld ▸ unheld)
  | registers => exact none unheld
  | waits => exact none unheld
  | link moves =>
    rw [moves.requests]
    exact none (moves.keeps.2.2.2.2 ▸ unheld)
  | loses =>
    rw [Requests.disconnect_lanes]
    exact none unheld
  | releases => rfl
  | request moves =>
    have before : client.isHeld = false := moves.keeps.2.2.2.2 ▸ unheld
    obtain ⟨_, idle, gone⟩ := sound.released before
    cases moves with
    | issues runs asked =>
      rcases asked with held | busy
      · exact absurd (held.symm.trans before) (by simp)
      · exact absurd idle busy
    | sends runs found => exact absurd (found.symm.trans (gone _)) (by simp)
    | ends runs found => exact absurd (found.symm.trans (gone _)) (by simp)
    | rests => exact none before
    | drops cancels waits found => exact absurd (found.symm.trans (gone _)) (by simp)
    | delivers => exact (Requests.deliver_lanes ..).trans (none before)

theorem Reachable.lanes_eq_nil (reachable : Reachable config client)
    (unheld : client.isHeld = false) : client.requests.lanes = [] :=
  (@Reachable.bySoundMoves _ _ (fun client => client.isHeld = false → client.requests.lanes = [])
    reachable (fun _ => rfl) fun _ _ _ sound moves none => moves.lanes_eq_nil sound none) unheld

/-- No lane is left when the owner has let go of the client. -/
theorem Reachable.step_release_lanes (reachable : Reachable config client) :
    (client.step .release).requests.lanes = [] := by
  refine (reachable.step .release).lanes_eq_nil ?_
  unfold Client.step
  split
  · next unheld => simpa [Action.isOwners] using unheld
  · simp [perform, release, noteAll_eq]

/-! ## Vacant lanes in a run -/

/-- The last step of a run decides whether a lane stays deserted, or is deserted in it. -/
theorem deserted_concat (config : Config) (earlier : List Action) (action : Action)
    (key : RequestKey) :
    Deserted config (earlier ++ [action]) key ↔
      JoinsNone key ((Client.initial config).run earlier)
          (((Client.initial config).run earlier).step action) ∧
        ((action ≠ .release ∧ Deserted config earlier key) ∨
          ∃ call, action = .cancel call ∧ ((Client.initial config).run earlier).Deserts key call) := by
  let client := (Client.initial config).run earlier
  have sound : client.Sound := (@Reachable.initial config).sound.run earlier
  have stepped : (Client.initial config).run (earlier ++ [action]) = client.step action :=
    run_concat _ _ _
  constructor
  · rintro ⟨before, call, later, same, deserts, keeps, joinsNone⟩
    rw [stepped] at joinsNone
    rcases List.eq_nil_or_concat later with rfl | ⟨middle, last, rfl⟩
    · obtain ⟨rfl, own⟩ := List.append_inj' same rfl
      cases own
      exact ⟨joinsNone, .inr ⟨call, rfl, deserts⟩⟩
    · rw [List.concat_eq_append, ← List.cons_append, ← List.append_assoc] at same
      obtain ⟨rfl, own⟩ := List.append_inj' same rfl
      cases own
      have soundBefore := (@Reachable.initial config).sound.run before
      have grown : ((Client.initial config).run before).trace ⊆ client.trace := by
        intro event told
        change event ∈ ((Client.initial config).run (before ++ .cancel call :: middle)).trace
        rw [run_append]
        exact run_remembers soundBefore _ told
      refine ⟨fun request issued => grown (joinsNone request issued), .inl ⟨?_, ?_⟩⟩
      · rintro rfl
        exact keeps (by simp)
      · refine ⟨before, call, middle, rfl, deserts, fun member => keeps (by simp [member]), ?_⟩
        exact fun request issued => joinsNone request (run_remembers sound [action] issued)
  · rintro ⟨joinsNone, ⟨keeps, before, call, later, rfl, deserts, keepsToo, joinsNoneToo⟩ |
      ⟨call, rfl, deserts⟩⟩
    · refine ⟨before, call, later ++ [action], by simp, deserts, ?_, ?_⟩
      · simpa [keepsToo] using keeps.symm
      · rw [stepped]
        exact fun request issued => joinsNoneToo request (joinsNone request issued)
    · exact ⟨earlier, call, [], rfl, deserts, by simp, stepped ▸ joinsNone⟩

/-- No request joins a lane where none runs. -/
theorem joinsNone_of_aside (client : Client) (aside : action.runsRequests = false) :
    JoinsNone key client (client.step action) := by
  obtain ⟨events, none, grown⟩ := client.step_aside aside
  intro request issued
  rw [grown, List.mem_append] at issued
  refine issued.resolve_left fun new => ?_
  cases none _ new

/-- The lanes that are vacant after a run are those that were deserted in it. -/
theorem isVacant_iff_deserted (config : Config) (actions : List Action) (key : RequestKey) :
    ((Client.initial config).run actions).requests.IsVacant key ↔ Deserted config actions key := by
  induction actions using List.reverseRecOn with
  | nil =>
    constructor
    · intro vacant
      cases vacant
    · rintro ⟨before, call, later, same, _⟩
      simp at same
  | append_singleton earlier action inductionHypothesis =>
    have reachable : Reachable config ((Client.initial config).run earlier) :=
      Reachable.initial.run earlier
    rw [run_concat, deserted_concat, ← inductionHypothesis]
    by_cases cancels : ∃ call, action = .cancel call
    · obtain ⟨call, rfl⟩ := cancels
      rw [step_cancel_isVacant reachable.sound, and_iff_right (joinsNone_of_aside _ rfl)]
      simp
    · have spares : ∀ call, action ≠ .cancel call := fun call same => cancels ⟨call, same⟩
      by_cases releases : action = .release
      · subst releases
        simp [IsVacant, Requests.lane?, reachable.step_release_lanes]
      · rw [reachable.step_isVacant releases spares]
        simp [releases, spares, and_comm]

/-- How the lanes of a client fit the requests that there are. -/
structure LanesFit (config : Config) (actions : List Action) (client : Client) : Prop where
  /-- The lane of a key is there for the requests under it, unless it was deserted. -/
  there : ∀ key, (client.requests.lane? key).isSome = true ↔
    (∃ number request, client.requests.find? number = some request ∧ request.key = key) ∨
      Deserted config actions key
  /-- The request whose turn it is holds its very lane, and the others stand in its queue. -/
  filled : ∀ {key lane}, client.requests.lane? key = some lane → ∀ number,
    (lane.holder = some number ↔ ∃ request, client.requests.find? number = some request ∧
      request.key = key ∧ request.standing ≠ .queued) ∧
    (number ∈ lane.waiting ↔ ∃ request, client.requests.find? number = some request ∧
      request.key = key ∧ request.standing = .queued)
  distinct : client.requests.LanesDistinct
  /-- Without requests there are no lanes but those that were deserted. -/
  idle : (∀ number, client.requests.find? number = none) →
    (client.requests.lanes = [] ↔ ∀ key, ¬ Deserted config actions key)
  unheld : client.isHeld = false → client.requests.lanes = []

/-- After every run, the lane of a key is there exactly for the requests under the key, or because its
last request was given up at its turn before it ran. -/
theorem lanes_fit (config : Config) (actions : List Action) :
    LanesFit config actions ((Client.initial config).run actions) := by
  have reachable : Reachable config ((Client.initial config).run actions) :=
    Reachable.initial.run actions
  have sound := reachable.requests_sound
  have there := fun key =>
    (sound.lane_isSome_iff key).trans (or_congr_right (isVacant_iff_deserted config actions key))
  refine ⟨there, ?_, sound.lanes, ?_, reachable.lanes_eq_nil⟩
  · intro key lane found number
    have holds := sound.holder_iff key number
    have waits := sound.queue_iff key number
    simp only [Requests.holder?, Requests.queue, found, Option.bind_some, Option.map_some,
      Option.getD_some] at holds waits
    exact ⟨holds, waits⟩
  · intro none
    constructor
    · intro empty key deserted
      have lane := (there key).mpr (.inr deserted)
      simp [Requests.lane?, empty] at lane
    · intro kept
      refine List.eq_nil_iff_forall_not_mem.mpr fun lane member => ?_
      have lookup : (((Client.initial config).run actions).requests.lane? lane.key).isSome = true :=
        List.find?_isSome.mpr ⟨lane, member, by simp⟩
      rcases (there lane.key).mp lookup with ⟨number, request, found, _⟩ | deserted
      · exact absurd (found.symm.trans (none number)) (by simp)
      · exact kept _ deserted

/-- Two calls for the metadata of a file are given up one after the other, before the request of the
second one runs at its turn. No request is left then, and no call, but the lane is. -/
theorem lane_left_behind :
    let client := (Client.initial .loopback).run [.connect, .settle 1 .accepted, .resolve 1,
      .start (.query "a") none, .start (.query "a") none, .cancel 1, .cancel 2]
    client.isHeld = true ∧ client.calls = [] ∧ client.requests.live = [] ∧
      client.requests.lanes = [{ key := .info "a", holder := none }] := by
  decide

end RemoteAgent.Client
