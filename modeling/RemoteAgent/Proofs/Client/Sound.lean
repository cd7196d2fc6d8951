import RemoteAgent.Proofs.Client.Course
import RemoteAgent.Proofs.Link.Sound

/-!
# Sound clients

The requests and the link of a client are sound, its first handler is the file service, calls have
numbers of their own, and nothing is left under way once nobody holds it. Every reachable client is
sound (`Reachable.sound`).
-/

namespace RemoteAgent.Client

/-- How the parts of a client fit together. -/
structure Sound (client : Client) : Prop where
  requests : client.requests.Sound
  link : client.link.Sound
  /-- The file service is the first handler, and there is no other. -/
  handlers : ∃ later, client.handlers = .fileService :: later ∧ Handler.fileService ∉ later
  /-- Calls have numbers of their own. -/
  calls : (client.calls.map (·.number)).Nodup
  /-- Nothing is under way once nobody holds the client. -/
  released : client.isHeld = false → client.link.lifecycle = .closed ∧ client.calls = [] ∧
    ∀ number, client.requests.find? number = none

variable {client after : Client} {action : Action}

/-! ## What moves leave alone -/

theorem RequestMove.keeps (moves : RequestMove action client after) :
    after.config = client.config ∧ after.clock = client.clock ∧
      after.handlers = client.handlers ∧ after.called = client.called ∧
      after.isHeld = client.isHeld := by
  cases moves <;> exact ⟨rfl, rfl, rfl, rfl, rfl⟩

theorem LinkMove.keeps (moves : LinkMove action client after) :
    after.config = client.config ∧ after.clock = client.clock ∧
      after.handlers = client.handlers ∧ after.calls = client.calls ∧
      after.isHeld = client.isHeld := by
  cases moves <;> exact ⟨rfl, rfl, rfl, rfl, rfl⟩

/-- The configuration stays. -/
theorem Move.config (moves : Move action client after) : after.config = client.config := by
  cases moves with
  | remarks remarks => exact remarks.config
  | registers => rfl
  | waits => rfl
  | request moves => exact moves.keeps.1
  | link moves => exact moves.keeps.1
  | loses => rfl
  | releases => rfl

/-- No time passes while requests run. -/
theorem Move.clock_of_runs (moves : Move action client after)
    (runs : action.runsRequests = true) : after.clock = client.clock := by
  cases moves with
  | remarks remarks => exact remarks.clock
  | registers => rfl
  | waits waiting =>
    rw [waiting] at runs
    cases runs
  | request moves => exact moves.keeps.2.1
  | link moves => exact moves.keeps.2.1
  | loses => rfl
  | releases => rfl

/-- A request touches no link but to have its frame accepted by the open socket. -/
theorem RequestMove.link (moves : RequestMove action client after) :
    after.link = client.link ∨ ∃ generation frame, client.link.lifecycle = .opened generation ∧
      after.link = client.link.changeSocket generation (·.push (.frame frame)) := by
  cases moves with
  | issues => exact .inl rfl
  | sends _ _ _ opened => exact .inr ⟨_, _, opened, rfl⟩
  | ends => exact .inl rfl
  | rests => exact .inl rfl
  | drops => exact .inl rfl
  | delivers => exact .inl rfl

/-! ## Sound links -/

theorem LinkMove.sound (moves : LinkMove action client after) (sound : client.Sound) :
    after.link.Sound := by
  obtain ⟨_, link, ⟨later, handlers, once⟩, _, released⟩ := sound
  cases moves with
  | finds => exact link
  | joins => exact link.join _ _
  | dials deadline calling held unopened => exact link.dial _ deadline unopened
  | parts => exact link.leave _
  | sweeps => exact link.sweep
  | closes => exact link.close
  | settles number handshake => exact link.settle number handshake
  | opens resolving found own quiet => exact link.attach own
  | fails => exact link.fail _
  | accepts => exact link.push _ _
  | writes transmits found running queued => exact link.pop found queued
  | breaks => exact link.sever _
  | announces =>
    apply link.announce _
    rw [handlers]
    exact once
  | @retires generation socket found done =>
    apply link.retire
    intro opened
    obtain ⟨_, current, foundCurrent, alive⟩ := link.opened opened
    rw [found] at foundCurrent
    cases foundCurrent
    rcases done with reported | ⟨_, unheld⟩
    · rw [Socket.isLive, reported] at alive
      cases alive
    · exact absurd ((released unheld).1.symm.trans opened) (by simp)
  | tells found reporting => exact link.toldAllBut found reporting

/-- The lifecycle of a link that is closed for good stays so. -/
theorem LinkMove.closed (moves : LinkMove action client after) (unheld : client.isHeld = false)
    (closed : client.link.lifecycle = .closed) : after.link.lifecycle = .closed := by
  cases moves with
  | finds => exact closed
  | joins => exact closed
  | dials _ _ held =>
    rw [unheld] at held
    cases held
  | parts => exact closed
  | sweeps => exact closed
  | closes => exact Link.close_lifecycle _
  | settles => exact closed
  | opens _ _ own =>
    rw [closed] at own
    cases own
  | fails => exact (Link.fail_lifecycle_of_ne (by simp [closed])).trans closed
  | accepts => exact closed
  | writes => exact closed
  | breaks => exact closed
  | announces => exact (Link.announce_lifecycle_of_ne _ (by simp [closed])).trans closed
  | retires => exact closed
  | @tells _ _ _ _ _ later =>
    cases later with
    | nil => exact closed
    | cons next later => exact closed

/-- Requests do not come back to a client that nobody holds. -/
theorem RequestMove.released (moves : RequestMove action client after)
    (sound : client.requests.Sound) (unheld : client.isHeld = false) (calls : client.calls = [])
    (none : ∀ number, client.requests.find? number = none) :
    after.calls = [] ∧ ∀ number, after.requests.find? number = Option.none := by
  cases moves with
  | issues _ asked =>
    rcases asked with held | calling
    · rw [unheld] at held
      cases held
    · exact absurd calls calling
  | sends _ found =>
    rw [none] at found
    cases found
  | ends _ found =>
    rw [none] at found
    cases found
  | rests => exact ⟨calls, none⟩
  | drops _ _ found =>
    rw [none] at found
    cases found
  | @delivers _ _ _ _ key reply _ _ _ _ _ =>
    refine ⟨calls, ?_⟩
    cases answered : client.requests.entryFor? key with
    | none => simpa only [Requests.deliver, answered] using none
    | some entry =>
      obtain ⟨member, _⟩ := Requests.mem_of_entryFor? answered
      obtain ⟨_, _, found, _⟩ := (sound.entry_iff entry).mp member
      rw [none] at found
      cases found

/-- Calls keep numbers of their own. -/
theorem RequestMove.calls (moves : RequestMove action client after)
    (distinct : (client.calls.map (·.number)).Nodup) :
    (after.calls.map (·.number)).Nodup := by
  cases moves with
  | @issues call want _ _ _ =>
    have kept : (client.issue call want).1.calls =
        client.calls.filter (·.number != call.number) ++
          [{ call with request := (client.issue call want).2.number }] := rfl
    rw [kept, List.map_append, List.nodup_append]
    refine ⟨(List.filter_sublist.map _).nodup distinct, by simp, ?_⟩
    rintro number member _ last rfl
    obtain ⟨other, memberOther, rfl⟩ := List.mem_map.mp member
    have different := (List.mem_filter.mp memberOther).2
    have same : other.number = call.number := by simpa using last
    simp [same] at different
  | drops => exact (List.filter_sublist.map _).nodup distinct
  | _ => exact distinct

/-- Moves keep a client sound. -/
theorem Move.keepsSound (moves : Move action client after) (sound : client.Sound) :
    after.Sound := by
  have requests := moves.sound sound.requests
  cases moves with
  | remarks remarks =>
    refine ⟨requests, remarks.link ▸ sound.link, remarks.handlers ▸ sound.handlers,
      (remarks.calls.map _).nodup sound.calls, ?_⟩
    intro unheld
    rw [remarks.isHeld] at unheld
    obtain ⟨closed, calls, none⟩ := sound.released unheld
    rw [remarks.link, remarks.requests]
    exact ⟨closed, List.sublist_nil.mp (calls ▸ remarks.calls), none⟩
  | registers name claims hears =>
    obtain ⟨later, handlers, once⟩ := sound.handlers
    refine ⟨requests, sound.link, ⟨later ++ [.custom name claims hears], ?_, ?_⟩, sound.calls,
      sound.released⟩
    · simp [register, handlers]
    · simpa using once
  | waits => exact ⟨requests, sound.link, sound.handlers, sound.calls, sound.released⟩
  | request moves =>
    obtain ⟨_, _, handlers, _, isHeld⟩ := moves.keeps
    refine ⟨requests, ?_, handlers ▸ sound.handlers, moves.calls sound.calls, ?_⟩
    · rcases moves.link with same | ⟨generation, frame, _, pushed⟩
      · exact same ▸ sound.link
      · exact pushed ▸ sound.link.push generation _
    · intro unheld
      rw [isHeld] at unheld
      obtain ⟨closed, calls, none⟩ := sound.released unheld
      refine ⟨?_, moves.released sound.requests unheld calls none⟩
      rcases moves.link with same | ⟨generation, frame, _, pushed⟩
      · rw [same, closed]
      · rw [pushed, Link.changeSocket_lifecycle, closed]
  | link moves =>
    obtain ⟨_, _, handlers, sameCalls, isHeld⟩ := moves.keeps
    refine ⟨requests, moves.sound sound, handlers ▸ sound.handlers, sameCalls ▸ sound.calls, ?_⟩
    intro unheld
    rw [isHeld] at unheld
    obtain ⟨closed, calls, none⟩ := sound.released unheld
    rw [moves.requests]
    exact ⟨moves.closed unheld closed, sameCalls.trans calls, none⟩
  | @loses _ _ later _ found reporting =>
    refine ⟨requests, sound.link.toldAllBut found reporting, sound.handlers, sound.calls, ?_⟩
    intro unheld
    obtain ⟨closed, calls, none⟩ := sound.released unheld
    refine ⟨?_, calls, fun number => ?_⟩
    · cases later with
      | nil => exact closed
      | cons next later => exact closed
    · rw [Requests.disconnect_find?, none]
      split <;> rfl
  | releases =>
    refine ⟨requests, sound.link.close.withAttempts (List.nil_sublist _), sound.handlers,
      List.nodup_nil, ?_⟩
    exact fun _ => ⟨Link.close_lifecycle _, rfl, by simp [Requests.find?]⟩

/-- Every client is sound. -/
theorem Reachable.sound {config : Config} (reachable : Reachable config client) :
    client.Sound := by
  refine reachable.byMoves ?_ fun action client after _ moves sound => moves.keepsSound sound
  refine ⟨Requests.sound_nothing 0, Link.sound_initial, ⟨[], rfl, by simp⟩, List.nodup_nil, ?_⟩
  intro unheld
  cases unheld

theorem Reachable.config {config : Config} (reachable : Reachable config client) :
    client.config = config :=
  @Reachable.byMoves _ _ (fun client => client.config = config) reachable rfl
    fun _ _ _ _ moves same => moves.config.trans same

/-- What holds at the beginning and is kept by every move of a sound client holds always. -/
theorem Reachable.bySoundMoves {config : Config} {property : Client → Prop}
    (reachable : Reachable config client) (initially : property (Client.initial config))
    (kept : ∀ action client after, client.Sound → Move action client after →
      property client → property after) : property client := by
  refine (@Reachable.byMoves _ _ (fun client => client.Sound ∧ property client) reachable
    ⟨Reachable.initial.sound, initially⟩ ?_).2
  intro action client after _ moves ⟨sound, holds⟩
  exact ⟨moves.keepsSound sound, kept action client after sound moves holds⟩

/-- A run of a sound client keeps what every move of its actions keeps. -/
theorem run_keeps {property : Client → Prop} (sound : client.Sound) {actions : List Action}
    (kept : ∀ action ∈ actions, ∀ middle next, middle.Sound → Move action middle next →
      property middle → property next)
    (before : property client) :
    (client.run actions).Sound ∧ property (client.run actions) := by
  induction actions generalizing client with
  | nil => exact ⟨sound, before⟩
  | cons action later inductionHypothesis =>
    have stepped := (@step_induct client action (fun client => client.Sound ∧ property client)
      sound.requests (fun middle next _ moves ⟨soundMiddle, holds⟩ =>
        ⟨moves.keepsSound soundMiddle,
          kept action List.mem_cons_self middle next soundMiddle moves holds⟩)
      ⟨sound, before⟩).2
    exact inductionHypothesis stepped.1
      (fun other member => kept other (List.mem_cons_of_mem _ member)) stepped.2

/-- A step keeps a client sound. -/
theorem Sound.step (sound : client.Sound) (action : Action) : (client.step action).Sound :=
  (@step_induct client action (fun client => client.Sound) sound.requests
    (fun _ _ _ moves soundMiddle => moves.keepsSound soundMiddle) sound).2

/-- A run keeps a client sound. -/
theorem Sound.run (sound : client.Sound) (actions : List Action) : (client.run actions).Sound :=
  (@run_keeps client (fun _ => True) sound actions (fun _ _ _ _ _ _ _ => trivial) trivial).1

end RemoteAgent.Client
