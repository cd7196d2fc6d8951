import RemoteAgent.Proofs.Client.Trace

/-!
# What the trace tells of sockets

The sockets of a client are among those that were opened, each by an attempt that the lifecycle
names no more, and the file service is told of the end of a socket once
(`Reachable.history`).
-/

namespace RemoteAgent.Client

/-- What the trace tells of attempts and sockets. -/
structure History (client : Client) : Prop where
  /-- An attempt that has opened a socket is not the attempt of the link. -/
  opened : ∀ {generation attempt}, .opened generation attempt ∈ client.trace →
    generation ≤ client.link.generations ∧ attempt ≤ client.link.dials ∧
      client.link.lifecycle ≠ .connecting attempt
  socket : ∀ {generation socket}, client.link.socket? generation = some socket →
    .opened generation socket.attempt ∈ client.trace
  /-- Once the file service is told of the end of a socket, the socket owes it nothing. -/
  told : ∀ {generation}, .told .fileService generation ∈ client.trace →
    generation ≤ client.link.generations ∧ ¬ client.link.Owes generation
  traffic : ∀ {event} {generation : Nat}, event ∈ client.trace →
    event.isTraffic generation = true → generation ≤ client.link.generations

variable {client after : Client} {action : Action}

/-! ## The lifecycle -/

/-- Numbers of attempts and generations only grow. -/
theorem Move.counts (moves : Move action client after) :
    client.link.generations ≤ after.link.generations ∧ client.link.dials ≤ after.link.dials := by
  cases moves with
  | remarks remarks => simp [remarks.link]
  | registers => exact ⟨Nat.le_refl _, Nat.le_refl _⟩
  | waits => exact ⟨Nat.le_refl _, Nat.le_refl _⟩
  | request moves =>
    rcases moves.link with same | ⟨_, _, _, pushed⟩
    · simp [same]
    · rw [pushed]
      exact ⟨Nat.le_refl _, Nat.le_refl _⟩
  | link moves =>
    cases moves with
    | dials => exact ⟨Nat.le_refl _, Nat.le_succ _⟩
    | opens => exact ⟨Nat.le_succ _, Nat.le_refl _⟩
    | closes =>
      simp only [Link.close]
      split <;> exact ⟨Nat.le_refl _, Nat.le_refl _⟩
    | @tells _ _ _ _ _ later =>
      cases later <;> exact ⟨Nat.le_refl _, Nat.le_refl _⟩
    | _ => exact ⟨Nat.le_refl _, Nat.le_refl _⟩
  | @loses _ _ later =>
    cases later <;> exact ⟨Nat.le_refl _, Nat.le_refl _⟩
  | releases =>
    simp only [Link.close]
    split <;> exact ⟨Nat.le_refl _, Nat.le_refl _⟩

/-- A lifecycle stays, comes to rest, or goes on to a new attempt or to a new socket. -/
theorem Move.lifecycle (moves : Move action client after) :
    after.link.lifecycle = client.link.lifecycle ∨ after.link.lifecycle = .idle ∨
      after.link.lifecycle = .closed ∨
      (action = .connect ∧ ∃ deadline, after.link = client.link.dial client.called deadline) ∨
      ∃ number, client.link.lifecycle = .connecting number ∧
        after.link.lifecycle = .opened (client.link.generations + 1) := by
  cases moves with
  | remarks remarks => exact .inl (by rw [remarks.link])
  | registers => exact .inl rfl
  | waits => exact .inl rfl
  | request moves =>
    rcases moves.link with same | ⟨_, _, _, pushed⟩
    · exact .inl (by rw [same])
    · exact .inl (by rw [pushed]; rfl)
  | link moves =>
    cases moves with
    | closes => exact .inr (.inr (.inl (Link.close_lifecycle _)))
    | dials deadline calling => exact .inr (.inr (.inr (.inl ⟨calling, deadline, rfl⟩)))
    | opens _ _ own => exact .inr (.inr (.inr (.inr ⟨_, own, rfl⟩)))
    | @fails attempt =>
      by_cases own : client.link.lifecycle = .connecting attempt.number
      · exact .inr (.inl (if_pos own))
      · exact .inl (Link.fail_lifecycle_of_ne own)
    | @announces generation =>
      by_cases own : client.link.lifecycle = .opened generation
      · exact .inr (.inl (if_pos own))
      · exact .inl (Link.announce_lifecycle_of_ne _ own)
    | @tells _ _ _ _ _ later =>
      cases later <;> exact .inl rfl
    | _ => exact .inl rfl
  | @loses _ _ later =>
    cases later <;> exact .inl rfl
  | releases => exact .inr (.inr (.inl (Link.close_lifecycle _)))

/-- An attempt that the link does not name, and that is not to come, stays unnamed. -/
theorem Move.unnamed (moves : Move action client after) {number : Nat}
    (past : number ≤ client.link.dials)
    (other : client.link.lifecycle ≠ .connecting number) :
    after.link.lifecycle ≠ .connecting number := by
  intro connecting
  rcases moves.lifecycle with same | idle | closed | ⟨_, deadline, next⟩ | ⟨_, _, opened⟩
  · exact other (same.symm.trans connecting)
  · exact absurd (idle.symm.trans connecting) (by simp)
  · exact absurd (closed.symm.trans connecting) (by simp)
  · rw [next, Link.dial, Lifecycle.connecting.injEq] at connecting
    omega
  · exact absurd (opened.symm.trans connecting) (by simp)

/-- The socket of a link that is open was so before a move, or it is new. -/
theorem Move.opened_before (moves : Move action client after) {generation : Nat}
    (opened : after.link.lifecycle = .opened generation) :
    client.link.lifecycle = .opened generation ∨ generation = client.link.generations + 1 := by
  rcases moves.lifecycle with same | idle | closed | ⟨_, _, dialed⟩ | ⟨_, _, newest⟩
  · exact .inl (same.symm.trans opened)
  · cases idle.symm.trans opened
  · cases closed.symm.trans opened
  · rw [dialed] at opened
    cases opened
  · exact .inr (Lifecycle.opened.inj (newest.symm.trans opened)).symm

/-! ## Debts -/

/-- A debt was there before a move, or is that of a new socket. -/
theorem Move.owed (moves : Move action client after) (sound : client.Sound) {generation : Nat}
    (owing : after.link.Owes generation) :
    client.link.Owes generation ∨ generation = client.link.generations + 1 := by
  obtain ⟨socket, found, owes⟩ := owing
  rcases moves.follows sound found with ⟨before, _, foundBefore, follows, _⟩ | ⟨newest, _⟩
  · rcases follows.owes owes with owed | ⟨handler, later, reporting, again⟩
    · exact .inl ⟨before, foundBefore, owed⟩
    · exact absurd again (sound.link.told foundBefore reporting)
  · exact .inr newest

/-- A socket that has told the file service owes it nothing more. -/
theorem not_owes_of_toldAllBut {link : Link} (sound : link.Sound) {generation : Nat}
    {socket : Socket} {handler : Handler} {later : List Handler}
    (found : link.socket? generation = some socket)
    (reporting : socket.stage = .reporting (handler :: later)) :
    ¬ (link.toldAllBut generation later).Owes generation := by
  rintro ⟨next, foundNext, owes⟩
  rw [Link.socket?_toldAllBut, if_pos rfl, found] at foundNext
  split at foundNext
  · cases foundNext
  · cases foundNext
    have again : later.head? = some .fileService := by simpa [Socket.owes] using owes
    exact absurd (List.mem_of_head? again) (sound.told found reporting)

theorem Move.history (moves : Move action client after) (sound : client.Sound)
    (history : client.History) : after.History := by
  have counts := moves.counts
  refine ⟨?_, ?_, ?_, ?_⟩
  · intro generation attempt member
    rcases moves.explains sound member with old | ⟨newest, own, attached⟩
    · have before := history.opened old
      exact ⟨Nat.le_trans before.1 counts.1, Nat.le_trans before.2.1 counts.2,
        moves.unnamed before.2.1 before.2.2⟩
    · rw [attached]
      refine ⟨Nat.le_of_eq newest, Nat.le_of_eq (sound.link.connecting own), ?_⟩
      simp [Link.attach]
  · intro generation socket found
    rcases moves.follows sound found with ⟨before, _, foundBefore, follows, _⟩ | opens
    · rw [follows.attempt]
      exact moves.remembers sound (history.socket foundBefore)
    · exact opens.2.2.2.2.1
  · intro generation member
    rcases moves.explains sound member with old | ⟨socket, later, found, reporting, told, _⟩
    · have before := history.told old
      refine ⟨Nat.le_trans before.1 counts.1, ?_⟩
      intro owing
      rcases moves.owed sound owing with owed | newest
      · exact before.2 owed
      · have bounded := before.1
        omega
    · refine ⟨Nat.le_trans (sound.link.generation_le found) counts.1, ?_⟩
      rw [told]
      exact not_owes_of_toldAllBut sound.link found reporting
  · intro event generation member isTraffic
    rcases moves.explains sound member with old | explained
    · exact Nat.le_trans (history.traffic old isTraffic) counts.1
    · cases event with
      | accepted other frame =>
        have same : other = generation := by simpa [Event.isTraffic] using isTraffic
        subst same
        exact Nat.le_trans (Nat.le_of_eq (sound.link.opened explained.1).1) counts.1
      | transmitted other frame =>
        have same : other = generation := by simpa [Event.isTraffic] using isTraffic
        subst same
        obtain ⟨socket, found⟩ := explained
        exact Nat.le_trans (sound.link.generation_le found) counts.1
      | _ => cases isTraffic

theorem Reachable.history {config : Config} (reachable : Reachable config client) :
    client.History := by
  refine reachable.bySoundMoves ?_ fun _ _ _ sound moves history => moves.history sound history
  exact ⟨by simp [Client.initial], by simp [Client.initial, Link.socket?],
    by simp [Client.initial], by simp [Client.initial]⟩

/-- What holds at the beginning and is kept by every move of a client whose trace is known to
agree with its sockets holds always. -/
theorem Reachable.byHistory {config : Config} {property : Client → Prop}
    (reachable : Reachable config client) (initially : property (Client.initial config))
    (kept : ∀ action client after, client.Sound → client.History → Move action client after →
      property client → property after) : property client := by
  refine (@Reachable.bySoundMoves _ _ (fun client => client.History ∧ property client) reachable
    ⟨Reachable.initial.history, initially⟩ ?_).2
  intro action client after sound moves ⟨history, holds⟩
  exact ⟨moves.history sound history, kept action client after sound history moves holds⟩

end RemoteAgent.Client
