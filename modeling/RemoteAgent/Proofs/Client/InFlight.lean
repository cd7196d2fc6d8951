import RemoteAgent.Proofs.Client.History

/-!
# Requests in flight and their sockets

A request in flight waits on the socket that its frame was accepted for, and that socket still
owes the file service the report of its end (`Reachable.entriesOwed`). Therefore no request waits
on a socket whose end was reported, and nothing is in flight once every socket that was opened has
reported its end (`inFlight_awaits_report`).
-/

namespace RemoteAgent

namespace Requests

/-- A request that is dropped takes entries out of flight at most. -/
theorem drop_inFlight (requests : Requests) (request : Request) :
    (requests.drop request).inFlight.Sublist requests.inFlight := by
  unfold drop
  split
  · split <;> exact List.Sublist.refl _
  · rw [passTurn_inFlight]
    exact List.Sublist.refl _
  · rw [release_inFlight]
    exact List.filter_sublist

end Requests

namespace Client

variable {client after : Client} {action : Action}

/-- Without requests nothing is in flight. -/
theorem Sound.inFlight_eq_nil (sound : client.Sound) (unheld : client.isHeld = false) :
    client.requests.inFlight = [] := by
  refine List.eq_nil_iff_forall_not_mem.mpr fun entry member => ?_
  obtain ⟨request, _, found, _⟩ := (sound.requests.entry_iff entry).mp member
  rw [(sound.released unheld).2.2] at found
  cases found

/-- An entry was in flight before a move, or its frame was accepted by the open socket in it. -/
theorem Move.entries (moves : Move action client after) (sound : client.Sound) {entry : Entry}
    (member : entry ∈ after.requests.inFlight) :
    entry ∈ client.requests.inFlight ∨ client.link.lifecycle = .opened entry.generation := by
  cases moves with
  | remarks remarks => exact .inl (remarks.requests ▸ member)
  | registers => exact .inl member
  | waits => exact .inl member
  | request moves =>
    cases moves with
    | issues => exact .inl (Requests.issue_inFlight _ _ _ ▸ member)
    | sends runs found turn opened =>
      rw [note_requests, note_requests, sound.requests.enter_inFlight _ _ found turn]
        at member
      rcases List.mem_append.mp member with old | new
      · exact .inl old
      · rw [List.mem_singleton.mp new]
        exact .inr opened
    | ends =>
      rw [note_requests, Requests.release_inFlight] at member
      exact .inl (List.mem_filter.mp member).1
    | rests => exact .inl member
    | drops => exact .inl ((Requests.drop_inFlight _ _).subset member)
    | delivers =>
      rw [Requests.deliver_inFlight] at member
      exact .inl (List.mem_filter.mp member).1
  | link moves => exact .inl (moves.requests ▸ member)
  | loses =>
    rw [Requests.disconnect_inFlight] at member
    exact .inl (List.mem_filter.mp member).1
  | releases => cases member

/-- Every entry in flight has a socket that owes the file service the report of its end. -/
def EntriesOwed (client : Client) : Prop :=
  ∀ entry ∈ client.requests.inFlight, client.link.Owes entry.generation

theorem Reachable.entriesOwed {config : Config} (reachable : Reachable config client) :
    client.EntriesOwed := by
  refine reachable.bySoundMoves ?_ ?_
  · simp [EntriesOwed, Client.initial]
  intro action client after sound moves owed entry member
  have held : client.isHeld ≠ false ∧ after.isHeld ≠ false := by
    constructor
    · intro unheld
      have soundToo := moves.keepsSound sound
      rcases moves.entries sound member with old | opened
      · rw [sound.inFlight_eq_nil unheld] at old
        cases old
      · exact absurd ((sound.released unheld).1.symm.trans opened) (by simp)
    · intro unheld
      rw [(moves.keepsSound sound).inFlight_eq_nil unheld] at member
      cases member
  have owing : client.link.Owes entry.generation := by
    rcases moves.entries sound member with old | opened
    · exact owed entry old
    · obtain ⟨_, socket, found, live⟩ := sound.link.opened opened
      exact ⟨socket, found, Socket.owes_of_isLive live⟩
  rcases moves.owes sound owing with stays | unheld | unheld | lost
  · exact stays
  · exact absurd unheld held.1
  · exact absurd unheld held.2
  · rw [lost, Requests.disconnect_inFlight] at member
    simp at member

/-- An entry in flight is that of a socket that was opened and of whose end the file service has
not been told, and every request that waits for its reply has such an entry. Hence nothing is in
flight when the file service was told of the end of every socket that was opened. -/
theorem inFlight_awaits_report {config : Config} {client : Client}
    (reachable : Reachable config client) :
    (∀ entry ∈ client.requests.inFlight,
      (∃ attempt, .opened entry.generation attempt ∈ client.trace) ∧
        .told .fileService entry.generation ∉ client.trace) ∧
    (∀ number request generation sentAt, client.requests.find? number = some request →
      request.standing = .waiting generation sentAt →
        ∃ entry ∈ client.requests.inFlight,
          entry.request = number ∧ entry.generation = generation) ∧
    ((∀ generation attempt, .opened generation attempt ∈ client.trace →
        .told .fileService generation ∈ client.trace) →
      client.requests.inFlight = [] ∧ client.requests.pending = 0) := by
  have history := reachable.history
  have unreported : ∀ entry ∈ client.requests.inFlight,
      (∃ attempt, .opened entry.generation attempt ∈ client.trace) ∧
        .told .fileService entry.generation ∉ client.trace := by
    intro entry member
    have owing := reachable.entriesOwed entry member
    obtain ⟨socket, found, _⟩ := id owing
    exact ⟨⟨socket.attempt, history.socket found⟩, fun told => (history.told told).2 owing⟩
  refine ⟨unreported, ?_, ?_⟩
  · intro number request generation sentAt found waits
    exact ⟨_, reachable.sound.requests.entry_of_waiting found waits, rfl, rfl⟩
  · intro reported
    have nothing : client.requests.inFlight = [] := by
      refine List.eq_nil_iff_forall_not_mem.mpr fun entry member => ?_
      obtain ⟨⟨attempt, opened⟩, notTold⟩ := unreported entry member
      exact notTold (reported _ _ opened)
    exact ⟨nothing, by rw [Requests.pending, nothing]; rfl⟩

/-- A question for a file is in flight on the first socket. -/
theorem inFlight_awaits_report_of_query :
    let client := (Client.initial .loopback).run
      [.connect, .settle 1 .accepted, .resolve 1, .start (.query "a") none]
    client.requests.inFlight = [⟨.info "a", 1, 0, .info⟩] ∧
      .told .fileService 1 ∉ client.trace := by
  have reachable : Reachable .loopback ((Client.initial .loopback).run
      [.connect, .settle 1 .accepted, .resolve 1, .start (.query "a") none]) :=
    Reachable.initial.run _
  have inFlight : ((Client.initial .loopback).run [.connect, .settle 1 .accepted, .resolve 1,
      .start (.query "a") none]).requests.inFlight = [⟨.info "a", 1, 0, .info⟩] := by decide
  refine ⟨inFlight, ?_⟩
  have unreported := (inFlight_awaits_report reachable).1 ⟨.info "a", 1, 0, .info⟩
  rw [inFlight] at unreported
  exact (unreported (List.mem_singleton.mpr rfl)).2

end Client

end RemoteAgent
