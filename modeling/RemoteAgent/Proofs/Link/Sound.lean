import RemoteAgent.Proofs.Link.Views

/-!
# Sound links

Numbers of attempts and generations of sockets are never taken twice. The socket that the
lifecycle names has not begun to report its end, and is the newest one; any other socket that
still runs has the order to close in its queue; and the attempt that the lifecycle names is the
newest one, and has opened no socket. Every change to a link keeps this.
-/

namespace RemoteAgent

/-- The socket has not begun to report its end. -/
def Socket.isLive (socket : Socket) : Bool :=
  match socket.stage with
  | .running | .broken => true
  | .reporting _ => false

/-- Only a socket that has not begun to report its end, or is about to tell the file service
first, owes it a report. -/
theorem Socket.owes_of_isLive {socket : Socket} (live : socket.isLive = true) :
    socket.owes = true := by
  unfold owes
  cases stage : socket.stage with
  | running => rfl
  | broken => rfl
  | reporting remaining => simp [isLive, stage] at live

namespace Link

/-- How the parts of a link fit together. -/
structure Sound (link : Link) : Prop where
  generation_le : ∀ {generation socket}, link.socket? generation = some socket →
    generation ≤ link.generations
  /-- The open socket is the newest one. -/
  opened : ∀ {generation}, link.lifecycle = .opened generation → generation = link.generations ∧
    ∃ socket, link.socket? generation = some socket ∧ socket.isLive = true
  /-- A socket that runs without being the open one is to close. -/
  shutdown : ∀ {generation socket}, link.socket? generation = some socket →
    socket.stage = .running → link.lifecycle = .opened generation ∨ .shutdown ∈ socket.queue
  /-- The file service is told first, and once. -/
  told : ∀ {generation socket remaining}, link.socket? generation = some socket →
    socket.stage = .reporting remaining → Handler.fileService ∉ remaining.tail
  distinct : (link.attempts.map (·.number)).Nodup
  number_le : ∀ attempt ∈ link.attempts, attempt.number ≤ link.dials
  /-- The attempt of the link is the newest one. -/
  connecting : ∀ {number}, link.lifecycle = .connecting number → number = link.dials
  /-- An attempt that has opened a socket is not the attempt of the link. -/
  spent : ∀ {generation socket}, link.socket? generation = some socket →
    socket.attempt ≤ link.dials ∧ link.lifecycle ≠ .connecting socket.attempt

variable {link : Link}

/-- A link that has done nothing is sound. -/
theorem sound_initial : Sound {} where
  generation_le := by simp [socket?]
  opened := by simp
  shutdown := by simp [socket?]
  told := by simp [socket?]
  distinct := by simp
  number_le := by simp
  connecting := by simp
  spent := by simp [socket?]

namespace Sound

/-! ## Attempts -/

/-- The attempt of a number is the only one in the list. -/
theorem attempt?_of_mem (sound : link.Sound) {attempt : Attempt}
    (member : attempt ∈ link.attempts) : link.attempt? attempt.number = some attempt :=
  find?_of_nodup sound.distinct member

/-- Attempts may go, and change in everything but their numbers. -/
theorem withAttempts (sound : link.Sound) {attempts : List Attempt}
    (fewer : (attempts.map (·.number)).Sublist (link.attempts.map (·.number))) :
    Sound { link with attempts } :=
  { sound with
    distinct := fewer.nodup sound.distinct
    number_le := by
      intro attempt member
      obtain ⟨before, memberToo, same⟩ :=
        List.mem_map.mp (fewer.subset (List.mem_map_of_mem member))
      exact same ▸ sound.number_le before memberToo }

/-- A change to an attempt that keeps its number keeps a link sound. -/
theorem changeAttempt (sound : link.Sound) (number : Nat) {change : Attempt → Attempt}
    (keeps : ∀ attempt, (change attempt).number = attempt.number) :
    (link.changeAttempt number change).Sound := by
  have same : (link.changeAttempt number change).attempts.map (·.number) =
      link.attempts.map (·.number) := by
    refine List.map_map.trans (List.map_congr_left fun attempt _ => ?_)
    simp only [Function.comp_apply]
    split
    · exact keeps attempt
    · rfl
  exact sound.withAttempts (same ▸ List.Sublist.refl _)

/-- A caller may join an attempt. -/
theorem join (sound : link.Sound) (number caller : Nat) :
    (link.changeAttempt number (·.join caller)).Sound :=
  sound.changeAttempt number fun _ => rfl

/-- A handshake may end. -/
theorem settle (sound : link.Sound) (number : Nat) (handshake : Handshake) :
    (link.settle number handshake).Sound :=
  sound.changeAttempt number fun attempt => attempt.number_settle handshake

/-- A caller may leave. -/
theorem leave (sound : link.Sound) (caller : Nat) : (link.leave caller).Sound := by
  apply sound.withAttempts
  rw [List.map_map]
  exact List.Sublist.refl _

/-- Attempts may be swept away. -/
theorem sweep (sound : link.Sound) : link.sweep.Sound :=
  sound.withAttempts (List.filter_sublist.map _)

/-- An attempt may be forgotten. -/
theorem forget (sound : link.Sound) (number : Nat) : (link.forget number).Sound :=
  sound.withAttempts (List.filter_sublist.map _)

/-- An attempt may be dialed while no socket is open. -/
theorem dial (sound : link.Sound) (caller deadline : Nat)
    (unopened : ∀ generation, link.lifecycle ≠ .opened generation) :
    (link.dial caller deadline).Sound where
  generation_le := sound.generation_le
  opened := by simp [Link.dial]
  shutdown := by
    intro generation socket found running
    rcases sound.shutdown found running with opened | shutdown
    · exact absurd opened (unopened generation)
    · exact .inr shutdown
  told := sound.told
  distinct := by
    rw [Link.dial, List.map_append, List.nodup_append]
    refine ⟨sound.distinct, by simp, ?_⟩
    rintro number member _ last rfl
    obtain ⟨attempt, memberToo, rfl⟩ := List.mem_map.mp member
    have bounded := sound.number_le attempt memberToo
    have newest : attempt.number = link.dials + 1 := by simpa using last
    omega
  number_le := by
    intro attempt member
    rcases List.mem_append.mp member with old | new
    · exact Nat.le_succ_of_le (sound.number_le attempt old)
    · rw [List.mem_singleton.mp new]
      exact Nat.le_refl _
  connecting := by
    intro number connecting
    simpa [Link.dial, eq_comm] using connecting
  spent := by
    intro generation socket found
    have bounded := (sound.spent found).1
    refine ⟨Nat.le_succ_of_le bounded, ?_⟩
    intro connecting
    have newest : link.dials + 1 = socket.attempt := by simpa [Link.dial] using connecting
    omega

/-- The lifecycle may become one that names nothing, if what runs is to close. -/
theorem withLifecycle (sound : link.Sound) {lifecycle : Lifecycle}
    (unopened : ∀ generation, lifecycle ≠ .opened generation)
    (unconnected : ∀ number, lifecycle ≠ .connecting number)
    (shutdown : ∀ generation socket, link.socket? generation = some socket →
      socket.stage = .running → .shutdown ∈ socket.queue) :
    Sound { link with lifecycle } :=
  { sound with
    opened := fun opened => absurd opened (unopened _)
    shutdown := fun found running => .inr (shutdown _ _ found running)
    connecting := fun connecting => absurd connecting (unconnected _)
    spent := fun found => ⟨(sound.spent found).1, unconnected _⟩ }

/-- An attempt may fail. -/
theorem fail (sound : link.Sound) (number : Nat) : (link.fail number).Sound := by
  have forgotten := sound.forget number
  by_cases own : link.lifecycle = .connecting number
  · have idle : (link.fail number) = { link.forget number with lifecycle := .idle } := by
      simp [Link.fail, Lifecycle.afterFailure, own]
    rw [idle]
    apply forgotten.withLifecycle (by simp) (by simp)
    intro generation socket found running
    rcases forgotten.shutdown found running with opened | shutdown
    · exact absurd (own.symm.trans opened) (by simp)
    · exact shutdown
  · have same : link.fail number = link.forget number := by
      simp only [Link.fail, Lifecycle.afterFailure, if_neg own]
      rfl
    exact same ▸ forgotten

/-! ## Sockets -/

/-- A socket may change if it stays as alive as the lifecycle says it is. -/
theorem changeSocket (sound : link.Sound) (generation : Nat) {change : Socket → Socket}
    (keeps : ∀ socket, (change socket).generation = socket.generation)
    (keepsAttempt : ∀ socket, (change socket).attempt = socket.attempt)
    (live : link.lifecycle = .opened generation → ∀ socket,
      link.socket? generation = some socket → socket.isLive = true →
        (change socket).isLive = true)
    (shutdown : ∀ socket, link.socket? generation = some socket →
      (change socket).stage = .running → socket.stage = .running ∧
        (.shutdown ∈ socket.queue → .shutdown ∈ (change socket).queue))
    (told : ∀ socket remaining, link.socket? generation = some socket →
      (change socket).stage = .reporting remaining → Handler.fileService ∉ remaining.tail) :
    (link.changeSocket generation change).Sound := by
  refine { sound with generation_le := ?_, opened := ?_, shutdown := ?_, told := ?_, spent := ?_ }
  · intro other socket found
    obtain ⟨before, foundBefore, _⟩ := found_of_changeSocket keeps found
    exact sound.generation_le foundBefore
  · intro other opened
    obtain ⟨newest, socket, found, alive⟩ := sound.opened opened
    refine ⟨newest, ?_⟩
    rw [link.socket?_changeSocket generation other keeps, found]
    split
    · next same =>
      subst same
      exact ⟨_, rfl, live opened socket found alive⟩
    · exact ⟨socket, rfl, alive⟩
  · intro other socket found running
    obtain ⟨before, foundBefore, ⟨rfl, rfl⟩ | ⟨_, rfl⟩⟩ := found_of_changeSocket keeps found
    · obtain ⟨ran, keepsShutdown⟩ := shutdown before foundBefore running
      exact (sound.shutdown foundBefore ran).imp_right keepsShutdown
    · exact sound.shutdown foundBefore running
  · intro other socket remaining found reporting
    obtain ⟨before, foundBefore, ⟨rfl, rfl⟩ | ⟨_, rfl⟩⟩ := found_of_changeSocket keeps found
    · exact told before remaining foundBefore reporting
    · exact sound.told foundBefore reporting
  · intro other socket found
    obtain ⟨before, foundBefore, ⟨rfl, rfl⟩ | ⟨_, rfl⟩⟩ := found_of_changeSocket keeps found
    · rw [keepsAttempt]
      exact sound.spent foundBefore
    · exact sound.spent foundBefore

/-- A command may be queued for a socket. -/
theorem push (sound : link.Sound) (generation : Nat) (command : Command) :
    (link.changeSocket generation (·.push command)).Sound := by
  refine sound.changeSocket generation (fun _ => rfl) (fun _ => rfl) ?_ ?_ ?_
  · exact fun _ socket _ live => live
  · exact fun socket _ running => ⟨running, List.mem_append_left _⟩
  · exact fun socket remaining found reporting => sound.told found reporting

/-- A frame that is taken from a queue leaves the order to close in it. -/
theorem pop (sound : link.Sound) {generation : Nat} {socket : Socket} {frame : Bytes}
    {rest : List Command} (found : link.socket? generation = some socket)
    (queued : socket.queue = .frame frame :: rest) :
    (link.changeSocket generation fun socket => { socket with queue := rest }).Sound := by
  refine sound.changeSocket generation (fun _ => rfl) (fun _ => rfl) ?_ ?_ ?_
  · exact fun _ socket _ live => live
  · intro other foundOther running
    rw [found] at foundOther
    cases foundOther
    refine ⟨running, ?_⟩
    rw [queued]
    simp
  · exact fun socket remaining found reporting => sound.told found reporting

/-- A socket may be severed. -/
theorem sever (sound : link.Sound) (generation : Nat) : (link.sever generation).Sound := by
  have ended : ∀ socket : Socket, socket.ended.generation = socket.generation ∧
      socket.ended.attempt = socket.attempt ∧ (socket.isLive = true → socket.ended.isLive = true) ∧
      socket.ended.stage ≠ .running ∧ ∀ remaining, socket.ended.stage = .reporting remaining →
        socket.stage = .reporting remaining := by
    intro socket
    unfold Socket.ended
    split
    · simp [Socket.isLive]
    · next ended => exact ⟨rfl, rfl, id, ended, fun _ => id⟩
  refine sound.changeSocket generation (fun socket => (ended socket).1)
    (fun socket => (ended socket).2.1) ?_ ?_ ?_
  · exact fun _ socket _ live => (ended socket).2.2.1 live
  · exact fun socket _ running => absurd running (ended socket).2.2.2.1
  · exact fun socket remaining found reporting =>
      sound.told found ((ended socket).2.2.2.2 remaining reporting)

/-- The link may be closed. -/
theorem close (sound : link.Sound) : link.close.Sound := by
  unfold Link.close
  split
  · next generation opened =>
    apply (sound.push generation .shutdown).withLifecycle (by simp) (by simp)
    intro other socket found running
    rw [socket?_push] at found
    split at found
    · obtain ⟨before, _, rfl⟩ := Option.map_eq_some_iff.mp found
      exact List.mem_append_right _ (List.mem_singleton.mpr rfl)
    · next different =>
      rcases sound.shutdown found running with openedOther | shutdown
      · rw [opened, Lifecycle.opened.injEq] at openedOther
        exact absurd openedOther.symm different
      · exact shutdown
  · next unopened =>
    apply sound.withLifecycle (by simp) (by simp)
    intro generation socket found running
    rcases sound.shutdown found running with opened | shutdown
    · exact absurd opened (unopened generation)
    · exact shutdown

/-- The socket that an attempt opens is found under its generation. -/
theorem socket?_attach_newest (sound : link.Sound) (number : Nat) :
    (link.attach number).socket? (link.generations + 1) =
      some { generation := link.generations + 1, attempt := number } := by
  have fresh : link.socket? (link.generations + 1) = none := by
    refine Option.eq_none_iff_forall_ne_some.mpr fun socket found => ?_
    exact absurd (sound.generation_le found) (by omega)
  rw [socket?_attach, fresh]
  simp

/-- The attempt that the link waits for may open a socket. -/
theorem attach (sound : link.Sound) {number : Nat} (own : link.lifecycle = .connecting number) :
    (link.attach number).Sound := by
  have unopened : ∀ generation, link.lifecycle ≠ .opened generation := by simp [own]
  have origin : ∀ {generation socket}, (link.attach number).socket? generation = some socket →
      link.socket? generation = some socket ∨ generation = link.generations + 1 ∧
        socket = { generation := link.generations + 1, attempt := number } := by
    intro generation socket found
    rw [socket?_attach, Option.or_eq_some_iff] at found
    rcases found with old | ⟨_, new⟩
    · exact .inl old
    · split at new
      · next same => exact .inr ⟨same, (Option.some.inj new).symm⟩
      · cases new
  have newest := sound.connecting own
  refine
    { generation_le := ?_
      opened := ?_
      shutdown := ?_
      told := ?_
      distinct := (sound.forget number).distinct
      number_le := (sound.forget number).number_le
      connecting := by simp [Link.attach]
      spent := ?_ }
  · intro generation socket found
    rcases origin found with old | ⟨rfl, _⟩
    · exact Nat.le_succ_of_le (sound.generation_le old)
    · exact Nat.le_refl _
  · intro generation opened
    have same : generation = link.generations + 1 := by simpa [Link.attach, eq_comm] using opened
    subst same
    exact ⟨rfl, _, sound.socket?_attach_newest number, rfl⟩
  · intro generation socket found running
    rcases origin found with old | ⟨rfl, _⟩
    · rcases sound.shutdown old running with opened | shutdown
      · exact absurd opened (unopened generation)
      · exact .inr shutdown
    · exact .inl rfl
  · intro generation socket remaining found reporting
    rcases origin found with old | ⟨_, rfl⟩
    · exact sound.told old reporting
    · cases reporting
  · intro generation socket found
    rcases origin found with old | ⟨_, rfl⟩
    · exact ⟨(sound.spent old).1, by simp [Link.attach]⟩
    · exact ⟨Nat.le_of_eq newest, by simp [Link.attach]⟩

/-- A socket that has ended leaves the lifecycle. -/
theorem announce (sound : link.Sound) (generation : Nat) {handlers : List Handler}
    (once : Handler.fileService ∉ handlers.tail) :
    (link.announce generation handlers).Sound := by
  have reported : ∀ {other socket}, (link.announce generation handlers).socket? other =
      some socket → ∃ before, link.socket? other = some before ∧
        socket.attempt = before.attempt ∧
        (other = generation ∧ socket.stage = .reporting handlers ∨
          other ≠ generation ∧ socket = before) := by
    intro other socket found
    rw [socket?_announce] at found
    split at found
    · next same =>
      obtain ⟨before, foundBefore, rfl⟩ := Option.map_eq_some_iff.mp found
      exact ⟨before, foundBefore, rfl, .inl ⟨same, rfl⟩⟩
    · next different => exact ⟨socket, found, rfl, .inr ⟨different, rfl⟩⟩
  have lifecycle : (link.announce generation handlers).lifecycle = link.lifecycle ∧
      link.lifecycle ≠ .opened generation ∨
        (link.announce generation handlers).lifecycle = .idle ∧
          link.lifecycle = .opened generation := by
    by_cases own : link.lifecycle = .opened generation
    · exact .inr ⟨if_pos own, own⟩
    · exact .inl ⟨if_neg own, own⟩
  refine { sound with
    generation_le := ?_, opened := ?_, shutdown := ?_, told := ?_, connecting := ?_, spent := ?_ }
  · intro other socket found
    obtain ⟨before, foundBefore, _⟩ := reported found
    exact sound.generation_le foundBefore
  · intro other opened
    rcases lifecycle with ⟨same, notOwn⟩ | ⟨idle, _⟩
    · obtain ⟨newest, socket, found, alive⟩ := sound.opened (same.symm.trans opened)
      have different : other ≠ generation := by
        rintro rfl
        exact notOwn (same.symm.trans opened)
      refine ⟨newest, socket, ?_, alive⟩
      rw [socket?_announce, if_neg different, found]
    · rw [idle] at opened
      cases opened
  · intro other socket found running
    obtain ⟨before, foundBefore, _, ⟨_, reporting⟩ | ⟨different, rfl⟩⟩ := reported found
    · rw [reporting] at running
      cases running
    · rcases sound.shutdown foundBefore running with opened | shutdown
      · rcases lifecycle with ⟨same, _⟩ | ⟨_, own⟩
        · exact .inl (same.trans opened)
        · rw [own, Lifecycle.opened.injEq] at opened
          exact absurd opened.symm different
      · exact .inr shutdown
  · intro other socket remaining found reporting
    obtain ⟨before, foundBefore, _, ⟨_, reports⟩ | ⟨_, rfl⟩⟩ := reported found
    · rw [reports, Socket.Stage.reporting.injEq] at reporting
      exact reporting ▸ once
    · exact sound.told foundBefore reporting
  · intro number connecting
    rcases lifecycle with ⟨same, _⟩ | ⟨idle, _⟩
    · exact sound.connecting (same.symm.trans connecting)
    · rw [idle] at connecting
      cases connecting
  · intro other socket found
    obtain ⟨before, foundBefore, sameAttempt, _⟩ := reported found
    have spent := sound.spent foundBefore
    rw [sameAttempt]
    refine ⟨spent.1, ?_⟩
    rcases lifecycle with ⟨same, _⟩ | ⟨idle, _⟩
    · rw [same]
      exact spent.2
    · rw [idle]
      simp

/-- A socket may be retired when it is not the open one. -/
theorem retire (sound : link.Sound) {generation : Nat}
    (other : link.lifecycle ≠ .opened generation) : (link.retire generation).Sound := by
  have left : ∀ {other socket}, (link.retire generation).socket? other = some socket →
      link.socket? other = some socket := by
    intro other socket found
    rw [socket?_retire] at found
    split at found
    · cases found
    · exact found
  refine { sound with
    generation_le := fun found => sound.generation_le (left found)
    opened := ?_
    shutdown := fun found => sound.shutdown (left found)
    told := fun found => sound.told (left found)
    spent := fun found => sound.spent (left found) }
  intro current opened
  obtain ⟨newest, socket, found, alive⟩ := sound.opened opened
  have different : current ≠ generation := by
    rintro rfl
    exact other opened
  refine ⟨newest, socket, ?_, alive⟩
  rw [socket?_retire, if_neg different, found]

/-- A socket that has told one handler of its end goes on with the others. -/
theorem toldAllBut (sound : link.Sound) {generation : Nat} {socket : Socket} {handler : Handler}
    {later : List Handler} (found : link.socket? generation = some socket)
    (reporting : socket.stage = .reporting (handler :: later)) :
    (link.toldAllBut generation later).Sound := by
  have notLive : socket.isLive = false := by rw [Socket.isLive, reporting]
  have other : link.lifecycle ≠ .opened generation := by
    intro opened
    obtain ⟨_, current, foundCurrent, alive⟩ := sound.opened opened
    rw [found] at foundCurrent
    cases foundCurrent
    rw [notLive] at alive
    cases alive
  have once := sound.told found reporting
  cases later with
  | nil => exact sound.retire other
  | cons next later =>
    refine sound.changeSocket generation (fun _ => rfl) (fun _ => rfl) ?_ ?_ ?_
    · exact fun opened => absurd opened other
    · intro _ _ running
      cases running
    · rintro _ remaining _ ⟨⟩
      intro member
      exact once (List.mem_cons_of_mem _ member)

end Sound

end Link

end RemoteAgent
