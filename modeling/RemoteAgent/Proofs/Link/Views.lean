import RemoteAgent.Link.Basic

/-!
# Views of a link

What is true of the sockets of a link is said through the socket of a generation, and what is
true of its attempts through their list. This module says what each change to the link does to
the socket of a generation.
-/

namespace RemoteAgent

/-- What has a number of its own in a list is what is found under it. -/
theorem find?_of_nodup {α : Type} {number : α → Nat} {list : List α}
    (distinct : (list.map number).Nodup) {wanted : α} (member : wanted ∈ list) :
    list.find? (number · == number wanted) = some wanted := by
  induction list with
  | nil => cases member
  | cons first later inductionHypothesis =>
    rw [List.map_cons, List.nodup_cons] at distinct
    rcases List.mem_cons.mp member with rfl | memberToo
    · simp
    · have different : number first ≠ number wanted := by
        intro same
        exact distinct.1 (same ▸ List.mem_map_of_mem memberToo)
      have named : (number first == number wanted) = false := by simpa using different
      simpa only [List.find?_cons, named] using inductionHypothesis distinct.2 memberToo

/-- The file service is still to be told of the end of the socket. -/
def Socket.owes (socket : Socket) : Bool :=
  match socket.stage with
  | .running | .broken => true
  | .reporting remaining => remaining.head? == some .fileService

/-- A socket that has ended is still of its generation. -/
theorem Socket.generation_ended (socket : Socket) :
    socket.ended.generation = socket.generation := by
  unfold Socket.ended
  split <;> rfl

namespace Attempt

variable (attempt : Attempt) (handshake : Handshake)

/-- With its handshake, an attempt keeps its number. -/
@[simp] theorem number_settle : (attempt.settle handshake).number = attempt.number := by
  unfold settle
  split <;> rfl

/-- With its handshake, an attempt keeps its deadline. -/
@[simp] theorem deadline_settle : (attempt.settle handshake).deadline = attempt.deadline := by
  unfold settle
  split <;> rfl

/-- With its handshake, an attempt keeps its callers. -/
@[simp] theorem callers_settle : (attempt.settle handshake).callers = attempt.callers := by
  unfold settle
  split <;> rfl

/-- An attempt whose handshake has ended knows how. -/
@[simp] theorem isSome_handshake_settle :
    (attempt.settle handshake).handshake.isSome = true := by
  unfold settle
  split
  · rfl
  · next ended => rw [ended]; rfl

end Attempt

namespace Link

/-- The socket of a generation owes the file service the report of its end. -/
def Owes (link : Link) (generation : Nat) : Prop :=
  ∃ socket, link.socket? generation = some socket ∧ socket.owes = true

variable (link : Link)

/-- An attempt is there after a change to the one of a number if it is that one, changed, or another
one. -/
theorem mem_changeAttempt {link : Link} {number : Nat} {change : Attempt → Attempt}
    {attempt : Attempt} :
    attempt ∈ (link.changeAttempt number change).attempts ↔ ∃ before ∈ link.attempts,
      before.number = number ∧ attempt = change before ∨
        before.number ≠ number ∧ attempt = before := by
  simp only [changeAttempt, List.mem_map]
  constructor
  · rintro ⟨before, member, rfl⟩
    refine ⟨before, member, ?_⟩
    by_cases same : before.number = number
    · exact .inl ⟨same, if_pos same⟩
    · exact .inr ⟨same, if_neg same⟩
  · rintro ⟨before, member, ⟨same, rfl⟩ | ⟨different, rfl⟩⟩
    · exact ⟨before, member, if_pos same⟩
    · exact ⟨attempt, member, if_neg different⟩

/-- To close the link leaves its attempts. -/
@[simp] theorem attempts_close : link.close.attempts = link.attempts := by
  unfold close
  split <;> rfl

/-- What a socket tells handlers leaves the attempts. -/
@[simp] theorem attempts_toldAllBut (generation : Nat) (remaining : List Handler) :
    (link.toldAllBut generation remaining).attempts = link.attempts := by
  cases remaining <;> rfl

/-- A change to the socket of one generation changes no other socket. -/
theorem socket?_changeSocket (generation other : Nat) {change : Socket → Socket}
    (keeps : ∀ socket, (change socket).generation = socket.generation) :
    (link.changeSocket generation change).socket? other =
      if other = generation then (link.socket? other).map change else link.socket? other := by
  have unnumbered : ((fun socket : Socket => socket.generation == other) ∘ fun socket : Socket =>
      if socket.generation = generation then change socket else socket) =
        fun socket => socket.generation == other := by
    funext socket
    simp only [Function.comp_apply]
    split
    · rw [keeps]
    · rfl
  simp only [socket?, changeSocket, List.find?_map, unnumbered]
  cases found : link.sockets.find? fun socket => socket.generation == other with
  | none => simp
  | some socket =>
    have same : socket.generation = other := by simpa using List.find?_some found
    simp only [Option.map_some, same]
    split <;> rfl

/-- A socket that is found after a change was there before it. -/
theorem found_of_changeSocket {link : Link} {generation other : Nat} {change : Socket → Socket}
    (keeps : ∀ socket, (change socket).generation = socket.generation) {socket : Socket}
    (found : (link.changeSocket generation change).socket? other = some socket) :
    ∃ before, link.socket? other = some before ∧
      (other = generation ∧ socket = change before ∨ other ≠ generation ∧ socket = before) := by
  rw [link.socket?_changeSocket generation other keeps] at found
  split at found
  · next same =>
    obtain ⟨before, foundBefore, rfl⟩ := Option.map_eq_some_iff.mp found
    exact ⟨before, foundBefore, .inl ⟨same, rfl⟩⟩
  · next different => exact ⟨socket, found, .inr ⟨different, rfl⟩⟩

/-- A debt stays when the socket that changes still has its own. -/
theorem Owes.changeSocket {link : Link} {generation other : Nat} {change : Socket → Socket}
    (owing : link.Owes other) (keeps : ∀ socket, (change socket).generation = socket.generation)
    (owes : ∀ socket, link.socket? generation = some socket → socket.owes = true →
      (change socket).owes = true) :
    (link.changeSocket generation change).Owes other := by
  obtain ⟨socket, found, socketOwes⟩ := owing
  have changed := link.socket?_changeSocket generation other keeps
  rw [found] at changed
  split at changed
  · next same =>
    subst same
    exact ⟨_, changed, owes socket found socketOwes⟩
  · exact ⟨socket, changed, socketOwes⟩

/-- A command is queued for the socket of one generation only. -/
theorem socket?_push (generation other : Nat) (command : Command) :
    (link.changeSocket generation (·.push command)).socket? other =
      if other = generation then (link.socket? other).map (·.push command)
      else link.socket? other :=
  link.socket?_changeSocket generation other fun _ => rfl

/-- With the announcement of its end, a socket begins to report. -/
theorem socket?_announce (generation other : Nat) (handlers : List Handler) :
    (link.announce generation handlers).socket? other =
      if other = generation then
        (link.socket? other).map fun socket => { socket with stage := .reporting handlers }
      else link.socket? other :=
  link.socket?_changeSocket generation other fun _ => rfl

/-- A retired socket is not found. -/
theorem socket?_retire (generation other : Nat) :
    (link.retire generation).socket? other =
      if other = generation then none else link.socket? other := by
  simp only [socket?, retire, List.find?_filter]
  split
  · next same =>
    subst same
    simp
  · next different =>
    congr 1
    funext socket
    by_cases same : socket.generation = other
    · simp [same, different]
    · simp [same]

/-- A socket reports to the handlers that remain, and is gone once there are none. -/
theorem socket?_toldAllBut (generation other : Nat) (remaining : List Handler) :
    (link.toldAllBut generation remaining).socket? other =
      if other = generation then
        if remaining = [] then none
        else (link.socket? other).map fun socket => { socket with stage := .reporting remaining }
      else link.socket? other := by
  cases remaining with
  | nil => exact link.socket?_retire generation other
  | cons handler later => exact link.socket?_changeSocket generation other fun _ => rfl

/-- A socket that is attached is found under the next generation. -/
theorem socket?_attach (number other : Nat) :
    (link.attach number).socket? other = (link.socket? other).or
      (if other = link.generations + 1 then
        some { generation := link.generations + 1, attempt := number } else none) := by
  simp only [socket?, attach, forget, List.find?_append, List.find?_cons, List.find?_nil]
  by_cases same : other = link.generations + 1
  · simp [same]
  · have named : (link.generations + 1 == other) = false := by simpa using Ne.symm same
    simp [same, named]

/-- To close the link is to queue the order behind what the open socket has to write. -/
theorem socket?_close (other : Nat) :
    link.close.socket? other =
      if link.lifecycle = .opened other then (link.socket? other).map (·.push .shutdown)
      else link.socket? other := by
  unfold close
  split
  · next generation opened =>
    refine (link.socket?_push generation other .shutdown).trans ?_
    by_cases same : other = generation
    · simp [same, opened]
    · have different : generation ≠ other := fun equal => same equal.symm
      simp [same, opened, different]
  · next unopened => exact (if_neg (unopened other)).symm

end Link

end RemoteAgent
