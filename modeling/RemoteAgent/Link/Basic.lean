import RemoteAgent.Link.Attempt
import RemoteAgent.Link.Lifecycle
import RemoteAgent.Link.Socket

/-!
# The link to the agent

A link opens one socket at a time. Several attempts and several sockets may still be
around, since an attempt that its owner has abandoned ends in its own time, and so does a
socket that has been replaced. Attempts and sockets are numbered from one and never take
a number twice; only the attempt and the socket that the lifecycle names count.
`accept_eq_some_iff` says when a frame is accepted, and `fail_lifecycle_of_ne` and
`announce_lifecycle_of_ne` that what is not the link's own leaves its lifecycle alone.
-/

namespace RemoteAgent

/-- A link with everything that has not ended. -/
structure Link where
  lifecycle : Lifecycle := .idle
  /-- Attempts that have not ended, oldest first. -/
  attempts : List Attempt := []
  /-- The number of attempts so far. -/
  dials : Nat := 0
  /-- Sockets that have not told everybody of their end, oldest first. -/
  sockets : List Socket := []
  /-- The number of sockets so far. -/
  generations : Nat := 0
  deriving DecidableEq, Repr

/-- What becomes of a caller that wants the link to be open. -/
inductive Joining where
  /-- It is open. -/
  | alreadyOpen
  /-- The caller waits for an attempt that had started before. -/
  | joined (attempt : Nat)
  /-- The caller waits for an attempt that it has started. -/
  | dialed (attempt : Nat)
  deriving DecidableEq, Repr

namespace Link

/-! ## Attempts -/

/-- The attempt of a number. -/
def attempt? (link : Link) (number : Nat) : Option Attempt :=
  link.attempts.find? (·.number == number)

/-- Changes the attempt of a number. -/
def changeAttempt (link : Link) (number : Nat) (change : Attempt → Attempt) : Link :=
  { link with attempts := link.attempts.map fun attempt =>
      if attempt.number = number then change attempt else attempt }

/-- A caller starts an attempt that ends by the deadline. -/
def dial (link : Link) (caller deadline : Nat) : Link :=
  let number := link.dials + 1
  { link with
    lifecycle := .connecting number
    attempts := link.attempts ++ [{ number, deadline, callers := [caller] }]
    dials := number }

/-- A caller wants the link to be open; an attempt that starts now ends by the deadline. -/
def join (link : Link) (caller deadline : Nat) : Link × Joining :=
  match link.lifecycle with
  | .opened _ => (link, .alreadyOpen)
  | .connecting number => (link.changeAttempt number (·.join caller), .joined number)
  | .idle | .closed => (link.dial caller deadline, .dialed (link.dials + 1))

/-- A caller gives up waiting. -/
def leave (link : Link) (caller : Nat) : Link :=
  { link with attempts := link.attempts.map (·.leave caller) }

/-- The handshake of an attempt ends. -/
def settle (link : Link) (number : Nat) (handshake : Handshake) : Link :=
  link.changeAttempt number (·.settle handshake)

/-- An attempt that is neither waited for nor the link's own is as good as gone. -/
def isForsaken (link : Link) (attempt : Attempt) : Bool :=
  attempt.callers.isEmpty && decide (link.lifecycle ≠ .connecting attempt.number)

/-- The numbers of the attempts that are as good as gone. -/
def forsaken (link : Link) : List Nat :=
  (link.attempts.filter link.isForsaken).map (·.number)

/-- Forgets the attempts that are as good as gone. -/
def sweep (link : Link) : Link :=
  { link with attempts := link.attempts.filter fun attempt => !link.isForsaken attempt }

/-- Forgets an attempt. -/
def forget (link : Link) (number : Nat) : Link :=
  { link with attempts := link.attempts.filter (·.number != number) }

/-- An attempt fails. -/
def fail (link : Link) (number : Nat) : Link :=
  { link.forget number with lifecycle := link.lifecycle.afterFailure number }

/-- The link's own attempt opens its socket. -/
def attach (link : Link) (number : Nat) : Link :=
  let generation := link.generations + 1
  { link.forget number with
    lifecycle := .opened generation
    sockets := link.sockets ++ [{ generation, attempt := number }]
    generations := generation }

/-! ## Sockets -/

/-- The socket of a generation. -/
def socket? (link : Link) (generation : Nat) : Option Socket :=
  link.sockets.find? (·.generation == generation)

/-- Changes the socket of a generation. -/
def changeSocket (link : Link) (generation : Nat) (change : Socket → Socket) : Link :=
  { link with sockets := link.sockets.map fun socket =>
      if socket.generation = generation then change socket else socket }

/-- Accepts a frame for the open socket, and tells its generation. Without an open socket
the frame is not kept. -/
def accept (link : Link) (frame : Bytes) : Option (Link × Nat) :=
  match link.lifecycle with
  | .opened generation => some (link.changeSocket generation (·.push (.frame frame)), generation)
  | _ => none

/-- The owner closes the link. An open socket closes once its queue is written. -/
def close (link : Link) : Link :=
  match link.lifecycle with
  | .opened generation =>
    { link.changeSocket generation (·.push .shutdown) with lifecycle := .closed }
  | _ => { link with lifecycle := .closed }

/-- Takes what is next from the queue of a running socket. -/
def dequeue (link : Link) (generation : Nat) : Option (Link × Command) :=
  match link.socket? generation with
  | some { stage := .running, queue := command :: rest, .. } =>
    some (link.changeSocket generation fun socket => { socket with queue := rest }, command)
  | _ => none

/-- A socket ends. -/
def sever (link : Link) (generation : Nat) : Link := link.changeSocket generation Socket.ended

/-- A socket that has ended leaves the lifecycle, and is to tell the handlers. -/
def announce (link : Link) (generation : Nat) (handlers : List Handler) : Link :=
  { link.changeSocket generation fun socket => { socket with stage := .reporting handlers } with
    lifecycle := link.lifecycle.afterSocket generation }

/-- Forgets a socket. -/
def retire (link : Link) (generation : Nat) : Link :=
  { link with sockets := link.sockets.filter (·.generation != generation) }

/-- The socket has these handlers left to tell; with none of them it is forgotten. -/
def toldAllBut (link : Link) (generation : Nat) : List Handler → Link
  | [] => link.retire generation
  | remaining =>
    link.changeSocket generation fun socket => { socket with stage := .reporting remaining }

/-! ## What the changes do to the lifecycle -/

/-- A frame is accepted exactly while a socket is open, and for that socket. -/
theorem accept_eq_some_iff {link after : Link} {frame : Bytes} {generation : Nat} :
    link.accept frame = some (after, generation) ↔
      link.lifecycle = .opened generation ∧
        after = link.changeSocket generation (·.push (.frame frame)) := by
  unfold accept
  split
  · next current same =>
    rw [same]
    simp only [Option.some.injEq, Prod.mk.injEq, Lifecycle.opened.injEq]
    constructor
    · rintro ⟨rfl, rfl⟩
      exact ⟨rfl, rfl⟩
    · rintro ⟨rfl, rfl⟩
      exact ⟨rfl, rfl⟩
  · next other =>
    constructor
    · intro impossible
      cases impossible
    · rintro ⟨same, _⟩
      exact absurd same (other generation)

/-- What is taken from a queue is at its front, and the socket runs. -/
theorem dequeue_eq_some {link after : Link} {generation : Nat} {command : Command}
    (taken : link.dequeue generation = some (after, command)) :
    ∃ socket rest, link.socket? generation = some socket ∧ socket.stage = .running ∧
      socket.queue = command :: rest ∧
      after = link.changeSocket generation fun socket => { socket with queue := rest } := by
  unfold dequeue at taken
  split at taken
  · next found =>
    cases taken
    exact ⟨_, _, found, rfl, rfl, rfl⟩
  · cases taken

@[simp] theorem changeAttempt_lifecycle (link : Link) (number : Nat) (change : Attempt → Attempt) :
    (link.changeAttempt number change).lifecycle = link.lifecycle := rfl

@[simp] theorem changeSocket_lifecycle (link : Link) (generation : Nat) (change : Socket → Socket) :
    (link.changeSocket generation change).lifecycle = link.lifecycle := rfl

@[simp] theorem sweep_lifecycle (link : Link) : link.sweep.lifecycle = link.lifecycle := rfl

@[simp] theorem forget_lifecycle (link : Link) (number : Nat) :
    (link.forget number).lifecycle = link.lifecycle := rfl

@[simp] theorem close_lifecycle (link : Link) : link.close.lifecycle = .closed := by
  unfold close
  split <;> rfl

/-- An attempt that the link does not name leaves the lifecycle as it is when it fails. -/
theorem fail_lifecycle_of_ne {link : Link} {number : Nat}
    (other : link.lifecycle ≠ .connecting number) :
    (link.fail number).lifecycle = link.lifecycle := if_neg other

/-- A socket that the link does not name leaves the lifecycle as it is when it is gone. -/
theorem announce_lifecycle_of_ne {link : Link} {generation : Nat} (handlers : List Handler)
    (other : link.lifecycle ≠ .opened generation) :
    (link.announce generation handlers).lifecycle = link.lifecycle := if_neg other

end Link

end RemoteAgent
