import RemoteAgent.Proofs.Client.History

/-!
# Frames on a socket

The frames that were accepted for a socket and those that were written to it can be read off the
trace. Frames leave a socket in the order in which they were accepted for it, and none is
left out before one that is written (`Reachable.inOrder`).
-/

namespace RemoteAgent

/-- The frame that the event tells was accepted for the socket of a generation. -/
def Event.accepted? (generation : Nat) : Event → Option Bytes
  | .accepted other frame => if other = generation then some frame else none
  | _ => none

/-- The frame that the event tells was written to the socket of a generation. -/
def Event.transmitted? (generation : Nat) : Event → Option Bytes
  | .transmitted other frame => if other = generation then some frame else none
  | _ => none

/-- The frames accepted for the socket of a generation, the first one first. -/
def acceptedOn (generation : Nat) (trace : List Event) : List Bytes :=
  trace.reverse.filterMap (Event.accepted? generation)

/-- The frames written to the socket of a generation, the first one first. -/
def transmittedOn (generation : Nat) (trace : List Event) : List Bytes :=
  trace.reverse.filterMap (Event.transmitted? generation)

/-- The frame that a command has written. -/
def Command.frame? : Command → Option Bytes
  | .frame octets => some octets
  | .shutdown => none

/-- The frames in the queue of a socket. -/
def Socket.frames (socket : Socket) : List Bytes := socket.queue.filterMap Command.frame?

theorem acceptedOn_append (generation : Nat) (events trace : List Event) :
    acceptedOn generation (events ++ trace) =
      acceptedOn generation trace ++ acceptedOn generation events := by
  simp [acceptedOn]

theorem transmittedOn_append (generation : Nat) (events trace : List Event) :
    transmittedOn generation (events ++ trace) =
      transmittedOn generation trace ++ transmittedOn generation events := by
  simp [transmittedOn]

/-- What a socket gains in accepted frames, it gains in written and in queued ones. -/
theorem Socket.Follows.frames {former latter : Lifecycle} {generation : Nat}
    {before after : Socket} {traffic : List Event}
    (follows : before.Follows former latter generation traffic after) :
    before.frames ++ acceptedOn generation traffic =
      transmittedOn generation traffic ++ after.frames := by
  cases follows with
  | writes running queued =>
    simp [Socket.frames, queued, acceptedOn, transmittedOn, Event.accepted?, Event.transmitted?,
      Command.frame?]
  | _ =>
    simp [Socket.frames, Socket.push, acceptedOn, transmittedOn, Event.accepted?,
      Event.transmitted?, Command.frame?]

namespace Client

/-- Frames are written in the order in which they were accepted, and those that are not yet written
wait in the queue of their socket as long as that is there. -/
structure InOrder (client : Client) : Prop where
  queued : ∀ {generation socket}, client.link.socket? generation = some socket →
    acceptedOn generation client.trace =
      transmittedOn generation client.trace ++ socket.frames
  written : ∀ generation,
    transmittedOn generation client.trace <+: acceptedOn generation client.trace

variable {client after : Client} {action : Action}

/-- Accepted frames are traffic. -/
theorem acceptedOn_traffic (client : Client) (generation : Nat) :
    acceptedOn generation (client.traffic generation) = acceptedOn generation client.trace := by
  simp only [acceptedOn, traffic, ← List.filter_reverse, List.filterMap_filter]
  congr 1
  funext event
  cases event <;> simp [Event.isTraffic, Event.accepted?]

/-- Written frames are traffic. -/
theorem transmittedOn_traffic (client : Client) (generation : Nat) :
    transmittedOn generation (client.traffic generation) =
      transmittedOn generation client.trace := by
  simp only [transmittedOn, traffic, ← List.filter_reverse, List.filterMap_filter]
  congr 1
  funext event
  cases event <;> simp [Event.isTraffic, Event.transmitted?]

/-- A socket on which there is traffic is there afterwards. -/
theorem traffic_of_changeSocket (changed : Nat) (change : Socket → Socket) (events : List Event)
    {before : Socket} (foundBefore : client.link.socket? changed = some before)
    (keeps : ∀ socket, (change socket).generation = socket.generation)
    (link : after.link = client.link.changeSocket changed change)
    (extended : after.trace = events ++ client.trace)
    (quiet : ∀ event ∈ events, ∀ generation, generation ≠ changed →
      event.isTraffic generation = false)
    {generation : Nat} (gone : after.link.socket? generation = none) :
    after.traffic generation = client.traffic generation := by
  refine traffic_of_append events extended fun event member => quiet event member generation ?_
  rintro rfl
  rw [link, Link.socket?_changeSocket _ _ _ keeps, if_pos rfl, foundBefore] at gone
  cases gone

/-- There is no traffic on a socket that is not there afterwards. -/
theorem Move.traffic_of_gone (moves : Move action client after) (sound : client.Sound)
    {generation : Nat} (gone : after.link.socket? generation = none) :
    after.traffic generation = client.traffic generation := by
  cases moves with
  | remarks remarks =>
    obtain ⟨told, quiet, extended⟩ := remarks.trace
    exact traffic_of_append told extended fun event member =>
      isTraffic_of_isRemark (quiet event member) generation
  | registers => rfl
  | waits => rfl
  | request moves =>
    cases moves with
    | issues => exact traffic_of_append [.issued _ _] rfl (by simp [Event.isTraffic])
    | @sends request opened runs found turn open_ =>
      obtain ⟨_, socket, foundOpened, _⟩ := sound.link.opened open_
      exact traffic_of_changeSocket opened (·.push (.frame request.frame))
        [.sent request.number opened, .accepted opened request.frame] foundOpened (fun _ => rfl) rfl
        rfl (quiet_of_sends _ _ _) gone
    | ends => exact traffic_of_append [.answered _ _] rfl (by simp [Event.isTraffic])
    | rests => rfl
    | drops => rfl
    | delivers => rfl
  | link moves =>
    cases moves with
    | finds => exact traffic_of_append [.connected _ _] rfl (by simp [Event.isTraffic])
    | joins => exact traffic_of_append [.joined _ _] rfl (by simp [Event.isTraffic])
    | dials => exact traffic_of_append [.dialed _, .joined _ _] rfl (by simp [Event.isTraffic])
    | @opens attempt remarks _ _ _ quiet =>
      refine traffic_of_append _ ?_ (@quiet_of_opens attempt remarks quiet
        (client.link.generations + 1) generation)
      simp
    | fails => exact traffic_of_append _ rfl (quiet_of_fails _ _ generation)
    | @accepts opened frame sending open_ =>
      obtain ⟨_, socket, foundOpened, _⟩ := sound.link.opened open_
      refine traffic_of_changeSocket opened (·.push (.frame frame)) [.accepted opened frame]
        foundOpened (fun _ => rfl) rfl rfl ?_ gone
      intro event member other different
      rw [List.mem_singleton.mp member]
      simpa [Event.isTraffic] using different.symm
    | @writes writer _ frame rest _ foundWriter =>
      refine traffic_of_changeSocket writer (fun socket => { socket with queue := rest })
        [.transmitted writer frame] foundWriter (fun _ => rfl) rfl rfl ?_ gone
      intro event member other different
      rw [List.mem_singleton.mp member]
      simpa [Event.isTraffic] using different.symm
    | tells => exact traffic_of_append [.told _ _] rfl (by simp [Event.isTraffic])
    | _ => rfl
  | loses => exact traffic_of_append [.told _ _] rfl (by simp [Event.isTraffic])
  | releases => rfl

/-- On a socket that was not there before, there was no traffic. -/
theorem History.traffic_eq_nil (history : client.History) {generation : Nat}
    (new : client.link.generations < generation) : client.traffic generation = [] := by
  refine List.filter_eq_nil_iff.mpr fun event member isTraffic => ?_
  have past := history.traffic member isTraffic
  omega

theorem Move.inOrder (moves : Move action client after) (sound : client.Sound)
    (history : client.History) (inOrder : client.InOrder) : after.InOrder := by
  have queued : ∀ {generation socket}, after.link.socket? generation = some socket →
      acceptedOn generation after.trace =
        transmittedOn generation after.trace ++ socket.frames := by
    intro generation socket found
    rcases moves.follows sound found with ⟨before, traffic, foundBefore, follows, grown⟩ |
      ⟨newest, _, _, empty, _, same⟩
    · have old := inOrder.queued foundBefore
      rw [← acceptedOn_traffic, ← transmittedOn_traffic] at old ⊢
      rw [grown, acceptedOn_append, transmittedOn_append, old, List.append_assoc, follows.frames,
        List.append_assoc]
    · rw [← acceptedOn_traffic, ← transmittedOn_traffic, same,
        history.traffic_eq_nil (by omega), Socket.frames, empty]
      rfl
  refine ⟨queued, ?_⟩
  intro generation
  cases found : after.link.socket? generation with
  | some socket =>
    rw [queued found]
    exact List.prefix_append _ _
  | none =>
    have same := moves.traffic_of_gone sound found
    have before := inOrder.written generation
    rw [← acceptedOn_traffic, ← transmittedOn_traffic] at before ⊢
    rw [same]
    exact before

/-- The frames written to a socket are the first of those accepted for it, in their order. -/
theorem Reachable.inOrder {config : Config} (reachable : Reachable config client) :
    client.InOrder := by
  refine reachable.byHistory ?_ fun _ _ _ sound history moves inOrder =>
    moves.inOrder sound history inOrder
  exact ⟨by simp [Client.initial, Link.socket?], by simp [Client.initial, transmittedOn]⟩

end Client

end RemoteAgent
