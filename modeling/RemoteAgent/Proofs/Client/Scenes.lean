import RemoteAgent.Proofs.Client.Engaged
import RemoteAgent.Proofs.Transfer.Conversations

/-!
# A client and an agent that serves files

A scene puts a client and an agent together that serves files at the other end of the client's
socket. Unlike in a rehearsal, anything that can happen next may: the socket writes, an answer comes
in, a request runs, or time passes. When nothing else is under way, a call goes through the
conversation of its transfer with the agent (`Stage`), in whatever order things happen, until a
request fails or the call has ended as the conversation does (`performs_of_converses`).
-/

namespace RemoteAgent

/-- A client with an agent that serves files at the other end of the socket of a generation. -/
structure Scene where
  client : Client
  generation : Nat
  /-- How the agent writes its frames. -/
  write : Inbound → Bytes
  files : Files
  /-- The octets that are under way to the client, those in front that are to come in first. -/
  arriving : List Bytes := []

/-- The event ends the call of a number, or tells of the failure of a request from a number on. -/
def Event.ends (number first : Nat) : Event → Bool
  | .finished call _ _ => call == number
  | .answered request (.error _) => decide (first ≤ request)
  | _ => false

namespace Scene

/-- What can happen next. -/
inductive Move where
  /-- The socket writes, and the agent deals with what it gets. -/
  | transmit
  /-- The next answer comes in. -/
  | receive
  /-- A request runs. -/
  | poll (request : Nat)
  /-- Time passes. -/
  | wait (time : Duration)

/-- The agent gets a frame. It serves what it can read, and answers. -/
def serve (scene : Scene) (frame : Bytes) : Scene :=
  match Outbound.decode frame with
  | .ok request =>
    let (files, answer) := scene.files.serve request
    { scene with files, arriving := scene.arriving ++ answer.toList.map scene.write }
  | .error _ => scene

/-- Something happens. -/
def move (scene : Scene) : Move → Scene
  | .transmit =>
    let written := { scene with client := scene.client.step (.transmit scene.generation) }
    match scene.client.link.dequeue scene.generation with
    | some (_, .frame frame) => written.serve frame
    | _ => written
  | .receive =>
    match scene.arriving with
    | [] => scene
    | octets :: later =>
      { scene with
        client := scene.client.step (.receive scene.generation (.binary octets))
        arriving := later }
  | .poll request => { scene with client := scene.client.step (.poll request) }
  | .wait time => { scene with client := scene.client.step (.wait time) }

/-- Several things happen. -/
def run (scene : Scene) (moves : List Move) : Scene := moves.foldl move scene

/-- The owner of the client calls for a file operation. -/
def start (scene : Scene) (operation : Operation) (limit : Option Duration) : Scene :=
  { scene with client := scene.client.step (.start operation limit) }

/-- No request of a scene has failed, from the one of a number on. -/
def NoneFails (scene : Scene) (first : Nat) : Prop :=
  ∀ request failure, first ≤ request → .answered request (.error failure) ∉ scene.client.trace

/-- What becomes of a call for an operation, in whatever order things happen, as long as none of its
requests fails. -/
structure Performs (scene : Scene) (operation : Operation) (limit : Option Duration)
    (ends : Scene → Except Failure Delivery → Prop) : Prop where
  /-- The call begins without a failure. -/
  begins : (scene.start operation limit).NoneFails scene.client.requests.issued
  /-- Wherever it has come, it can still come to its end. -/
  canEnd : ∀ moves,
    ((scene.start operation limit).run moves).NoneFails scene.client.requests.issued →
    ∃ later progress outcome,
      ((scene.start operation limit).run (moves ++ later)).NoneFails
        scene.client.requests.issued ∧
      .finished scene.client.called progress outcome ∈
        ((scene.start operation limit).run (moves ++ later)).client.trace
  /-- When it has come to its end, it has ended like this. -/
  ends : ∀ moves,
    ((scene.start operation limit).run moves).NoneFails scene.client.requests.issued →
    ∀ progress outcome, .finished scene.client.called progress outcome ∈
      ((scene.start operation limit).run moves).client.trace →
      ends ((scene.start operation limit).run moves) outcome

/-- The client is what a client can be, and nothing is under way on either side. -/
structure Ready (config : Config) (scene : Scene) : Prop where
  reachable : Client.Reachable config scene.client
  rests : scene.client.Rests scene.generation
  nothing : scene.arriving = []

/-! ## Stages of a call -/

/-- A call of a scene waits for its only request, and nothing has been told so far of its end or of a
failure of its requests. -/
structure Busy (scene : Scene) (number first : Nat) (queue : List Command) (call : Call)
    (request : Request) : Prop where
  engaged : scene.client.Engaged scene.generation queue [call] (some request)
  own : request.number = call.request
  named : call.number = number
  new : first ≤ call.request
  silent : ∀ event ∈ scene.client.trace, event.ends number first = false

/-- A call has come to a turn of its transfer. -/
inductive Settled (chunkSize : UInt64) (number first : Nat) (scene : Scene) :
    Transfer.Turn → Prop where
  /-- What the transfer wants is to be written. -/
  | asks {call : Call} {request : Request} {want : Want}
      (busy : scene.Busy number first [.frame want.frame.encode] call request)
      (waits : request.standing.isWaiting = true)
      (wanted : call.transfer.wants chunkSize = .ok want) (sameKey : request.key = want.key)
      (nothing : scene.arriving = []) : Settled chunkSize number first scene (.go call.transfer)
  /-- The call has ended. -/
  | finishes {progress : List Progress} {result : Except Failure Delivery} {earlier : List Event}
      (rests : scene.client.Rests scene.generation) (nothing : scene.arriving = [])
      (ended : scene.client.trace = .finished number progress result :: earlier)
      (silent : ∀ event ∈ earlier, event.ends number first = false) :
      Settled chunkSize number first scene (.stop result)

/-- How far a call has come on its way to a turn of its transfer. -/
inductive Stage (chunkSize : UInt64) (number first : Nat) (scene : Scene) : Transfer.Turn → Prop where
  /-- It is there. -/
  | settled {turn : Transfer.Turn} (settled : Settled chunkSize number first scene turn) :
      Stage chunkSize number first scene turn
  /-- The answer with which the transfer comes there is under way. -/
  | hears {call : Call} {request : Request} {octets : Bytes} {answer : Inbound} {reply : Reply}
      (busy : scene.Busy number first [] call request)
      (waits : request.standing.isWaiting = true) (arrives : scene.arriving = [octets])
      (legible : Inbound.decode octets = .ok answer)
      (answers : answer.reply? = some (request.key, reply)) :
      Stage chunkSize number first scene (call.transfer.resume chunkSize reply).2
  /-- The reply has come, and the request is to learn it. -/
  | learns {call : Call} {request : Request} {reply : Reply}
      (busy : scene.Busy number first [] call request)
      (came : request.standing = .answered reply) (nothing : scene.arriving = []) :
      Stage chunkSize number first scene (call.transfer.resume chunkSize reply).2

variable {config : Config} {scene : Scene} {number first : Nat} {queue : List Command}
  {call : Call} {request : Request} {turn : Transfer.Turn}

/-- A call that goes on ends, or asks for what its transfer wants. -/
theorem settled_proceed {client : Client} {calls : List Call} {left : Files}
    {result : Except Failure Delivery} (sound : client.requests.Sound)
    (engaged : client.Engaged scene.generation [] calls none)
    (named : ∀ other ∈ calls, other.number = call.number) (new : first ≤ client.requests.issued)
    (silent : ∀ event ∈ client.trace, event.ends call.number first = false)
    (nothing : scene.arriving = [])
    (converses : Transfer.Converses client.config.chunkSize scene.write scene.files turn left
      result) :
    Settled client.config.chunkSize call.number first
      { scene with client := client.proceed call turn } turn := by
  cases converses with
  | stops => exact .finishes (engaged.finish named _) nothing rfl silent
  | @exchanges _ _ _ transfer want _ _ _ wanted =>
    have proceeds : client.proceed call (.go transfer) =
        client.ask { call with transfer } want := by
      simp only [Client.proceed, wanted]
    obtain ⟨asked, told⟩ := @Client.Engaged.ask _ _ _ { call with transfer } sound engaged named
      want (Transfer.awaits_of_wants wanted)
    rw [proceeds]
    refine @Settled.asks _ _ _ _ { call with transfer, request := client.requests.issued } _ want
      ⟨asked, rfl, rfl, new, ?_⟩ rfl wanted rfl nothing
    rw [told]
    simpa [Event.ends] using silent

/-! ## What a move does to a stage -/

namespace Busy

theorem wait (busy : scene.Busy number first queue call request) (time : Duration) :
    (scene.move (.wait time)).Busy number first queue call request :=
  { busy with engaged := busy.engaged.wait time }

/-- Another number than that of the request runs to no effect. -/
theorem poll_other (busy : scene.Busy number first queue call request) {polled : Nat}
    (other : polled ≠ request.number) :
    (scene.move (.poll polled)).Busy number first queue call request := by
  obtain ⟨engaged, same⟩ := @Client.Engaged.poll_nothing _ _ _ _ _ busy.engaged polled
    (by simpa using other.symm)
  exact { busy with engaged, silent := by rw [move, same]; exact busy.silent }

/-- A request that waits for its reply runs to no effect, unless it fails. -/
theorem poll_waiting (busy : scene.Busy number first queue call request)
    (waits : request.standing.isWaiting = true) (polled : Nat)
    (none : (scene.move (.poll polled)).NoneFails first) :
    (scene.move (.poll polled)).Busy number first queue call request := by
  by_cases own : polled = request.number
  · subst own
    rcases busy.engaged.poll_waiting waits with ⟨failure, failed⟩ | ⟨engaged, same⟩
    · exact absurd failed (none _ _ (busy.own ▸ busy.new))
    · exact { busy with engaged, silent := by rw [move, same]; exact busy.silent }
  · exact busy.poll_other own

/-- The socket writes what the transfer wants, and the agent serves it. -/
theorem transmit {want : Want} (busy : scene.Busy number first [.frame want.frame.encode] call request)
    (nothing : scene.arriving = []) (reads : Outbound.decode want.frame.encode = .ok want.frame)
    {served : Files} {answer : Inbound}
    (serves : scene.files.serve want.frame = (served, some answer)) :
    (scene.move .transmit).Busy number first [] call request ∧
      scene.move .transmit = { scene with
        client := scene.client.step (.transmit scene.generation)
        files := served
        arriving := [scene.write answer] } := by
  obtain ⟨⟨link, taken⟩, engaged, told⟩ := busy.engaged.transmit
  have moved : scene.move .transmit = { scene with
      client := scene.client.step (.transmit scene.generation)
      files := served
      arriving := [scene.write answer] } := by
    simp [move, taken, serve, reads, serves, nothing]
  rw [moved]
  refine ⟨{ busy with engaged, silent := ?_ }, rfl⟩
  rw [told]
  simpa [Event.ends] using busy.silent

/-- A socket that has written everything writes nothing. -/
theorem transmit_nothing (busy : scene.Busy number first [] call request) :
    scene.move .transmit = scene := by
  obtain ⟨nothing, same⟩ := busy.engaged.transmit_nothing
  simp [move, nothing, same]

/-- The reply comes in. -/
theorem receive (sound : scene.client.Sound) (busy : scene.Busy number first queue call request)
    (waits : request.standing.isWaiting = true) {octets : Bytes} {later : List Bytes}
    (arrives : scene.arriving = octets :: later) {answer : Inbound} {reply : Reply}
    (legible : Inbound.decode octets = .ok answer)
    (answers : answer.reply? = some (request.key, reply)) :
    (scene.move .receive).Busy number first queue call
        { request with standing := .answered reply } ∧
      scene.move .receive = { scene with
        client := scene.client.step (.receive scene.generation (.binary octets))
        arriving := later } := by
  have moved : scene.move .receive = { scene with
      client := scene.client.step (.receive scene.generation (.binary octets))
      arriving := later } := by
    simp [move, arrives]
  obtain ⟨engaged, told⟩ := busy.engaged.receive sound waits legible answers
  rw [moved]
  refine ⟨{ busy with engaged, silent := ?_ }, rfl⟩
  rw [told]
  simpa [Event.ends] using busy.silent

end Busy

theorem receive_nothing (nothing : scene.arriving = []) : scene.move .receive = scene := by
  simp [move, nothing]

/-- A request that has its reply learns it, and the call goes on. -/
theorem settled_poll (reachable : Client.Reachable config scene.client)
    (busy : scene.Busy number first [] call request) {reply : Reply}
    (came : request.standing = .answered reply) (nothing : scene.arriving = []) {left : Files}
    {result : Except Failure Delivery}
    (converses : Transfer.Converses config.chunkSize scene.write scene.files
      (call.transfer.resume config.chunkSize reply).2 left result) :
    Settled config.chunkSize number first (scene.move (.poll request.number))
      (call.transfer.resume config.chunkSize reply).2 := by
  have sound := reachable.sound
  have same := reachable.config
  subst same
  obtain ⟨engaged, soundAfter, proceeds⟩ := busy.engaged.poll_answered sound busy.own came
  let resumed := call.transfer.resume scene.client.config.chunkSize reply
  let proceeding : Call := { call with progress := call.progress ++ resumed.1.toList }
  have named : ∀ other ∈ [call], other.number = proceeding.number := fun other member => by
    rw [List.mem_singleton.mp member]
  have issued : first ≤ (scene.client.ended request (.ok reply)).requests.issued := by
    have past := sound.requests.number_lt busy.engaged.found
    have new := busy.new
    have kept : (scene.client.ended request (.ok reply)).requests.issued =
        scene.client.requests.issued := Requests.release_issued _ _
    rw [busy.own] at past
    omega
  have silent : ∀ event ∈ (scene.client.ended request (.ok reply)).trace,
      event.ends proceeding.number first = false := by
    have before := busy.silent
    rw [← busy.named] at before
    simpa [Client.ended, Client.note, Event.ends, proceeding] using before
  rw [move, proceeds, ← busy.named]
  exact settled_proceed soundAfter engaged named issued silent nothing converses

/-! ## The whole conversation -/

/-- A call is on its way to the end of a conversation. -/
def Conducts (config : Config) (scene : Scene) (number first : Nat) (left : Files)
    (result : Except Failure Delivery) : Prop :=
  ∃ turn, Stage config.chunkSize number first scene turn ∧
    Transfer.Converses config.chunkSize scene.write scene.files turn left result

variable {left : Files} {result : Except Failure Delivery}

namespace Conducts

theorem transmit (conducts : scene.Conducts config number first left result) :
    (scene.move .transmit).Conducts config number first left result := by
  obtain ⟨turn, stage, converses⟩ := conducts
  cases stage with
  | settled settled =>
    cases settled with
    | asks busy waits wanted sameKey nothing =>
      -- Only here does something wait in the queue. The agent serves it as the conversation says.
      cases converses with
      | exchanges wantedToo reads serves answers legible goesOn =>
        cases wanted.symm.trans wantedToo
        obtain ⟨written, moved⟩ := busy.transmit nothing reads serves
        refine ⟨_, .hears written waits (by rw [moved]) legible (sameKey ▸ answers), ?_⟩
        rw [moved]
        exact goesOn
    | finishes rests nothing ended silent =>
      obtain ⟨empty, same⟩ := rests.transmit_nothing
      have moved : scene.move .transmit = scene := by simp [Scene.move, empty, same]
      rw [moved]
      exact ⟨_, .settled (.finishes rests nothing ended silent), converses⟩
  | hears busy waits arrives legible answers =>
    rw [busy.transmit_nothing]
    exact ⟨_, .hears busy waits arrives legible answers, converses⟩
  | learns busy came nothing =>
    rw [busy.transmit_nothing]
    exact ⟨_, .learns busy came nothing, converses⟩

theorem receive (conducts : scene.Conducts config number first left result)
    (sound : scene.client.Sound) :
    (scene.move .receive).Conducts config number first left result := by
  obtain ⟨turn, stage, converses⟩ := conducts
  cases stage with
  | settled settled =>
    have nothing : scene.arriving = [] := by cases settled <;> assumption
    rw [receive_nothing nothing]
    exact ⟨_, .settled settled, converses⟩
  | hears busy waits arrives legible answers =>
    obtain ⟨received, moved⟩ := busy.receive sound waits arrives legible answers
    refine ⟨_, .learns received rfl (by rw [moved]), ?_⟩
    rw [moved]
    exact converses
  | learns busy came nothing =>
    rw [receive_nothing nothing]
    exact ⟨_, .learns busy came nothing, converses⟩

theorem poll (conducts : scene.Conducts config number first left result)
    (reachable : Client.Reachable config scene.client) (polled : Nat)
    (none : (scene.move (.poll polled)).NoneFails first) :
    (scene.move (.poll polled)).Conducts config number first left result := by
  obtain ⟨turn, stage, converses⟩ := conducts
  cases stage with
  | settled settled =>
    refine ⟨turn, .settled ?_, converses⟩
    cases settled with
    | asks busy waits wanted sameKey nothing =>
      exact .asks (busy.poll_waiting waits polled none) waits wanted sameKey nothing
    | finishes rests nothing ended silent =>
      obtain ⟨restsToo, same⟩ :=
        @Client.Engaged.poll_nothing _ _ _ _ _ rests polled (by simp)
      exact .finishes restsToo nothing (same.trans ended) silent
  | hears busy waits arrives legible answers =>
    exact ⟨_, .hears (busy.poll_waiting waits polled none) waits arrives legible answers,
      converses⟩
  | @learns call request reply busy came nothing =>
    by_cases own : polled = request.number
    · subst own
      exact ⟨_, .settled (settled_poll reachable busy came nothing converses), converses⟩
    · exact ⟨_, .learns (busy.poll_other own) came nothing, converses⟩

theorem wait (conducts : scene.Conducts config number first left result) (time : Duration) :
    (scene.move (.wait time)).Conducts config number first left result := by
  obtain ⟨turn, stage, converses⟩ := conducts
  cases stage with
  | settled settled =>
    refine ⟨turn, .settled ?_, converses⟩
    cases settled with
    | asks busy waits wanted sameKey nothing =>
      exact .asks (busy.wait time) waits wanted sameKey nothing
    | finishes rests nothing ended silent => exact .finishes (rests.wait time) nothing ended silent
  | hears busy waits arrives legible answers =>
    exact ⟨_, .hears (busy.wait time) waits arrives legible answers, converses⟩
  | learns busy came nothing =>
    exact ⟨_, .learns (busy.wait time) came nothing, converses⟩

/-- Whatever happens next, the call stays on its way, unless a request fails. -/
theorem move (conducts : scene.Conducts config number first left result)
    (reachable : Client.Reachable config scene.client) (next : Move)
    (none : (scene.move next).NoneFails first) :
    (scene.move next).Conducts config number first left result := by
  cases next with
  | transmit => exact conducts.transmit
  | receive => exact conducts.receive reachable.sound
  | poll polled => exact conducts.poll reachable polled none
  | wait time => exact conducts.wait time

end Conducts

/-! ## Runs of a scene -/

/-- What happens to the client of a scene is done by its actions. -/
theorem move_client (scene : Scene) (next : Move) :
    ∃ actions, (scene.move next).client = scene.client.run actions := by
  cases next with
  | transmit =>
    refine ⟨[.transmit scene.generation], ?_⟩
    simp only [move]
    split
    · unfold serve
      split <;> rfl
    · rfl
  | receive =>
    simp only [move]
    split
    · exact ⟨[], rfl⟩
    · next octets _ _ => exact ⟨[.receive scene.generation (.binary octets)], rfl⟩
  | poll request => exact ⟨[.poll request], rfl⟩
  | wait time => exact ⟨[.wait time], rfl⟩

/-- Both ends of the socket stay who they are. -/
theorem move_ends (scene : Scene) (next : Move) :
    (scene.move next).generation = scene.generation ∧ (scene.move next).write = scene.write := by
  cases next with
  | transmit =>
    simp only [move]
    split
    · unfold serve
      split <;> exact ⟨rfl, rfl⟩
    · exact ⟨rfl, rfl⟩
  | receive =>
    simp only [move]
    split <;> exact ⟨rfl, rfl⟩
  | poll request => exact ⟨rfl, rfl⟩
  | wait time => exact ⟨rfl, rfl⟩

/-- The client of a scene goes through a run. -/
theorem run_client (scene : Scene) (moves : List Move) :
    ∃ actions, (scene.run moves).client = scene.client.run actions := by
  induction moves generalizing scene with
  | nil => exact ⟨[], rfl⟩
  | cons next later inductionHypothesis =>
    obtain ⟨first, moved⟩ := scene.move_client next
    obtain ⟨rest, ran⟩ := inductionHypothesis (scene.move next)
    exact ⟨first ++ rest, by rw [Client.run_append, ← moved]; exact ran⟩

/-- The socket, and how the agent writes its frames, stay the same in a scene. -/
theorem run_ends (scene : Scene) (moves : List Move) :
    (scene.run moves).generation = scene.generation ∧ (scene.run moves).write = scene.write := by
  induction moves generalizing scene with
  | nil => exact ⟨rfl, rfl⟩
  | cons next later inductionHypothesis =>
    obtain ⟨sameGeneration, sameWrite⟩ := scene.move_ends next
    obtain ⟨generation, write⟩ := inductionHypothesis (scene.move next)
    exact ⟨generation.trans sameGeneration, write.trans sameWrite⟩

theorem reachable_move (reachable : Client.Reachable config scene.client) (next : Move) :
    Client.Reachable config (scene.move next).client := by
  obtain ⟨actions, moved⟩ := scene.move_client next
  exact moved ▸ reachable.run actions

/-- The client of a scene is one of a run. -/
theorem reachable_run (reachable : Client.Reachable config scene.client) (moves : List Move) :
    Client.Reachable config (scene.run moves).client := by
  obtain ⟨actions, ran⟩ := scene.run_client moves
  exact ran ▸ reachable.run actions

/-- What has not failed in the end has not failed before. -/
theorem NoneFails.before (sound : scene.client.Sound) {moves : List Move}
    (none : (scene.run moves).NoneFails first) : scene.NoneFails first := by
  intro request failure new failed
  obtain ⟨actions, ran⟩ := scene.run_client moves
  exact none request failure new (ran ▸ Client.run_remembers sound actions failed)

/-- Whatever happens, a call stays on its way, unless a request fails. -/
theorem Conducts.run (conducts : scene.Conducts config number first left result)
    (reachable : Client.Reachable config scene.client) (moves : List Move)
    (none : (scene.run moves).NoneFails first) :
    (scene.run moves).Conducts config number first left result := by
  induction moves generalizing scene with
  | nil => exact conducts
  | cons next later inductionHypothesis =>
    have moved := reachable_move reachable next
    exact inductionHypothesis (conducts.move reachable next (none.before moved.sound)) moved none

/-! ## The end of a conversation -/

/-- A call that is on its way to a turn can come there. -/
theorem Stage.settles (stage : Stage config.chunkSize number first scene turn)
    (reachable : Client.Reachable config scene.client)
    (converses : Transfer.Converses config.chunkSize scene.write scene.files turn left result) :
    ∃ moves, Settled config.chunkSize number first (scene.run moves) turn ∧
      (scene.run moves).files = scene.files := by
  cases stage with
  | settled settled => exact ⟨[], settled, rfl⟩
  | @hears call request octets answer reply busy waits arrives legible answers =>
    obtain ⟨received, moved⟩ := busy.receive reachable.sound waits arrives legible answers
    have next : Transfer.Converses config.chunkSize (scene.move .receive).write
        (scene.move .receive).files (call.transfer.resume config.chunkSize reply).2 left result := by
      rw [moved]
      exact converses
    have settled := settled_poll (reachable_move reachable .receive) received rfl (by rw [moved])
      next
    have same : ((scene.move .receive).move (.poll request.number)).files = scene.files := by
      rw [moved]
      rfl
    exact ⟨[.receive, .poll request.number], settled, same⟩
  | @learns call request reply busy came nothing =>
    exact ⟨[.poll request.number], settled_poll reachable busy came nothing converses, rfl⟩

/-- A call on its way can come to the end of its conversation. -/
theorem settled_of_converses {write : Inbound → Bytes} {files : Files}
    (converses : Transfer.Converses config.chunkSize write files turn left result)
    (sameWrite : scene.write = write) (sameFiles : scene.files = files)
    (reachable : Client.Reachable config scene.client)
    (stage : Stage config.chunkSize number first scene turn) :
    ∃ moves, Settled config.chunkSize number first (scene.run moves) (.stop result) := by
  -- The induction is on the rest of the conversation: each exchange takes a move of either side and
  -- the two that bring the call to its next turn.
  induction converses generalizing scene with
  | stops =>
    subst sameWrite sameFiles
    obtain ⟨moves, settled, _⟩ := stage.settles reachable .stops
    exact ⟨moves, settled⟩
  | exchanges wanted reads serves answers legible goesOn inductionHypothesis =>
    subst sameWrite sameFiles
    obtain ⟨moves, settled, same⟩ := stage.settles reachable
      (.exchanges wanted reads serves answers legible goesOn)
    have write := (scene.run_ends moves).2
    cases settled with
    | asks busy waits wantedToo sameKey nothing =>
      cases wanted.symm.trans wantedToo
      obtain ⟨written, moved⟩ := busy.transmit nothing reads (same ▸ serves)
      have hears : Stage config.chunkSize number first ((scene.run moves).move .transmit) _ :=
        .hears written waits (by rw [moved]) (write ▸ legible) (sameKey ▸ answers)
      obtain ⟨later, settledLater⟩ := inductionHypothesis (by rw [moved]; exact write)
        (by rw [moved]) (reachable_move (reachable_run reachable moves) .transmit) hears
      exact ⟨moves ++ .transmit :: later, by rw [run, List.foldl_append]; exact settledLater⟩

/-- As long as a call is on its way, none of its requests has failed. -/
theorem Conducts.noneFails (conducts : scene.Conducts config number first left result) :
    scene.NoneFails first := by
  have unfailed : ∀ {events : List Event} {request : Nat} {failure : Failure}, first ≤ request →
      (∀ event ∈ events, event.ends number first = false) →
      .answered request (.error failure) ∉ events := by
    intro events request failure new silent failed
    simpa [Event.ends, new] using silent _ failed
  intro request failure new failed
  obtain ⟨turn, stage, _⟩ := conducts
  cases stage with
  | settled settled =>
    cases settled with
    | asks busy => exact unfailed new busy.silent failed
    | finishes rests nothing ended silent =>
      rw [ended] at failed
      exact unfailed new silent (by simpa using failed)
  | hears busy => exact unfailed new busy.silent failed
  | learns busy => exact unfailed new busy.silent failed

/-- A call that waits for a request has not ended. -/
theorem Busy.unfinished (busy : scene.Busy number first queue call request)
    {progress : List Progress} {outcome : Except Failure Delivery} :
    .finished number progress outcome ∉ scene.client.trace := by
  intro ended
  simpa [Event.ends] using busy.silent _ ended

/-- When a call has ended, it has ended as its conversation does. -/
theorem Conducts.finished (conducts : scene.Conducts config number first left result)
    {progress : List Progress} {outcome : Except Failure Delivery}
    (ended : .finished number progress outcome ∈ scene.client.trace) :
    outcome = result ∧ scene.files = left ∧ scene.client.Rests scene.generation ∧
      scene.arriving = [] := by
  obtain ⟨turn, stage, converses⟩ := conducts
  cases stage with
  | settled settled =>
    cases settled with
    | asks busy => exact absurd ended busy.unfinished
    | finishes rests nothing endedSo silent =>
      cases converses
      refine ⟨?_, rfl, rests, nothing⟩
      rw [endedSo] at ended
      rcases List.mem_cons.mp ended with same | early
      · cases same
        rfl
      · simpa [Event.ends] using silent _ early
  | hears busy => exact absurd ended busy.unfinished
  | learns busy => exact absurd ended busy.unfinished

/-- Nothing that a client has told so far is about the next call or the next requests. -/
theorem silent_next {client : Client} (reachable : Client.Reachable config client) :
    ∀ event ∈ client.trace, event.ends client.called client.requests.issued = false := by
  intro event member
  cases event with
  | finished number progress outcome =>
    simpa [Event.ends] using Nat.ne_of_lt (reachable.finished_lt member)
  | answered request outcome =>
    cases outcome with
    | ok reply => rfl
    | error failure => simpa [Event.ends] using reachable.outcomes.answered_lt member
  | _ => rfl

/-- A call that comes in on an open link begins its conversation. -/
theorem Ready.conducts (ready : scene.Ready config) {operation : Operation}
    (converses : Transfer.Converses config.chunkSize scene.write scene.files
      (Transfer.begin operation) left result) (limit : Option Duration) :
    (scene.start operation limit).Conducts config scene.client.called scene.client.requests.issued
      left result := by
  have same := ready.reachable.config
  subst same
  let counted := { scene.client with called := scene.client.called + 1 }.note
    (.started scene.client.called operation)
  have engaged : counted.Engaged scene.generation [] [] none := { ready.rests with }
  have silent : ∀ event ∈ counted.trace,
      event.ends scene.client.called scene.client.requests.issued = false := by
    simpa [counted, Client.note, Event.ends] using silent_next ready.reachable
  refine ⟨Transfer.begin operation, .settled ?_, converses⟩
  have begun : scene.client.step (.start operation limit) = scene.client.start operation limit := by
    simp [Client.step, Client.perform, ready.rests.held]
  rw [start, begun]
  simp only [Client.start]
  cases begins : Transfer.begin operation with
  | stop stopped => exact .finishes { engaged with } ready.nothing rfl silent
  | go transfer =>
    rw [begins] at converses
    exact @settled_proceed scene _ ⟨scene.client.called, transfer, limit, [], 0⟩ _ counted [] _ _
      ready.reachable.sound.requests engaged (by simp) (Nat.le_refl _) silent ready.nothing converses

/-- A call for an operation performs the conversation of its transfer. -/
theorem performs_of_converses (ready : scene.Ready config) {operation : Operation}
    (converses : Transfer.Converses config.chunkSize scene.write scene.files
      (Transfer.begin operation) left result) (limit : Option Duration) :
    scene.Performs operation limit fun after outcome =>
      outcome = result ∧ after.files = left ∧ after.Ready config ∧ after.write = scene.write := by
  have begun := ready.conducts converses limit
  have reachable : Client.Reachable config (scene.start operation limit).client :=
    ready.reachable.step _
  refine ⟨begun.noneFails, fun moves none => ?_, fun moves none progress outcome ended => ?_⟩
  · obtain ⟨turn, stage, conversesAfter⟩ := begun.run reachable moves none
    obtain ⟨later, settled⟩ := settled_of_converses conversesAfter rfl rfl
      (reachable_run reachable moves) stage
    have conducts : ((scene.start operation limit).run (moves ++ later)).Conducts config
        scene.client.called scene.client.requests.issued _ result :=
      ⟨.stop result, .settled (by rw [run, List.foldl_append]; exact settled), .stops⟩
    cases settled with
    | @finishes progress _ _ _ _ ended =>
      refine ⟨later, progress, result, conducts.noneFails, ?_⟩
      rw [run, List.foldl_append]
      exact ended ▸ List.mem_cons_self
  · obtain ⟨same, files, rests, nothing⟩ := (begun.run reachable moves none).finished ended
    exact ⟨same, files, ⟨reachable_run reachable moves, rests, nothing⟩,
      ((scene.start operation limit).run_ends moves).2⟩

theorem Performs.imp {operation : Operation} {limit : Option Duration}
    {ends ensures : Scene → Except Failure Delivery → Prop}
    (performs : scene.Performs operation limit ends)
    (implies : ∀ after outcome, ends after outcome → ensures after outcome) :
    scene.Performs operation limit ensures :=
  { performs with
    ends := fun moves none progress outcome ended =>
      implies _ _ (performs.ends moves none progress outcome ended) }

end Scene

end RemoteAgent
