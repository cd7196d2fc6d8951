import RemoteAgent.Proofs.Client.Transcripts

/-!
# Calls keep to their transfers

Whatever a client does, its calls and what the trace tells of them fit together (`Reachable.scripts`).
A call that goes on is taken apart from the others for as long as it is in turn (`InTurn`): its request
ends, its transfer goes on, and it makes the next request or ends. So the transcript of each call
unfolds as its transfer does, however many there are (`Reachable.unfolds`).
-/

namespace RemoteAgent.Client

variable {config : Config} {client after : Client} {action : Action}

/-! ## A call that goes on -/

/-- A call in its turn ends. -/
theorem InTurn.ends {number : Nat} {operation : Operation} {progress : List Progress}
    {turn : Transfer.Turn} {outcome : Except Failure Delivery}
    (inTurn : client.InTurn number operation progress turn)
    (ends : turn = .stop outcome ∨ ∃ transfer failure, turn = .go transfer ∧
      transfer.wants client.config.chunkSize = .error failure ∧ outcome = .error failure) :
    ((client.without number).note (.finished number progress outcome)).Scripts none := by
  have touches := @Touches.finished number (client.without number) progress outcome
  have lines : transcript number (.finished number progress outcome :: client.trace) =
      transcript number client.trace ++ [.ends progress outcome] :=
    transcript_cons_of_some (by simp [lineOf])
  have isOver : ((client.without number).note (.finished number progress outcome)).Unfolds operation
      number .over := by
    change RemoteAgent.Unfolds _ _ (transcript number (.finished number progress outcome ::
      client.trace)) _
    rw [lines]
    rcases ends with rfl | ⟨transfer, failure, rfl, refused, rfl⟩
    · exact .stops inTurn.unfolds
    · exact .refuses inTurn.unfolds refused
  refine ⟨inTurn.others.toLedger.touched touches (by simp) inTurn.past inTurn.started
      (.inr ⟨_, rfl, isOver⟩), ?_,
    inTurn.others.owned, inTurn.others.numbered⟩
  intro other member
  obtain ⟨operation, want, request, underway⟩ := inTurn.others.underway other member
  exact ⟨operation, want, request, underway.touched inTurn.others.toLedger touches
    (by simpa using (List.mem_filter.mp member).2) underway.found (.refl request)⟩

/-- A request that is made is told of. -/
theorem issue_trace (client : Client) (call : Call) (want : Want) :
    (client.issue call want).1.trace =
      .issued client.requests.issued want.key :: client.trace := by
  obtain ⟨_, _, request⟩ := client.requests.issue_request want call.limit
  have number : (client.issue call want).2.number = client.requests.issued :=
    Requests.issue_number ..
  change Event.issued (client.issue call want).2.number (client.issue call want).2.key :: _ = _
  rw [number]
  exact congrArg (Event.issued _ · :: _) (congrArg Request.key request)

theorem Touches.issue {call : Call} {want : Want}
    (asker : askerOf (.issued client.requests.issued want.key :: client.trace)
      client.requests.issued = some call.number) :
    (client.without call.number).Touches (client.issue call want).1 call.number := by
  have issued : (client.issue call want).1.requests.issued = client.requests.issued + 1 :=
    Requests.issue_issued ..
  refine ⟨rfl, rfl, by rw [issued]; exact Nat.le_succ _, ?_, ?_, ?_, ?_⟩
  · intro other operation
    rw [issue_trace, List.mem_cons]
    exact or_iff_right (by simp)
  · intro other different
    rw [issue_trace]
    exact transcript_cons_of_none (by simp [lineOf, asker, Ne.symm different])
  · intro other key isIssued
    rw [issue_trace, List.mem_cons] at isIssued
    rcases isIssued with new | old
    · cases new
      exact .inr (client.issue_trace call want ▸ asker)
    · exact .inl old
  · intro other
    rw [issue_trace, issued]
    by_cases own : other = client.requests.issued
    · exact .inr ⟨Nat.le_of_eq own.symm, by omega, own ▸ asker⟩
    · exact .inl (askerOf_cons (by simp [Ne.symm own]))

/-- A call in its turn waits for the request that it makes. -/
theorem InTurn.waits {call : Call} {operation : Operation} {want : Want}
    (inTurn : client.InTurn call.number operation call.progress (.go call.transfer))
    (sound : client.requests.Sound)
    (wanted : call.transfer.wants client.config.chunkSize = .ok want) :
    (client.issue call want).1.Underway
      { call with request := (client.issue call want).2.number } operation want
      (client.issue call want).2 := by
  obtain ⟨standing, seat, request⟩ := client.requests.issue_request want call.limit
  have number : (client.issue call want).2.number = client.requests.issued :=
    Requests.issue_number ..
  have asker := inTurn.asker client.requests.issued want.key
  have lines : transcript call.number (client.issue call want).1.trace =
      transcript call.number client.trace ++ [.asks want.key] := by
    rw [issue_trace]
    exact transcript_cons_of_some (by simp [lineOf, asker])
  have unsent : (client.issue call want).2.standing.isSent = false := by
    refine (congrArg (fun request => request.standing.isSent) request).trans ?_
    rcases seat with rfl | rfl <;> rfl
  refine ⟨(Touches.issue asker).started.mpr inTurn.started, ?_, ?_, wanted,
    find?_of_issue sound call want, congrArg Request.key request, congrArg Request.frame request⟩
  · dsimp only
    rw [issue_trace, number]
    exact asker
  · rw [unsent]
    unfold Unfolds
    exact lines ▸ .asks inTurn.unfolds wanted

/-- A call in its turn makes its next request. -/
theorem InTurn.issue {call : Call} {operation : Operation} {want : Want}
    (inTurn : client.InTurn call.number operation call.progress (.go call.transfer))
    (sound : client.requests.Sound)
    (wanted : call.transfer.wants client.config.chunkSize = .ok want) :
    (client.issue call want).1.Scripts none := by
  have touches := Touches.issue (inTurn.asker client.requests.issued want.key)
  have own := inTurn.waits sound wanted
  have calling : (client.issue call want).1.calls = client.calls.filter (·.number != call.number) ++
      [{ call with request := (client.issue call want).2.number }] := rfl
  refine ⟨inTurn.others.toLedger.touched touches (by simp) inTurn.past inTurn.started
    (.inr ⟨_, rfl, own.unfolds⟩), ?_, ?_, ?_⟩
  · intro other member
    rw [calling] at member
    rcases List.mem_append.mp member with old | new
    · obtain ⟨operation, want, request, underway⟩ := inTurn.others.underway other old
      refine ⟨operation, want, request, underway.touched inTurn.others.toLedger touches
        (by simpa using (List.mem_filter.mp old).2) ?_ (.refl request)⟩
      have past := sound.number_lt underway.found
      exact (sound.issue_find? _ _ other.request).trans
        ((if_neg (Nat.ne_of_lt past)).trans underway.found)
    · rw [List.mem_singleton.mp new]
      exact ⟨operation, want, _, own⟩
  · intro other request found
    rw [calling]
    rw [show (client.issue call want).1.requests = (client.requests.issue want call.limit).1 from rfl,
      sound.issue_find?] at found
    split at found
    · next isOwn =>
      exact ⟨_, List.mem_append_right _ (List.mem_singleton.mpr rfl),
        (Requests.issue_number ..).trans isOwn.symm⟩
    · obtain ⟨old, member, ownOld⟩ := inTurn.others.owned found
      exact ⟨old, List.mem_append_left _ member, ownOld⟩
  · rw [calling, List.map_append, List.nodup_append]
    refine ⟨inTurn.others.numbered, List.nodup_singleton _, ?_⟩
    intro old member new isNew same
    obtain ⟨other, memberOther, rfl⟩ := List.mem_map.mp member
    have different := (List.mem_filter.mp memberOther).2
    rw [List.map_singleton, List.mem_singleton] at isNew
    simp [same, isNew] at different

/-! ## Requests that run -/

/-- No two calls have one number. -/
theorem Scripts.same (scripts : client.Scripts none) {call other : Call} (member : call ∈ client.calls)
    (memberOther : other ∈ client.calls) (same : other.number = call.number) : other = call :=
  List.inj_on_of_nodup_map scripts.numbered memberOther member same

/-- No two calls wait for one request, since it is only one's own. -/
theorem Scripts.only (scripts : client.Scripts none) {call other : Call} (member : call ∈ client.calls)
    (memberOther : other ∈ client.calls) (same : other.request = call.request) : other = call := by
  obtain ⟨_, _, _, underway⟩ := scripts.underway call member
  obtain ⟨_, _, _, underwayOther⟩ := scripts.underway other memberOther
  refine scripts.same member memberOther (Option.some.inj ?_)
  rw [← underway.asker, ← underwayOther.asker, same]

/-- A request that runs is that of a call. -/
theorem Scripts.owner (scripts : client.Scripts none) {number : Nat} {request : Request}
    (found : client.requests.find? number = some request) :
    ∃ call ∈ client.calls, call.request = number ∧
      client.calls.find? (·.request == number) = some call ∧
      ∃ operation want, client.Underway call operation want request := by
  obtain ⟨call, member, rfl⟩ := scripts.owned found
  obtain ⟨operation, want, other, underway⟩ := scripts.underway call member
  have same := underway.found
  rw [found] at same
  cases same
  refine ⟨call, member, rfl, ?_, operation, want, underway⟩
  cases first : client.calls.find? (·.request == call.request) with
  | none => simpa using List.find?_eq_none.mp first call member
  | some other =>
    rw [scripts.only member (List.mem_of_find?_eq_some first) (by simpa using List.find?_some first)]

/-- The frame of a request is accepted for a socket, and the request waits for its reply. -/
def accepting (client : Client) (link : Link) (request : Request) (generation : Nat) : Client :=
  ({ client with
      link
      requests := client.requests.enter request generation client.clock }.note
    (.accepted generation request.frame)).note (.sent request.number generation)

theorem Touches.accepting {request : Request} {number : Nat}
    (asker : askerOf client.trace request.number = some number) (link : Link) (generation : Nat) :
    client.Touches (client.accepting link request generation) number := by
  let entered : Client := { client with
    link
    requests := client.requests.enter request generation client.clock }
  have issued : (client.requests.enter request generation client.clock).issued =
      client.requests.issued := client.requests.enter_issued request generation client.clock
  exact (Touches.within client link _ client.calls (Nat.le_of_eq issued.symm)).trans
    (@Touches.sent entered number _ asker generation request.frame)

/-- A call whose request is sent waits on. -/
theorem Underway.accepting {call : Call} {operation : Operation} {want : Want} {request : Request}
    (underway : client.Underway call operation want request) (own : call.request = request.number)
    (sound : client.requests.Sound) (found : client.requests.find? request.number = some request)
    (turn : request.standing = .granted) (link : Link) (generation : Nat) :
    (client.accepting link request generation).Underway call operation want
      { request with standing := .waiting generation client.clock } := by
  have asker : askerOf client.trace request.number = some call.number := own ▸ underway.asker
  have lines : transcript call.number (client.accepting link request generation).trace =
      transcript call.number client.trace ++ [.sends want.frame.encode] := by
    have told : lineOf call.number (.accepted generation request.frame :: client.trace)
        (.sent request.number generation) = some (.sends request.frame) := if_pos asker
    rw [← underway.frame]
    exact (transcript_cons_of_some told).trans
      (congrArg (· ++ _) (transcript_cons_of_none rfl))
  have before := underway.unfolds
  rw [show request.standing.isSent = false by rw [turn]; rfl] at before
  refine ⟨(Touches.accepting asker link generation).started.mpr underway.started, own ▸ asker, ?_,
    underway.wanted, ?_, underway.key, underway.frame⟩
  · unfold Unfolds
    exact lines ▸ .sends before underway.wanted
  · exact (sound.enter_find? generation client.clock found turn call.request).trans (if_pos own)

/-- At its turn, a request is sent on the open socket. -/
theorem Scripts.send (scripts : client.Scripts none) (sound : client.requests.Sound) {request : Request}
    (found : client.requests.find? request.number = some request)
    (turn : request.standing = .granted) (link : Link) (generation : Nat) :
    (client.accepting link request generation).Scripts none := by
  obtain ⟨call, member, own, -, operation, want, underway⟩ := scripts.owner found
  have asker : askerOf client.trace request.number = some call.number := own ▸ underway.asker
  have touches := Touches.accepting asker link generation
  have waits := underway.accepting own sound found turn link generation
  have foundAfter := sound.enter_find? generation client.clock found turn
  refine ⟨scripts.toLedger.touched touches (by simp) (scripts.past underway.started)
    underway.started (.inr ⟨_, rfl, waits.unfolds⟩), ?_, ?_, scripts.numbered⟩
  · intro other memberOther
    by_cases isOwn : other = call
    · exact isOwn ▸ ⟨operation, want, _, waits⟩
    · obtain ⟨operation, want, before, underwayOther⟩ := scripts.underway other memberOther
      refine ⟨operation, want, before, underwayOther.touched scripts.toLedger touches ?_ ?_
        (.refl before)⟩
      · exact fun same => isOwn (scripts.same member memberOther same)
      · have different : other.request ≠ request.number := fun same =>
          isOwn (scripts.only member memberOther (same.trans own.symm))
        exact (foundAfter other.request).trans ((if_neg different).trans underwayOther.found)
  · intro number later foundLater
    have isFound := (foundAfter number).symm.trans foundLater
    by_cases isOwn : number = request.number
    · exact ⟨call, member, own.trans isOwn.symm⟩
    · rw [if_neg isOwn] at isFound
      exact scripts.owned isFound

/-- When a request ends, its call is in turn. -/
theorem Scripts.ended (scripts : client.Scripts none) (sound : client.requests.Sound)
    {request : Request} {outcome : Except Failure Reply} {call : Call} {operation : Operation} {want : Want}
    (own : call.request = request.number) (member : call ∈ client.calls)
    (underway : client.Underway call operation want request) {progress : List Progress}
    {turn : Transfer.Turn}
    (comes : ∀ lines, RemoteAgent.Unfolds client.config.chunkSize operation lines
      (.waits call.progress call.transfer request.standing.isSent) →
      RemoteAgent.Unfolds client.config.chunkSize operation (lines ++ [.hears outcome])
        (.comes progress turn)) :
    (client.ended request outcome).InTurn call.number operation progress turn := by
  have asker : askerOf client.trace request.number = some call.number := own ▸ underway.asker
  let released : Client := { client with requests := client.requests.release request }
  have issued : (client.requests.release request).issued = client.requests.issued :=
    client.requests.release_issued request
  have touches : client.Touches ((client.ended request outcome).without call.number) call.number :=
    (Touches.within client client.link _ _ (Nat.le_of_eq issued.symm)).trans
      (@Touches.answered { released with
        calls := client.calls.filter (·.number != call.number) } call.number _ asker outcome)
  have lines : transcript call.number (client.ended request outcome).trace =
      transcript call.number client.trace ++ [.hears outcome] :=
    transcript_cons_of_some (if_pos asker)
  have unfolds : (client.ended request outcome).Unfolds operation call.number
      (.comes progress turn) := by
    unfold Unfolds
    rw [lines]
    exact comes _ underway.unfolds
  have past := (scripts.known underway.asker).2
  refine ⟨⟨scripts.toLedger.touched touches (by simp) past underway.started (.inl rfl), ?_, ?_,
      (List.filter_sublist.map _).nodup scripts.numbered⟩,
    touches.started.mpr underway.started, past, unfolds, ?_⟩
  · intro other memberOther
    obtain ⟨memberBefore, different⟩ := List.mem_filter.mp memberOther
    have differs : other.number ≠ call.number := by simpa using different
    obtain ⟨operation, want, before, underwayOther⟩ := scripts.underway other memberBefore
    have apart : other.request ≠ request.number := by
      intro same
      have isOwn := scripts.only member memberBefore (same.trans own.symm)
      exact differs (congrArg Call.number isOwn)
    obtain ⟨later, foundLater, alike⟩ := sound.release_alike request underwayOther.found apart
    exact ⟨operation, want, later, underwayOther.touched scripts.toLedger touches differs foundLater
      alike⟩
  · intro number later foundLater
    obtain ⟨apart, before, foundBefore⟩ := Requests.found_of_release foundLater
    obtain ⟨other, memberOther, ownOther⟩ := scripts.owned foundBefore
    refine ⟨other, List.mem_filter.mpr ⟨memberOther, ?_⟩, ownOther⟩
    have differs : other.number ≠ call.number := by
      intro same
      have isOwn := scripts.same member memberOther same
      exact apart (ownOther.symm.trans ((congrArg Call.request isOwn).trans own))
    simpa using differs
  · intro number key
    simp only [Client.ended, Client.note, askerOf, if_true]
    exact asker

/-- When a request fails, its call fails with it. -/
theorem Scripts.failRequest (scripts : client.Scripts none) (sound : client.requests.Sound)
    {request : Request} (found : client.requests.find? request.number = some request)
    (failure : Failure) :
    ({ client with requests := client.requests.release request }.failRequest request.number
      failure).Scripts none := by
  obtain ⟨call, member, own, first, operation, want, underway⟩ := scripts.owner found
  have inTurn := scripts.ended sound own member underway fun _ before =>
    Unfolds.fails before failure
  have failed : { client with requests := client.requests.release request }.failRequest
      request.number failure = (client.ended request (.error failure)).finish call
        (.error failure) := by
    simp only [Client.failRequest, Client.note, first]
    rfl
  rw [failed]
  exact inTurn.ends (.inl rfl)

/-- A request at its turn is sent, or fails for want of an open link. -/
theorem Scripts.sendRequest (scripts : client.Scripts none) (sound : client.requests.Sound)
    {request : Request} (found : client.requests.find? request.number = some request)
    (turn : request.standing = .granted) : (client.sendRequest request).Scripts none := by
  unfold Client.sendRequest
  split
  · next link generation _ => exact scripts.send sound found turn link generation
  · exact scripts.failRequest sound found .notConnected

/-- A call in its turn goes on as its transfer does. -/
theorem InTurn.proceed {call : Call} {operation : Operation} {turn : Transfer.Turn}
    (inTurn : client.InTurn call.number operation call.progress turn)
    (sound : client.requests.Sound) : (client.proceed call turn).Scripts none := by
  unfold Client.proceed
  split
  · exact inTurn.ends (.inl rfl)
  · next transfer =>
    split
    · next want wanted =>
      have issued := @InTurn.issue client { call with transfer } operation want inTurn sound wanted
      have soundIssued : (client.issue { call with transfer } want).1.requests.Sound :=
        sound.issue want call.limit (Transfer.awaits_of_wants wanted)
      dsimp only [Client.ask]
      split
      · next turn => exact issued.sendRequest soundIssued (find?_of_issue sound _ want) turn
      · exact issued
    · next failure refused =>
      exact inTurn.ends (.inr ⟨transfer, failure, rfl, refused, rfl⟩)

/-- When a request has its reply, its call goes on with it. -/
theorem Scripts.answerRequest (scripts : client.Scripts none) (sound : client.requests.Sound)
    {request : Request} {reply : Reply}
    (found : client.requests.find? request.number = some request)
    (came : request.standing = .answered reply) (fits : reply.kind = request.key.replyKind) :
    ({ client with requests := client.requests.release request }.answerRequest request.number
      reply).Scripts none := by
  obtain ⟨call, member, own, first, operation, want, underway⟩ := scripts.owner found
  have sent : request.standing.isSent = true := by rw [came]; rfl
  have kind : reply.kind = want.awaits := by
    rw [fits, underway.key, Transfer.awaits_of_wants underway.wanted]
  have inTurn := scripts.ended sound own member underway fun _ before =>
    Unfolds.hears (sent ▸ before) underway.wanted kind
  let next := call.transfer.resume client.config.chunkSize reply
  have answered : { client with requests := client.requests.release request }.answerRequest
      request.number reply = (client.ended request (.ok reply)).proceed
        { call with progress := call.progress ++ next.1.toList } next.2 := by
    simp only [Client.answerRequest, Client.note, first]
    rfl
  rw [answered]
  exact @InTurn.proceed (client.ended request (.ok reply))
    { call with progress := call.progress ++ next.1.toList } operation next.2 inTurn
    (sound.release found (by simp [came]))

/-- A call has come in, and is told of. -/
def begun (client : Client) (operation : Operation) : Client :=
  Client.note { client with called := client.called + 1 } (.started client.called operation)

/-- A call that has come in leaves transcripts as they are. -/
theorem transcript_begun (client : Client) (operation : Operation) (number : Nat) :
    transcript number (client.begun operation).trace = transcript number client.trace :=
  transcript_cons_of_none rfl

/-- Calls came in before the one that comes in. -/
theorem Scripts.older (scripts : client.Scripts none) {call : Call} (member : call ∈ client.calls) :
    call.number ≠ client.called := by
  obtain ⟨_, _, _, underway⟩ := scripts.underway call member
  exact Nat.ne_of_lt (scripts.past underway.started)

/-- A call that has come in is in turn. -/
theorem Ledger.begun (ledger : client.Ledger none) (operation : Operation) :
    (client.begun operation).Ledger (some client.called) := by
  refine ⟨?_, ?_, ?_, ?_, ?_, ?_⟩
  · intro number other started rests
    rcases List.mem_cons.mp started with new | old
    · cases new
      exact absurd rfl rests
    · obtain ⟨stage, resting, unfolds⟩ := ledger.unfolds old (by simp)
      exact ⟨stage, resting, unfolds.keep rfl (client.transcript_begun operation number)⟩
  · intro number first second startedFirst startedSecond
    rcases List.mem_cons.mp startedFirst with newFirst | oldFirst
    · cases newFirst
      rcases List.mem_cons.mp startedSecond with newSecond | oldSecond
      · cases newSecond
        rfl
      · exact absurd (ledger.past oldSecond) (Nat.lt_irrefl _)
    · rcases List.mem_cons.mp startedSecond with newSecond | oldSecond
      · cases newSecond
        exact absurd (ledger.past oldFirst) (Nat.lt_irrefl _)
      · exact ledger.unique oldFirst oldSecond
  · intro number other started
    rcases List.mem_cons.mp started with new | old
    · cases new
      exact Nat.lt_succ_self _
    · exact Nat.lt_succ_of_lt (ledger.past old)
  · intro request key issued
    obtain ⟨number, other, asker, started⟩ :=
      ledger.asked ((List.mem_cons.mp issued).resolve_left (by simp))
    exact ⟨number, other, asker, List.mem_cons_of_mem _ started⟩
  · intro request call asker
    obtain ⟨issued, called⟩ := ledger.known asker
    exact ⟨issued, Nat.lt_succ_of_lt called⟩
  · intro number beyond
    exact (client.transcript_begun operation number).trans (ledger.idle (Nat.le_of_succ_le beyond))

/-- A call that comes in is in turn. -/
theorem Scripts.begun (scripts : client.Scripts none) (operation : Operation) :
    (client.begun operation).InTurn client.called operation [] (Transfer.begin operation) := by
  have ledger : ((client.begun operation).without client.called).Ledger (some client.called) :=
    { scripts.toLedger.begun operation with }
  refine ⟨⟨ledger, ?_, ?_, (List.filter_sublist.map _).nodup scripts.numbered⟩,
    List.mem_cons_self, Nat.lt_succ_self _, ?_, ?_⟩
  · intro call member
    obtain ⟨operation, want, request, underway⟩ :=
      scripts.underway call (List.mem_filter.mp member).1
    exact ⟨operation, want, request, List.mem_cons_of_mem _ underway.started, underway.asker,
      underway.unfolds.keep rfl (client.transcript_begun _ call.number), underway.wanted,
      underway.found, underway.key, underway.frame⟩
  · intro number request found
    obtain ⟨call, member, own⟩ := scripts.owned found
    exact ⟨call, List.mem_filter.mpr ⟨member, by simpa using scripts.older member⟩, own⟩
  · unfold Unfolds
    rw [transcript_begun, scripts.idle (Nat.le_refl _)]
    exact .begins
  · intro request key
    simp [Client.begun, Client.note, askerOf]

/-- A call that comes in goes on from its beginning. -/
theorem Scripts.start (scripts : client.Scripts none) (sound : client.requests.Sound)
    (operation : Operation) (limit : Option Duration) :
    (client.start operation limit).Scripts none := by
  have inTurn := scripts.begun operation
  dsimp only [Client.start]
  split
  · next stops =>
    have alone : (client.begun operation).without client.called = client.begun operation := by
      have kept : client.calls.filter (·.number != client.called) = client.calls :=
        List.filter_eq_self.mpr fun call member => by simpa using scripts.older member
      unfold without
      exact congrArg (fun calls => { client.begun operation with calls }) kept
    rw [stops] at inTurn
    have ended := inTurn.ends (.inl rfl)
    rw [alone] at ended
    exact ended
  · next transfer goes =>
    exact @InTurn.proceed (client.begun operation) ⟨client.called, transfer, limit, [], 0⟩ operation _
      (goes ▸ inTurn) sound

/-- Where nothing is told of calls, and those that stay keep their requests, all is as it was. -/
theorem Scripts.keep (scripts : client.Scripts none) (quiet : client.Quiet after)
    (silent : ∃ events : List Event, (∀ event ∈ events, event.isOfTransfer = false) ∧
      after.trace = events ++ client.trace)
    (issued : client.requests.issued ≤ after.requests.issued)
    (kept : ∀ call ∈ after.calls, ∀ request,
      client.requests.find? call.request = some request →
        ∃ later, after.requests.find? call.request = some later ∧ request.Alike later)
    (owned : ∀ {number request}, after.requests.find? number = some request →
      ∃ call ∈ after.calls, call.request = number) : after.Scripts none := by
  obtain ⟨events, aside, grown⟩ := silent
  have askers : ∀ number, askerOf after.trace number = askerOf client.trace number := fun number =>
    grown ▸ (transcript_of_aside aside client.trace number).1
  have lines : ∀ number, transcript number after.trace = transcript number client.trace :=
    fun number => grown ▸ (transcript_of_aside aside client.trace number).2
  have started : ∀ {number operation}, .started number operation ∈ after.trace →
      .started number operation ∈ client.trace := fun member => quiet.told _ member rfl
  have ledger : after.Ledger none := by
    refine ⟨?_, fun first second => scripts.unique (started first) (started second), ?_, ?_, ?_, ?_⟩
    · intro number operation member _
      obtain ⟨stage, resting, unfolds⟩ := scripts.unfolds (started member) (by simp)
      exact ⟨stage, resting, unfolds.keep quiet.config (lines number)⟩
    · exact fun member => Nat.lt_of_lt_of_le (scripts.past (started member)) quiet.called
    · intro request key issued
      rw [grown, List.mem_append] at issued
      obtain ⟨number, operation, asker, begun⟩ :=
        scripts.asked (issued.resolve_left fun new => by cases aside _ new)
      exact ⟨number, operation, (askers request).trans asker,
        grown ▸ List.mem_append_right _ begun⟩
    · intro request call asker
      obtain ⟨past, called⟩ := scripts.known ((askers request).symm.trans asker)
      exact ⟨Nat.lt_of_lt_of_le past issued, Nat.lt_of_lt_of_le called quiet.called⟩
    · exact fun beyond => (lines _).trans (scripts.idle (Nat.le_trans quiet.called beyond))
  refine ⟨ledger, ?_, owned, (quiet.calls.map _).nodup scripts.numbered⟩
  intro call member
  obtain ⟨operation, want, request, underway⟩ := scripts.underway call (quiet.calls.subset member)
  obtain ⟨later, found, alike⟩ := kept call member request underway.found
  exact ⟨operation, want, later, grown ▸ List.mem_append_right _ underway.started,
    (askers _).trans underway.asker,
    alike.sent ▸ underway.unfolds.keep quiet.config (lines call.number),
    quiet.config ▸ underway.wanted, found, alike.key.trans underway.key,
    alike.frame.trans underway.frame⟩

/-- Calls keep to their scripts as a request runs. -/
theorem Scripts.poll (scripts : client.Scripts none) (sound : client.requests.Sound)
    (hears : client.Hears fun key reply => reply.kind = key.replyKind) (polled : Nat) :
    (client.poll polled).Scripts none := by
  have rested : ({ client with requests := client.requests.rest polled } : Client).Scripts none :=
    scripts.keep (Silent.within client _ _).quiet (Silent.within client _ _).trace (Nat.le_refl _)
      (fun _ _ request found => ⟨request, found, .refl request⟩) fun found => scripts.owned found
  dsimp only [Client.poll]
  cases found : client.requests.find? polled with
  | none => exact rested
  | some request =>
    obtain rfl := Requests.number_of_find? found
    dsimp only
    split
    · exact rested
    · next turn => exact scripts.sendRequest sound found turn
    · split
      · split
        · exact scripts.failRequest sound found _
        · exact rested
      · exact rested
    · next reply came => exact scripts.answerRequest sound found came (hears _ _ _ found came)
    · exact scripts.failRequest sound found _

/-! ## Every call in a run -/

/-- Calls keep to their scripts in a step. -/
theorem Scripts.step (scripts : client.Scripts none) (sound : client.Sound)
    (hears : client.Hears fun key reply => reply.kind = key.replyKind) (action : Action) :
    (client.step action).Scripts none := by
  by_cases runs : action.runsRequests = true
  · unfold Client.step
    split
    · exact scripts
    · cases action with
      | start operation limit => exact scripts.start sound.requests operation limit
      | poll polled => exact scripts.poll sound.requests hears polled
      | _ => cases runs
  · have aside : action.runsRequests = false := by simpa using runs
    have quiet := client.step_quiet aside
    have issued : client.requests.issued ≤ (client.step action).requests.issued :=
      (@step_induct client action (fun after => client.requests.issued ≤ after.requests.issued)
        sound.requests (fun _ _ _ moves past => Nat.le_trans past moves.issued_le)
        (Nat.le_refl _)).2
    refine scripts.keep quiet (client.step_aside aside) issued ?_ ?_
    · intro call member request found
      exact step_spared sound found aside (step_spares_kept sound member fun other memberOther =>
        scripts.only (quiet.calls.subset member) memberOther)
    · intro number request found
      obtain ⟨before, stood⟩ := step_stood sound found aside
      obtain ⟨call, member, rfl⟩ := scripts.owned stood
      refine ⟨call, step_keeps_call aside member fun givesUp => ?_, rfl⟩
      rw [gone_of_givesUp sound givesUp] at found
      cases found

/-- In every run, requests hear replies of the kind of their keys. -/
theorem Reachable.hears (reachable : Reachable config client) :
    client.Hears fun key reply => reply.kind = key.replyKind :=
  reachable.bySoundMoves (by simp [Hears, Client.initial, Requests.find?])
    fun _ _ _ sound moves hears => moves.hears sound (fun _ _ comes => kind_of_reply? comes) hears

/-- In every run, calls keep to their scripts. -/
theorem Reachable.scripts (reachable : Reachable config client) : client.Scripts none := by
  induction reachable with
  | initial =>
    refine ⟨⟨?_, ?_, ?_, ?_, ?_, ?_⟩, ?_, ?_, ?_⟩ <;>
      simp [Client.initial, askerOf, transcript, Requests.find?]
  | step action before inductionHypothesis =>
    exact inductionHypothesis.step before.sound before.hears action

/-- Every request is that of a call, so transcripts tell of all requests. -/
theorem Reachable.asked (reachable : Reachable config client) {request : Nat} {key : RequestKey}
    (issued : .issued request key ∈ client.trace) : ∃ number operation,
      askerOf client.trace request = some number ∧ .started number operation ∈ client.trace :=
  reachable.scripts.asked issued

/-- The transcript of every call unfolds as its transfer does, until it rests. A call under way waits,
with the progress that it has reported. -/
theorem Reachable.unfolds (reachable : Reachable config client) {number : Nat}
    {operation : Operation} (started : .started number operation ∈ client.trace) :
    ∃ stage, stage.isResting = true ∧
      RemoteAgent.Unfolds config.chunkSize operation (transcript number client.trace) stage ∧
      ∀ call ∈ client.calls, call.number = number →
        ∃ isSent, stage = .waits call.progress call.transfer isSent := by
  have scripts := reachable.scripts
  by_cases underWay : ∃ call ∈ client.calls, call.number = number
  · obtain ⟨call, member, rfl⟩ := underWay
    obtain ⟨operationToo, _, request, underway⟩ := scripts.underway call member
    cases scripts.unique started underway.started
    refine ⟨.waits call.progress call.transfer request.standing.isSent, rfl,
      reachable.config ▸ underway.unfolds, fun other memberOther same => ?_⟩
    exact ⟨_, by rw [scripts.same member memberOther same]⟩
  · obtain ⟨stage, resting, unfolds⟩ := scripts.unfolds started (by simp)
    exact ⟨stage, resting, reachable.config ▸ unfolds, fun call member own =>
      absurd ⟨call, member, own⟩ underWay⟩

end RemoteAgent.Client
