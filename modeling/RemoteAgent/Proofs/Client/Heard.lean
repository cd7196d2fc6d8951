import RemoteAgent.Proofs.Client.Scripts

/-!
# Where replies come from

A request has its reply because a frame with that reply under its key came in on a running socket
while it waited (`comes_of_answered`). So each reply in the transcript of a call came in under the key
of the request before it, and for that very request (`replies_come`).
-/

namespace RemoteAgent

/-- The reply that a line hears. -/
def Line.reply? : Line → Option Reply
  | .hears (.ok reply) => some reply
  | _ => none

/-- The replies that a transcript tells of, each with the key of its request. -/
def repliesOf (lines : List Line) : List (RequestKey × Reply) :=
  (lines.filterMap Line.key?).zip (lines.filterMap Line.reply?)

/-- The replies in a transcript of exchanges. -/
theorem replies_of_exchanges (exchanged : List (Want × Reply)) :
    (exchanges exchanged).filterMap Line.reply? = exchanged.map (·.2) := by
  induction exchanged with
  | nil => rfl
  | cons pair later inductionHypothesis =>
    exact congrArg (pair.2 :: ·) inductionHypothesis

@[simp]
theorem keys_of_told (want : Want) (isSent : Bool) :
    (want.told isSent).filterMap Line.key? = [want.key] := by
  cases isSent <;> rfl

@[simp]
theorem replies_of_told (want : Want) (isSent : Bool) :
    (want.told isSent).filterMap Line.reply? = [] := by
  cases isSent <;> rfl

/-- Whatever else is told, the replies stay those to the requests before them. -/
theorem repliesOf_append {lines more : List Line} (silent : more.filterMap Line.reply? = [])
    (fewer : (lines.filterMap Line.reply?).length ≤ (lines.filterMap Line.key?).length) :
    repliesOf (lines ++ more) = repliesOf lines := by
  have shorter : ∀ (keys others : List RequestKey) (replies : List Reply),
      replies.length ≤ keys.length → (keys ++ others).zip replies = keys.zip replies := by
    intro keys others
    induction keys with
    | nil => exact fun replies none => by simp [List.length_eq_zero_iff.mp (Nat.le_zero.mp none)]
    | cons key keys inductionHypothesis =>
      rintro (_ | ⟨reply, replies⟩) few
      · rfl
      · exact congrArg ((key, reply) :: ·) (inductionHypothesis replies (Nat.le_of_succ_le_succ few))
  rw [repliesOf, repliesOf, List.filterMap_append, List.filterMap_append, silent, List.append_nil,
    shorter _ _ _ fewer]

/-- The replies in a transcript of exchanges, each under the key it was asked for with. -/
theorem repliesOf_exchanges (exchanged : List (Want × Reply)) :
    repliesOf (exchanges exchanged) = exchanged.map fun pair => (pair.1.key, pair.2) := by
  rw [repliesOf, keys_of_exchanges, replies_of_exchanges, List.zip_map']

/-- A reply is to the last request. -/
theorem repliesOf_hears (exchanged : List (Want × Reply)) (want : Want) (isSent : Bool)
    (reply : Reply) :
    repliesOf (exchanges exchanged ++ want.told isSent ++ [.hears (.ok reply)]) =
      repliesOf (exchanges exchanged ++ want.told isSent) ++ [(want.key, reply)] := by
  have few : ((exchanges exchanged).filterMap Line.reply?).length ≤
      ((exchanges exchanged).filterMap Line.key?).length := by
    simp [keys_of_exchanges, replies_of_exchanges]
  rw [repliesOf_append (replies_of_told want isSent) few]
  simp only [repliesOf, List.filterMap_append, keys_of_exchanges, replies_of_exchanges, keys_of_told,
    replies_of_told, List.append_assoc]
  exact List.zip_append (by simp)

/-- No event of these tells of a reply. -/
def WithoutReplies (events : List Event) : Prop :=
  ∀ request reply, Event.answered request (.ok reply) ∉ events

/-- A call hears of an outcome as a request of its own ends. -/
theorem answered_of_hears {call : Nat} {earlier : List Event} {event : Event}
    {outcome : Except Failure Reply} (hears : lineOf call earlier event = some (.hears outcome)) :
    ∃ request, event = .answered request outcome ∧ askerOf earlier request = some call := by
  unfold lineOf at hears
  split at hears
  · cases (Option.ite_none_right_eq_some.mp hears).2
  · split at hears
    · cases (Option.ite_none_right_eq_some.mp hears).2
    · cases hears
  · next request other =>
    obtain ⟨own, same⟩ := Option.ite_none_right_eq_some.mp hears
    cases same
    exact ⟨request, rfl, own⟩
  · cases (Option.ite_none_right_eq_some.mp hears).2
  · cases hears

/-- Where no reply is told of, none is heard, whatever else a call does. -/
theorem transcript_append {events : List Event} (none : WithoutReplies events)
    (earlier : List Event) (call : Nat) :
    ∃ more, transcript call (events ++ earlier) = transcript call earlier ++ more ∧
      more.filterMap Line.reply? = [] := by
  induction events with
  | nil => exact ⟨[], (List.append_nil _).symm, rfl⟩
  | cons event events inductionHypothesis =>
    obtain ⟨more, grown, silent⟩ := inductionHypothesis fun request reply member =>
      none request reply (List.mem_cons_of_mem _ member)
    refine ⟨more ++ (lineOf call (events ++ earlier) event).toList, ?_, ?_⟩
    · rw [List.cons_append, transcript, grown, List.append_assoc]
    · rw [List.filterMap_append, silent, List.nil_append, List.filterMap_eq_nil_iff]
      intro line told
      have tells := Option.mem_toList.mp told
      cases line with
      | hears outcome =>
        obtain ⟨request, rfl, _⟩ := answered_of_hears tells
        cases outcome with
        | error failure => rfl
        | ok reply => exact absurd List.mem_cons_self (none request reply)
      | _ => rfl

/-- Requests keep their askers unless they are issued anew. -/
theorem askerOf_append {events : List Event} {number : Nat}
    (none : ∀ key, .issued number key ∉ events) (earlier : List Event) :
    askerOf (events ++ earlier) number = askerOf earlier number := by
  induction events with
  | nil => rfl
  | cons event events inductionHypothesis =>
    refine (askerOf_cons fun key own => none key (own ▸ List.mem_cons_self)).trans ?_
    exact inductionHypothesis fun key member => none key (List.mem_cons_of_mem _ member)

namespace Client

variable {config : Config} {client after : Client} {action : Action}

/-! ## The reply to a request -/

/-- A reply under a key comes in for a request that waits under it. -/
def Receives.For (client : Client) (number generation : Nat) (octets : Bytes) (key : RequestKey)
    (reply : Reply) : Prop :=
  client.Receives generation octets key reply ∧
    ∃ request, client.requests.find? number = some request ∧ request.key = key ∧
      request.standing.isWaiting = true

/-- A request that has its reply after a message had it before, or it has just come. -/
theorem Reachable.answered_of_receive (reachable : Reachable config client) {number : Nat}
    {request : Request} {reply : Reply} {generation : Nat} {message : Message}
    (found : (client.step (.receive generation message)).requests.find? number = some request)
    (came : request.standing = .answered reply) :
    client.requests.find? number = some request ∨
      ∃ octets, message = .binary octets ∧
        Receives.For client number generation octets request.key reply := by
  by_cases receives : ∃ octets key reply, message = .binary octets ∧
      client.Receives generation octets key reply
  · obtain ⟨octets, key, other, rfl, receives⟩ := receives
    have fits : other.kind = key.replyKind := by
      obtain ⟨_, _, frame, _, replies⟩ := receives
      exact Inbound.reply?_eq_some_key_kind replies
    rw [receives.requests reachable.sound, reachable.requests_sound.deliver_find? fits] at found
    obtain ⟨before, foundBefore, follows⟩ := Option.map_eq_some_iff.mp found
    split at follows
    · next waits =>
      subst follows
      obtain rfl := Standing.answered.inj came
      exact .inr ⟨octets, rfl, waits.1 ▸ receives, before, foundBefore, rfl, waits.2⟩
    · exact .inl (follows ▸ foundBefore)
  · rw [step_receive_same fun octets key reply binary comes =>
      receives ⟨octets, key, reply, binary, comes⟩] at found
    exact .inl found

/-- A request that has its reply after a step had it before, or it has just come. -/
theorem Reachable.answered_of_step (reachable : Reachable config client) {number : Nat}
    {request : Request} {reply : Reply}
    (found : (client.step action).requests.find? number = some request)
    (came : request.standing = .answered reply) :
    client.requests.find? number = some request ∨
      ∃ generation octets, action = .receive generation (.binary octets) ∧
        Receives.For client number generation octets request.key reply := by
  by_cases receives : ∃ generation message, action = .receive generation message
  · obtain ⟨generation, message, rfl⟩ := receives
    rcases reachable.answered_of_receive found came with old | ⟨octets, rfl, comes⟩
    · exact .inl old
    · exact .inr ⟨generation, octets, rfl, comes⟩
  · refine .inl (@Reachable.step_keeps _ _ action (fun middle => ∀ request,
      middle.requests.find? number = some request → request.standing = .answered reply →
        client.requests.find? number = some request) reachable ?_ (fun _ found _ => found) request
      found came)
    intro middle next sound _ _ moves known last foundLast cameLast
    rcases moves.foundAfter sound foundLast with ⟨before, foundBefore, follows⟩ | ⟨_, _, early, _⟩
    · cases follows with
      | same => exact known _ foundBefore cameLast
      | granted => cases cameLast
      | sent => cases cameLast
      | answered _ comes => exact absurd ⟨_, _, comes⟩ receives
      | lost => cases cameLast
    · rcases early with turn | turn <;> simp [turn] at cameLast

/-- A request that has its reply waited for it under its key when it came in. -/
theorem comes_of_answered (config : Config) (actions : List Action) {number : Nat}
    {request : Request} {reply : Reply}
    (found : ((Client.initial config).run actions).requests.find? number = some request)
    (came : request.standing = .answered reply) :
    ∃ before generation octets later,
      actions = before ++ .receive generation (.binary octets) :: later ∧
        Receives.For ((Client.initial config).run before) number generation octets request.key
          reply := by
  induction actions using List.reverseRecOn with
  | nil => cases found
  | append_singleton earlier action inductionHypothesis =>
    have reachable : Reachable config ((Client.initial config).run earlier) :=
      Reachable.initial.run earlier
    rw [run_append] at found
    rcases reachable.answered_of_step found came with old | ⟨generation, octets, rfl, comes⟩
    · obtain ⟨before, generation, octets, later, rfl, comes⟩ := inductionHypothesis old
      exact ⟨before, generation, octets, later ++ [action], by simp, comes⟩
    · exact ⟨earlier, generation, octets, [], rfl, comes⟩

/-! ## The replies in a transcript -/

/-- Requests that have been issued keep their askers. -/
theorem askerOf_run (sound : client.Sound) {number : Nat} (past : number < client.requests.issued)
    (actions : List Action) :
    askerOf (client.run actions).trace number = askerOf client.trace number := by
  refine (@run_keeps client (fun middle => number < middle.requests.issued ∧
    askerOf middle.trace number = askerOf client.trace number) sound actions ?_ ⟨past, rfl⟩).2.2
  intro action _ middle next soundMiddle moves ⟨pastMiddle, same⟩
  obtain ⟨events, grown, explained⟩ := moves.adds soundMiddle
  refine ⟨Nat.lt_of_lt_of_le pastMiddle moves.issued_le, ?_⟩
  rw [grown, askerOf_append ?_, same]
  intro key issued
  obtain ⟨_, newest, _⟩ := explained _ issued
  exact Nat.ne_of_lt pastMiddle newest

/-- Nothing that happens here tells of a reply. -/
def Unreplied (client after : Client) : Prop :=
  ∃ events, WithoutReplies events ∧ after.trace = events ++ client.trace

namespace Unreplied

theorem refl (client : Client) : client.Unreplied client := ⟨[], by simp [WithoutReplies], rfl⟩

theorem trans {first middle last : Client} (before : first.Unreplied middle)
    (afterwards : middle.Unreplied last) : first.Unreplied last := by
  obtain ⟨earlier, none, grown⟩ := before
  obtain ⟨later, noneLater, grownLater⟩ := afterwards
  refine ⟨later ++ earlier, ?_, by rw [grownLater, grown, List.append_assoc]⟩
  intro request reply member
  exact (List.mem_append.mp member).elim (noneLater request reply) (none request reply)

theorem note (client : Client) {event : Event}
    (other : ∀ request reply, event ≠ .answered request (.ok reply)) :
    client.Unreplied (client.note event) :=
  ⟨[event], fun request reply member => other request reply (List.mem_singleton.mp member).symm, rfl⟩

/-- A request that fails hears nothing. -/
theorem failRequest (client : Client) (requests : Requests) (number : Nat) (failure : Failure) :
    client.Unreplied ({ client with requests }.failRequest number failure) := by
  have failed : client.Unreplied
      ({ client with requests }.note (.answered number (.error failure))) :=
    note client (by simp)
  dsimp only [Client.failRequest]
  split
  · exact failed
  · exact failed.trans (note _ (by simp))

/-- A request that is sent hears nothing yet. -/
theorem sendRequest (client : Client) (request : Request) :
    client.Unreplied (client.sendRequest request) := by
  unfold Client.sendRequest
  split
  · exact (note client (by simp)).trans (note _ (by simp))
  · exact failRequest _ _ _ _

theorem ask (client : Client) (call : Call) (want : Want) :
    client.Unreplied (client.ask call want) := by
  have issued : client.Unreplied (client.issue call want).1 :=
    ⟨[_], by simp [WithoutReplies], client.issue_trace call want⟩
  dsimp only [Client.ask]
  split
  · exact issued.trans (sendRequest _ _)
  · exact issued

/-- A transfer that goes on or ends hears nothing as it does. -/
theorem proceed (client : Client) (call : Call) (turn : Transfer.Turn) :
    client.Unreplied (client.proceed call turn) := by
  unfold Client.proceed
  split
  · exact note client (by simp)
  · split
    · exact ask client _ _
    · exact note client (by simp)

/-- A call hears nothing as it starts. -/
theorem start (client : Client) (operation : Operation) (limit : Option Duration) :
    client.Unreplied (client.start operation limit) := by
  have started : client.Unreplied
      ({ client with called := client.called + 1 }.note (.started client.called operation)) :=
    note client (by simp)
  dsimp only [Client.start]
  split
  · exact started.trans (note _ (by simp))
  · exact started.trans (proceed _ _ _)

end Unreplied

/-- In a step nothing is told of a reply, unless a request runs that has one. -/
theorem step_unreplied (client : Client) (action : Action) :
    client.Unreplied (client.step action) ∨
      ∃ request reply, client.requests.find? request.number = some request ∧
        request.standing = .answered reply ∧
        (client.note (.answered request.number (.ok reply))).Unreplied (client.step action) := by
  by_cases aside : action.runsRequests = false
  · obtain ⟨events, none, grown⟩ := client.step_aside aside
    refine .inl ⟨events, ?_, grown⟩
    intro request reply member
    cases none _ member
  · cases action with
    | start operation limit =>
      refine .inl ?_
      unfold step
      split
      · exact .refl client
      · exact .start client operation limit
    | poll polled =>
      simp only [step, Action.isOwners, Bool.false_and, Bool.false_eq_true, if_false, perform, poll]
      have rested : client.Unreplied { client with requests := client.requests.rest polled } :=
        .refl client
      cases found : client.requests.find? polled with
      | none => exact .inl rested
      | some request =>
        obtain rfl := Requests.number_of_find? found
        dsimp only
        split
        · exact .inl rested
        · exact .inl (.sendRequest client request)
        · split
          · split
            · exact .inl (.failRequest client _ _ _)
            · exact .inl rested
          · exact .inl rested
        · next reply came =>
          refine .inr ⟨request, reply, found, came, ?_⟩
          dsimp only [answerRequest]
          split
          · exact .refl _
          · exact Unreplied.trans (.refl _) (.proceed _ _ _)
        · exact .inl (.failRequest client _ _ _)
    | _ => exact absurd rfl aside

/-- In a run, a reply under a key came in for a request of a call that waited under it. -/
def Comes (config : Config) (actions : List Action) (call : Nat) (key : RequestKey)
    (reply : Reply) : Prop :=
  ∃ before generation octets later number,
    actions = before ++ .receive generation (.binary octets) :: later ∧
      Receives.For ((Client.initial config).run before) number generation octets key reply ∧
      askerOf ((Client.initial config).run before).trace number = some call

/-- A reply that a request of a call has came in for it. -/
theorem comes_of_asker (config : Config) (actions : List Action) {call number : Nat}
    {request : Request} {reply : Reply}
    (found : ((Client.initial config).run actions).requests.find? number = some request)
    (came : request.standing = .answered reply)
    (asker : askerOf ((Client.initial config).run actions).trace number = some call) :
    Comes config actions call request.key reply := by
  obtain ⟨before, generation, octets, later, rfl, comes⟩ := comes_of_answered config actions found came
  have sound := (@Reachable.initial config).sound.run before
  obtain ⟨_, waiting, foundWaiting, _⟩ := id comes
  rw [run_append, askerOf_run sound (sound.requests.number_lt foundWaiting)] at asker
  exact ⟨before, generation, octets, later, number, rfl, comes, asker⟩

/-- A call whose request has a reply waits for it, and has heard nothing of it yet. -/
theorem Reachable.waits_for (reachable : Reachable config client) {call : Nat} {request : Request}
    (found : client.requests.find? request.number = some request)
    (asker : askerOf client.trace request.number = some call) :
    ∃ (exchanged : List (Want × Reply)) (want : Want) (isSent : Bool), want.key = request.key ∧
      transcript call client.trace = exchanges exchanged ++ want.told isSent := by
  obtain ⟨owner, member, own⟩ := reachable.scripts.owned found
  obtain ⟨operation, want, waiting, underway⟩ := reachable.scripts.underway owner member
  have foundOwn := underway.found
  have askerOwn := underway.asker
  rw [own] at foundOwn askerOwn
  cases found.symm.trans foundOwn
  cases asker.symm.trans askerOwn
  obtain ⟨exchanged, progress, turn, rest, _, follows, lines⟩ := underway.unfolds.exchanged
  cases follows with
  | waits wanted isSent =>
    cases wanted.symm.trans underway.wanted
    exact ⟨exchanged, want, _, underway.key.symm, lines⟩

/-- The replies in a transcript are no more than the requests, and each is true of a request. -/
structure Replied (lines : List Line) (holds : RequestKey → Reply → Prop) : Prop where
  fewer : (lines.filterMap Line.reply?).length ≤ (lines.filterMap Line.key?).length
  each : ∀ pair ∈ repliesOf lines, holds pair.1 pair.2

/-- Lines without replies add nothing to what was replied. -/
theorem Replied.append {lines more : List Line} {holds : RequestKey → Reply → Prop}
    (replied : Replied lines holds) (silent : more.filterMap Line.reply? = []) :
    Replied (lines ++ more) holds where
  fewer := by
    rw [List.filterMap_append, List.filterMap_append, silent, List.append_nil, List.length_append]
    exact Nat.le_trans replied.fewer (Nat.le_add_right _ _)
  each := by
    rw [repliesOf_append silent replied.fewer]
    exact replied.each

/-- A step tells a call of a reply only where it is true of the request that the call waits for. -/
theorem Reachable.step_replied (reachable : Reachable config client) {call : Nat}
    {holds : RequestKey → Reply → Prop} (replied : Replied (transcript call client.trace) holds)
    (comes : ∀ request reply, client.requests.find? request.number = some request →
      request.standing = .answered reply → askerOf client.trace request.number = some call →
        holds request.key reply) (action : Action) :
    Replied (transcript call (client.step action).trace) holds := by
  rcases client.step_unreplied action with ⟨events, none, grown⟩ |
    ⟨request, reply, found, came, events, none, grown⟩
  · obtain ⟨more, lines, silent⟩ := transcript_append none client.trace call
    rw [grown, lines]
    exact replied.append silent
  · obtain ⟨more, lines, silent⟩ :=
      transcript_append none (client.note (.answered request.number (.ok reply))).trace call
    rw [grown, lines]
    refine Replied.append ?_ silent
    by_cases asker : askerOf client.trace request.number = some call
    · obtain ⟨exchanged, want, isSent, key, told⟩ := reachable.waits_for found asker
      rw [show (client.note (.answered request.number (.ok reply))).trace =
        .answered request.number (.ok reply) :: client.trace from rfl,
        transcript_cons_of_some (by simp [lineOf, asker] : lineOf call client.trace _ =
          some (.hears (.ok reply))), told]
      rw [told] at replied
      refine ⟨by simp [keys_of_exchanges, replies_of_exchanges, Line.reply?, Line.key?], ?_⟩
      intro pair member
      rw [repliesOf_hears] at member
      rcases List.mem_append.mp member with old | new
      · exact replied.each pair old
      · rw [List.mem_singleton.mp new, key]
        exact comes request reply found came asker
    · rw [show (client.note (.answered request.number (.ok reply))).trace =
        .answered request.number (.ok reply) :: client.trace from rfl,
        transcript_cons_of_none (by simp [lineOf, asker])]
      exact replied

/-- Each reply in the transcript of a call came in under the key of the request before it, while that
request waited. -/
theorem replies_come (config : Config) (actions : List Action) (call : Nat) :
    Replied (transcript call ((Client.initial config).run actions).trace)
      (Comes config actions call) := by
  induction actions using List.reverseRecOn with
  | nil => exact ⟨Nat.le_refl _, by simp [Client.run, Client.initial, transcript, repliesOf]⟩
  | append_singleton earlier action inductionHypothesis =>
    have reachable : Reachable config ((Client.initial config).run earlier) :=
      Reachable.initial.run earlier
    have further : ∀ key reply, Comes config earlier call key reply →
        Comes config (earlier ++ [action]) call key reply := by
      rintro key reply ⟨before, generation, octets, later, number, rfl, comes⟩
      exact ⟨before, generation, octets, later ++ [action], number, by simp, comes⟩
    have before : Replied (transcript call ((Client.initial config).run earlier).trace)
        (Comes config (earlier ++ [action]) call) :=
      ⟨inductionHypothesis.fewer, fun pair member => further _ _ (inductionHypothesis.each pair member)⟩
    rw [run_append]
    refine reachable.step_replied before ?_ action
    intro request reply found came asker
    exact further _ _ (comes_of_asker config earlier found came asker)

end Client

end RemoteAgent
