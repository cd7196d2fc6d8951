import RemoteAgent.Proofs.Client.Routing
import RemoteAgent.Proofs.Requests.Vacancies

/-!
# The order of replies

A reply takes away the entry of its key and goes to the request of that entry, so replies under
different keys have nothing to do with each other. What several replies do is said at once: a request
that waits gets the first reply under its key, and the entries of the keys are gone
(`Requests.Sound.deliverAll`). That says nothing of their order if no key comes twice, whatever other
messages come in between them (`replies_commute`). Only the order differs in which the requests run that
have a reply. A reply that comes again finds nothing.
-/

namespace RemoteAgent

/-- The reply in the octets of a message, under its key. -/
def replyIn (octets : Bytes) : Option (RequestKey × Reply) :=
  (Inbound.decode octets).toOption.bind Inbound.reply?

/-- The reply that octets are goes to the request under its key. -/
theorem replyIn_of_ok {octets : Bytes} {frame : Inbound} (decoded : Inbound.decode octets = .ok frame) :
    replyIn octets = frame.reply? := by
  rw [replyIn, decoded]
  rfl

theorem replyKind_of_replyIn {octets : Bytes} {key : RequestKey} {reply : Reply}
    (replies : replyIn octets = some (key, reply)) : reply.kind = key.replyKind := by
  obtain ⟨frame, _, found⟩ := Option.bind_eq_some_iff.mp replies
  exact Inbound.reply?_eq_some_key_kind found

/-- What is under a key, if nothing else is. -/
theorem lookup_eq_some_iff_mem {α β : Type} [BEq α] [LawfulBEq α] {rows : List (α × β)}
    (distinct : (rows.map Prod.fst).Nodup) {key : α} {value : β} :
    rows.lookup key = some value ↔ (key, value) ∈ rows := by
  induction rows with
  | nil => simp
  | cons row rows inductionHypothesis =>
    obtain ⟨own, first⟩ := row
    obtain ⟨fresh, distinct⟩ := List.nodup_cons.mp distinct
    rw [List.lookup_cons, List.mem_cons]
    cases same : key == own with
    | true =>
      obtain rfl := eq_of_beq same
      refine ⟨fun found => ?_, fun either => ?_⟩
      · rw [Option.some.inj found]
        exact .inl rfl
      · rcases either with found | later
        · rw [(Prod.mk.inj found).2]
        · exact absurd (List.mem_map_of_mem later) fresh
    | false =>
      rw [inductionHypothesis distinct]
      refine ⟨.inr, fun either => either.resolve_left ?_⟩
      rintro ⟨⟩
      simp at same

namespace Requests

/-! ## Several replies -/

/-- Replies come in one after another, each under its key. -/
def deliverAll (requests : Requests) (replies : List (RequestKey × Reply)) : Requests :=
  replies.foldl (fun requests answer => requests.deliver answer.1 answer.2) requests

/-- The request with what it has got, if it waits and there is a reply under its key. -/
def answeredBy (replies : List (RequestKey × Reply)) (request : Request) : Request :=
  match replies.lookup request.key with
  | some reply =>
    if request.standing.isWaiting = true then { request with standing := .answered reply }
    else request
  | none => request

/-- The requests in flight under keys, in the order of the keys. -/
def owners (requests : Requests) (keys : List RequestKey) : List Nat :=
  keys.filterMap fun key => (requests.entryFor? key).map Entry.request

variable {requests : Requests}

/-- Replies take the entries under their keys away, and no others. -/
theorem deliverAll_inFlight (replies : List (RequestKey × Reply)) :
    (requests.deliverAll replies).inFlight =
      requests.inFlight.filter fun entry => entry.key ∉ replies.map Prod.fst := by
  induction replies generalizing requests with
  | nil => simp [deliverAll]
  | cons answer replies inductionHypothesis =>
    have later : (requests.deliverAll (answer :: replies)).inFlight = _ :=
      @inductionHypothesis (requests.deliver answer.1 answer.2)
    rw [later, deliver_inFlight, List.filter_filter]
    refine List.filter_congr fun entry _ => ?_
    simp only [List.map_cons, List.mem_cons, not_or, Bool.decide_and, bne, decide_not,
      beq_eq_decide]
    exact Bool.and_comm ..

theorem deliverAll_lanes (replies : List (RequestKey × Reply)) :
    (requests.deliverAll replies).lanes = requests.lanes := by
  induction replies generalizing requests with
  | nil => rfl
  | cons answer replies inductionHypothesis =>
    exact inductionHypothesis.trans (deliver_lanes ..)

theorem deliverAll_issued (replies : List (RequestKey × Reply)) :
    (requests.deliverAll replies).issued = requests.issued := by
  induction replies generalizing requests with
  | nil => rfl
  | cons answer replies inductionHypothesis =>
    exact inductionHypothesis.trans (deliver_issued ..)

/-- A reply under another key leaves the entry of a key. -/
theorem entryFor?_deliver_of_ne {key other : RequestKey} (different : other ≠ key) (reply : Reply) :
    (requests.deliver key reply).entryFor? other = requests.entryFor? other := by
  have same : ((requests.deliver key reply).entryFor? other) =
      (requests.clear key).entryFor? other := by
    rw [entryFor?, entryFor?, deliver_inFlight, clear]
  rw [same, entryFor?_clear_of_ne requests different]

/-- Who was in flight under the keys is to run, in their order, if no key comes twice. -/
theorem deliverAll_ready {replies : List (RequestKey × Reply)}
    (distinct : (replies.map Prod.fst).Nodup) :
    (requests.deliverAll replies).ready =
      requests.ready ++ requests.owners (replies.map Prod.fst) := by
  induction replies generalizing requests with
  | nil => simp [deliverAll, owners]
  | cons answer replies inductionHypothesis =>
    obtain ⟨key, reply⟩ := answer
    obtain ⟨fresh, distinct⟩ := List.nodup_cons.mp distinct
    have first : (requests.deliver key reply).ready =
        requests.ready ++ ((requests.entryFor? key).map Entry.request).toList := by
      unfold deliver
      split
      · next nothing => simp [nothing]
      · next entry found => simp [found, wake, clear, place]
    have later : (requests.deliver key reply).owners (replies.map Prod.fst) =
        requests.owners (replies.map Prod.fst) := by
      refine List.filterMap_congr fun other member => ?_
      rw [entryFor?_deliver_of_ne (ne_of_mem_of_not_mem member fresh)]
    have whole : (requests.deliverAll ((key, reply) :: replies)).ready = _ :=
      @inductionHypothesis (requests.deliver key reply) distinct
    rw [whole, first, later, List.append_assoc, List.map_cons, owners, owners,
      List.filterMap_cons]
    cases (requests.entryFor? key).map Entry.request <;> rfl

/-- A request that does not wait gets nothing. -/
theorem answeredBy_of_not_waiting (replies : List (RequestKey × Reply)) {request : Request}
    (rests : request.standing.isWaiting = false) : answeredBy replies request = request := by
  unfold answeredBy
  split
  · exact if_neg (by simp [rests])
  · rfl

/-- A request gets nothing if there is no reply under its key. -/
theorem answeredBy_of_absent {replies : List (RequestKey × Reply)} {request : Request}
    (silent : request.key ∉ replies.map Prod.fst) : answeredBy replies request = request := by
  have nothing : replies.lookup request.key = none := by
    rw [List.lookup_eq_none_iff]
    intro answer member
    exact bne_iff_ne.mpr (ne_of_mem_of_not_mem (List.mem_map_of_mem member) silent).symm
  rw [answeredBy, nothing]

theorem answeredBy_cons (key : RequestKey) (reply : Reply) (replies : List (RequestKey × Reply))
    (request : Request) : answeredBy ((key, reply) :: replies) request =
      answeredBy replies (if request.key = key ∧ request.standing.isWaiting = true then
        { request with standing := .answered reply } else request) := by
  by_cases own : request.key = key
  · have found : ((key, reply) :: replies).lookup request.key = some reply := by
      rw [List.lookup_cons, own, beq_self_eq_true]
    cases waits : request.standing.isWaiting with
    | false =>
      rw [if_neg (by simp), answeredBy_of_not_waiting _ waits, answeredBy_of_not_waiting _ waits]
    | true =>
      rw [if_pos ⟨own, rfl⟩, answeredBy_of_not_waiting replies (by rfl), answeredBy, found]
      exact if_pos waits
  · have passed : ((key, reply) :: replies).lookup request.key = replies.lookup request.key := by
      rw [List.lookup_cons, beq_eq_false_iff_ne.mpr own]
    rw [if_neg (fun both => own both.1), answeredBy, passed, answeredBy]

/-- A request that waits gets the first reply under its key. -/
theorem Sound.deliverAll_find? (sound : requests.Sound) {replies : List (RequestKey × Reply)}
    (fit : ∀ answer ∈ replies, answer.2.kind = answer.1.replyKind) (number : Nat) :
    (requests.deliverAll replies).find? number =
      (requests.find? number).map (answeredBy replies) := by
  induction replies generalizing requests with
  | nil => exact (Option.map_id_apply ..).symm
  | cons answer replies inductionHypothesis =>
    obtain ⟨key, reply⟩ := answer
    obtain ⟨fits, fit⟩ := List.forall_mem_cons.mp fit
    have later : (requests.deliverAll ((key, reply) :: replies)).find? number = _ :=
      inductionHypothesis (sound.deliver key reply) fit
    rw [later]
    change Option.map _ ((requests.deliver key reply).find? number) = _
    rw [sound.deliver_find? fits, Option.map_map]
    exact congrFun (congrArg Option.map (funext fun request =>
      (answeredBy_cons key reply replies request).symm)) _

/-- A request in flight has the first reply under its key. -/
theorem Sound.deliverAll_completes (sound : requests.Sound) {replies : List (RequestKey × Reply)}
    (fit : ∀ answer ∈ replies, answer.2.kind = answer.1.replyKind) {entry : Entry}
    (member : entry ∈ requests.inFlight) {reply : Reply}
    (comes : replies.lookup entry.key = some reply) :
    ∃ request, (requests.deliverAll replies).find? entry.request = some request ∧
      request.standing = .answered reply := by
  obtain ⟨request, _, found, sameKey, _, waits⟩ := (sound.entry_iff entry).mp member
  have answered : answeredBy replies request = { request with standing := .answered reply } := by
    rw [answeredBy, sameKey, comes]
    exact if_pos (by rw [waits]; rfl)
  refine ⟨{ request with standing := .answered reply }, ?_, rfl⟩
  rw [sound.deliverAll_find? fit, found, Option.map_some, answered]

/-- A request is as it was, if it is not in flight under a key of a reply. -/
theorem Sound.deliverAll_others (sound : requests.Sound) {replies : List (RequestKey × Reply)}
    (fit : ∀ answer ∈ replies, answer.2.kind = answer.1.replyKind) {number : Nat}
    (untouched : ∀ entry ∈ requests.inFlight, entry.request = number →
      entry.key ∉ replies.map Prod.fst) :
    (requests.deliverAll replies).find? number = requests.find? number := by
  rw [sound.deliverAll_find? fit]
  cases found : requests.find? number with
  | none => rfl
  | some request =>
    rw [Option.map_some]
    congr 1
    cases standing : request.standing with
    | waiting generation sentAt =>
      exact answeredBy_of_absent (untouched _ (sound.entry_of_waiting found standing) rfl)
    | _ => exact answeredBy_of_not_waiting _ (by rw [standing]; rfl)

/-! ## Tables that differ in the order of what is to run -/

/-- Two tables hold the same, but for the order in which requests are to run. -/
structure Alike (requests other : Requests) : Prop where
  issued : requests.issued = other.issued
  found : ∀ number, requests.find? number = other.find? number
  inFlight : requests.inFlight = other.inFlight
  lanes : requests.lanes = other.lanes
  ready : requests.ready.Perm other.ready

/-- Requests stay sound when replies are delivered. -/
theorem Sound.deliverAll (sound : requests.Sound) (replies : List (RequestKey × Reply)) :
    (requests.deliverAll replies).Sound := by
  induction replies generalizing requests with
  | nil => exact sound
  | cons answer replies inductionHypothesis =>
    exact inductionHypothesis (sound.deliver answer.1 answer.2)

/-- A reply finds nothing once a reply under its key has come. -/
theorem deliverAll_again {replies : List (RequestKey × Reply)} {answer : RequestKey × Reply}
    (member : answer ∈ replies) :
    requests.deliverAll (replies ++ [answer]) = requests.deliverAll replies := by
  have nothing : (requests.deliverAll replies).entryFor? answer.1 = none := by
    refine entryFor?_eq_none_iff.mpr fun entry there same => ?_
    rw [deliverAll_inFlight, List.mem_filter, same] at there
    exact of_decide_eq_true there.2 (List.mem_map_of_mem member)
  have last : requests.deliverAll (replies ++ [answer]) =
      (requests.deliverAll replies).deliver answer.1 answer.2 := List.foldl_append
  rw [last, deliver, nothing]

/-- Replies under different keys may come in any order. -/
theorem Sound.deliverAll_alike (sound : requests.Sound) {replies others : List (RequestKey × Reply)}
    (fit : ∀ answer ∈ replies, answer.2.kind = answer.1.replyKind) (same : replies.Perm others)
    (distinct : (replies.map Prod.fst).Nodup) :
    (requests.deliverAll replies).Alike (requests.deliverAll others) := by
  have keys := same.map Prod.fst
  have distinctToo := keys.nodup_iff.mp distinct
  refine ⟨?_, fun number => ?_, ?_, ?_, ?_⟩
  · rw [deliverAll_issued, deliverAll_issued]
  · rw [sound.deliverAll_find? fit, sound.deliverAll_find? fun answer member =>
      fit answer (same.mem_iff.mpr member)]
    refine congrFun (congrArg Option.map (funext fun request => ?_)) _
    have found : replies.lookup request.key = others.lookup request.key := by
      refine Option.ext fun reply => ?_
      rw [lookup_eq_some_iff_mem distinct, lookup_eq_some_iff_mem distinctToo, same.mem_iff]
    rw [answeredBy, answeredBy, found]
  · rw [deliverAll_inFlight, deliverAll_inFlight]
    exact List.filter_congr fun entry _ => decide_eq_decide.mpr (not_congr keys.mem_iff)
  · rw [deliverAll_lanes, deliverAll_lanes]
  · rw [deliverAll_ready distinct, deliverAll_ready distinctToo]
    exact (keys.filterMap _).append_left _

end Requests

/-- The replies in messages, each under its key. -/
def repliesIn (messages : List Bytes) : List (RequestKey × Reply) :=
  messages.filterMap replyIn

theorem repliesIn_append (messages later : List Bytes) :
    repliesIn (messages ++ later) = repliesIn messages ++ repliesIn later :=
  List.filterMap_append

theorem repliesIn_singleton (octets : Bytes) : repliesIn [octets] = (replyIn octets).toList := by
  rw [repliesIn, List.filterMap_cons]
  cases replyIn octets <;> rfl

/-- Each reply fits the key that it comes under. -/
theorem repliesIn_fit {messages : List Bytes} {answer : RequestKey × Reply}
    (member : answer ∈ repliesIn messages) : answer.2.kind = answer.1.replyKind := by
  obtain ⟨octets, _, replies⟩ := List.mem_filterMap.mp member
  exact replyKind_of_replyIn replies

namespace Client

variable {verdicts : Verdicts} {config : Config} {client after : Client}

/-! ## One message after another -/

/-- The reply in a message goes to the table of requests. -/
theorem Lands.delivers {octets : Bytes} {events : List Event}
    (lands : Lands verdicts client octets events after) :
    after.requests = client.requests.deliverAll (repliesIn [octets]) := by
  rw [lands.requests]
  cases decoded : Inbound.decode octets with
  | error failure =>
    have none : replyIn octets = none := by
      rw [replyIn, decoded]
      rfl
    rw [repliesIn_singleton, none]
    rfl
  | ok frame =>
    dsimp only
    rw [repliesIn_singleton, replyIn_of_ok decoded]
    unfold Requests.afterFrame
    cases frame.reply? <;> rfl

/-- All that messages change, if they land one after another. -/
theorem LandInTurn.same {messages : List Bytes} {events : List Event}
    (land : LandInTurn verdicts client messages events after) : after =
      { client with
        trace := after.trace
        requests := client.requests.deliverAll (repliesIn messages) } := by
  induction land with
  | nothing => rfl
  | @next client middle after octets later _ _ lands _ inductionHypothesis =>
    have both : (client.requests.deliverAll (repliesIn [octets])).deliverAll (repliesIn later) =
        client.requests.deliverAll (repliesIn (octets :: later)) := by
      rw [show repliesIn (octets :: later) = repliesIn [octets] ++ repliesIn later from
        repliesIn_append [octets] later]
      exact List.foldl_append.symm
    rw [inductionHypothesis, lands.delivers, ← both, lands.same]

/-- A client stays sound as replies go to its table of requests. -/
theorem Sound.answered (sound : client.Sound) (trace : List Event)
    (replies : List (RequestKey × Reply))
    (fit : ∀ answer ∈ replies, answer.2.kind = answer.1.replyKind) :
    Sound { client with trace, requests := client.requests.deliverAll replies } where
  requests := sound.requests.deliverAll replies
  link := sound.link
  handlers := sound.handlers
  calls := sound.calls
  released unheld := by
    obtain ⟨closed, silent, nobody⟩ := sound.released unheld
    refine ⟨closed, silent, fun number => ?_⟩
    change (client.requests.deliverAll replies).find? number = none
    rw [sound.requests.deliverAll_find? fit, nobody, Option.map_none]

/-- Messages add to what was done, and their replies go to the table of requests. -/
theorem dispatchAll_eq (sound : client.Sound) (messages : List Bytes) :
    client.dispatchAll verdicts messages =
      { client with
        trace := (client.dispatchAll verdicts messages).trace
        requests := client.requests.deliverAll (repliesIn messages) } := by
  obtain ⟨later, chain, custom⟩ := sound.handlers
  obtain ⟨_, land⟩ := dispatchAll_lands messages chain custom
  exact land.same

/-- A client stays sound when messages come in. -/
theorem Sound.dispatchAll (sound : client.Sound) (messages : List Bytes) :
    (client.dispatchAll verdicts messages).Sound := by
  rw [dispatchAll_eq sound]
  exact sound.answered _ _ fun _ => repliesIn_fit

/-- What is done with handlers that go by tags is what the client itself does. -/
theorem dispatchBy_byTag : dispatchBy .byTag = dispatch := by
  funext client octets
  unfold dispatchBy
  split
  · next frame offered => rw [dispatch_of_handlers offered, offerBy_byTag]
  · rfl

/-! ## The order of messages -/

/-- What messages with replies do, and that their order does nothing. -/
structure OrderFree (verdicts : Verdicts) (client : Client) : Prop where
  /-- With handlers that go by tags, this is what the client itself does. -/
  own : verdicts = .byTag → ∀ messages,
    client.dispatchAll verdicts messages = messages.foldl dispatch client
  /-- It does so with messages that come in on running sockets. -/
  arrive : ∀ {messages : List (Nat × Bytes)}, client.isHeld = true →
    (∀ message ∈ messages, client.link.stage? message.1 = some .running) →
      client.runBy verdicts (arrivals messages) = client.dispatchAll verdicts (messages.map (·.2))
  /-- The table of requests is all that changes, beside what was done. -/
  same : ∀ messages, client.dispatchAll verdicts messages =
    { client with
      trace := (client.dispatchAll verdicts messages).trace
      requests := (client.dispatchAll verdicts messages).requests }
  /-- A request in flight has the first reply under its key, and learns it when it runs. -/
  completed : ∀ {messages entry reply}, entry ∈ client.requests.inFlight →
    (repliesIn messages).lookup entry.key = some reply →
      ((client.dispatchAll verdicts messages).requests.find? entry.request).map Request.standing =
          some (.answered reply) ∧
        .answered entry.request (.ok reply) ∈
          ((client.dispatchAll verdicts messages).step (.poll entry.request)).trace
  /-- Every other request is as it was. -/
  others : ∀ {messages number}, (∀ entry ∈ client.requests.inFlight, entry.request = number →
    entry.key ∉ (repliesIn messages).map Prod.fst) →
      (client.dispatchAll verdicts messages).requests.find? number = client.requests.find? number
  /-- The entries of the keys are gone, and no others. -/
  inFlight : ∀ messages, (client.dispatchAll verdicts messages).requests.inFlight =
    client.requests.inFlight.filter fun entry => entry.key ∉ (repliesIn messages).map Prod.fst
  /-- If no key comes twice, the messages leave the same in any order. -/
  alike : ∀ {messages others : List Bytes}, messages.Perm others →
    ((repliesIn messages).map Prod.fst).Nodup →
      (client.dispatchAll verdicts messages).requests.Alike
        (client.dispatchAll verdicts others).requests
  /-- A reply that comes again does nothing, at once or later. -/
  again : ∀ {messages octets}, octets ∈ messages →
    (client.dispatchAll verdicts (messages ++ [octets])).requests =
      (client.dispatchAll verdicts messages).requests

/-- Replies under different keys may come in any order, among any other messages. -/
theorem replies_commute (reachable : Reachable config client) (verdicts : Verdicts) :
    OrderFree verdicts client := by
  have sound := reachable.sound
  obtain ⟨_, chain, custom⟩ := sound.handlers
  have delivered : ∀ messages, (client.dispatchAll verdicts messages).requests =
      client.requests.deliverAll (repliesIn messages) := by
    intro messages
    rw [dispatchAll_eq sound]
  refine
    { own := ?_
      arrive := fun held running => runBy_arrivals running held chain custom
      same := ?_
      completed := ?_
      others := ?_
      inFlight := ?_
      alike := ?_
      again := ?_ }
  · rintro rfl messages
    rw [dispatchAll, dispatchBy_byTag]
  · intro messages
    rw [delivered]
    exact dispatchAll_eq sound messages
  · intro messages entry reply member comes
    obtain ⟨request, found, answered⟩ :=
      sound.requests.deliverAll_completes (fun _ => repliesIn_fit) member comes
    rw [← delivered] at found
    exact ⟨by rw [found, Option.map_some, answered],
      step_poll_answered (sound.dispatchAll messages) found answered⟩
  · intro messages number untouched
    rw [delivered]
    exact sound.requests.deliverAll_others (fun _ => repliesIn_fit) untouched
  · intro messages
    rw [delivered, Requests.deliverAll_inFlight]
  · intro messages others same distinct
    rw [delivered, delivered]
    exact sound.requests.deliverAll_alike (fun _ => repliesIn_fit) (same.filterMap _) distinct
  · intro messages octets member
    rw [delivered, delivered, repliesIn_append, repliesIn_singleton]
    cases replies : replyIn octets with
    | none => rw [Option.toList_none, List.append_nil]
    | some answer =>
      exact Requests.deliverAll_again (List.mem_filterMap.mpr ⟨octets, member, replies⟩)

/-- Two pieces of a file answer their requests, whichever comes first, and what answers nobody may come
in between. -/
theorem replies_commute_of_two :
    let client := (Client.initial .loopback).run [.connect, .settle 1 .accepted, .resolve 1,
      .start (.read "a" 0) none, .start (.read "a" 4) none]
    let messages := [Inbound.fileChunk "a" ⟨4, [0x02]⟩, .fileWritten "a" 4,
      .fileChunk "a" ⟨0, [0x01]⟩].map Inbound.encode
    (client.dispatchAll .byTag messages).requests.Alike
        (client.dispatchAll .byTag messages.reverse).requests ∧
      .answered 0 (.ok (.chunk ⟨0, [0x01]⟩)) ∈
        ((client.dispatchAll .byTag messages).step (.poll 0)).trace ∧
      .answered 1 (.ok (.chunk ⟨4, [0x02]⟩)) ∈
        ((client.dispatchAll .byTag messages.reverse).step (.poll 1)).trace := by
  intro client messages
  have reachable : Reachable .loopback client := Reachable.initial.run _
  have inFlight : client.requests.inFlight =
      [⟨.read "a" 0, 1, 0, .chunk⟩, ⟨.read "a" 4, 1, 1, .chunk⟩] := by decide
  have replies : repliesIn messages =
      [(.read "a" 4, .chunk ⟨4, [0x02]⟩), (.write "a" 4, .written),
        (.read "a" 0, .chunk ⟨0, [0x01]⟩)] := by decide +kernel
  have backwards : repliesIn messages.reverse = (repliesIn messages).reverse :=
    List.filterMap_reverse
  obtain ⟨_, _, _, completed, _, _, alike, _⟩ := replies_commute reachable .byTag
  refine ⟨alike messages.reverse_perm.symm (by rw [replies]; decide), ?_, ?_⟩
  · exact (completed (by rw [inFlight]; exact List.mem_cons_self) (by rw [replies]; rfl)).2
  · refine (completed (by rw [inFlight]; exact List.mem_cons_of_mem _ List.mem_cons_self) ?_).2
    rw [backwards, replies]
    rfl

end Client

end RemoteAgent
