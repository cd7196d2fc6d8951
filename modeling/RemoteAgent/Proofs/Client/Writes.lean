import RemoteAgent.Proofs.Client.Heard
import RemoteAgent.Proofs.Transfer.Writes

/-!
# Uploads against any replies

An upload of a client that was put together from a draft writes one piece after the other, each after
the acknowledgement of the one before under its own key, whatever other calls do meanwhile
(`upload_writes`).
-/

namespace RemoteAgent

/-- A checked configuration has room for octets in a piece, so that data can be cut into pieces. -/
theorem Draft.chunkSize_pos {draft : Draft} {idna : Url.Idna} {config : Config}
    (checked : draft.check idna = .ok config) : 0 < config.chunkSize := by
  unfold check at checked
  cases agent : draft.agentName with
  | error failure => simp [agent, bind, Except.bind] at checked
  | ok name =>
    cases url : draft.socketUrl idna name with
    | error failure => simp [agent, url, bind, Except.bind] at checked
    | ok socketUrl =>
      simp only [agent, url, bind, Except.bind] at checked
      split at checked
      · cases checked
      · next some =>
        split at checked
        · cases checked
        · cases checked
          exact UInt64.pos_iff_ne_zero.mpr some

/-- A request without a reply has none in the transcript. -/
theorem Unanswered.reply?_eq_none {want : Want} {progress : List Progress} {rest : List Line}
    (unanswered : Unanswered want progress rest) : ∀ line ∈ rest, line.reply? = none := by
  intro line member
  cases line with
  | hears outcome =>
    cases outcome with
    | error failure => rfl
    | ok reply => exact absurd member (unanswered.not_hears reply)
  | _ => rfl

namespace Client

open Upload

/-- What a run tells of an upload with so many of its writes acknowledged. -/
structure Uploads (config : Config) (actions : List Action) (number : Nat) (path : String)
    (receipt : Receipt) (data : Bytes) (count : Nat) : Prop where
  /-- What there is to write is the data, each octet once. -/
  whole : Chunk.joined (Upload.writes config.chunkSize data) = data
  written : Written config.chunkSize path receipt data count
    (transcript number ((Client.initial config).run actions).trace)
  /-- Each acknowledgement came in under the key of its own write, which waited for it. -/
  came : ∀ piece ∈ (Upload.writes config.chunkSize data).take count,
    Comes config actions number (.write path piece.offset) .written
  /-- An upload under way has reported each slice that is acknowledged, and not the cut. -/
  reported : ∀ call ∈ ((Client.initial config).run actions).calls, call.number = number →
    call.progress = (reports config.chunkSize data).take (count - 1)

/-- The replies to writes that are acknowledged are to these writes. -/
theorem replies_of_written {chunkSize : UInt64} {path : String} {receipt : Receipt} {data : Bytes}
    {count : Nat} {lines : List Line} (written : Written chunkSize path receipt data count lines)
    {piece : Chunk} (member : piece ∈ (Upload.writes chunkSize data).take count) :
    (.write path piece.offset, .written) ∈ repliesOf lines := by
  obtain ⟨rest, rfl, ensues⟩ := written.talk
  have silent : rest.filterMap Line.reply? = [] := by
    rw [List.filterMap_eq_nil_iff]
    cases ensues with
    | unanswered next unanswered => exact unanswered.reply?_eq_none
    | whole all => simp [Line.reply?]
  rw [repliesOf_append silent (by simp [keys_of_exchanges, replies_of_exchanges]),
    repliesOf_exchanges, acknowledged, List.map_map]
  exact List.mem_map_of_mem member

/-- Whatever replies come in, an upload cuts the file to the length of the data first, and then writes
one slice after the other, each when the write before it is acknowledged. It ends with the first write
that fails, or succeeds as soon as all are acknowledged, and it reports progress with each slice. -/
theorem upload_writes {draft : Draft} {idna : Url.Idna} {config : Config}
    (checked : draft.check idna = .ok config) (actions : List Action) {number : Nat}
    {operation : Operation} {path : String} {receipt : Receipt} {data : Bytes}
    (begins : Transfer.begin operation = .go (.cutting path receipt data))
    (started : .started number operation ∈ ((Client.initial config).run actions).trace) :
    ∃ count, Uploads config actions number path receipt data count := by
  have positive := draft.chunkSize_pos checked
  have reachable : Reachable config ((Client.initial config).run actions) :=
    Reachable.initial.run actions
  obtain ⟨stage, resting, unfolds, waits⟩ := reachable.unfolds started
  obtain ⟨count, written, reported⟩ := written_of_unfolds positive begins unfolds resting
  refine ⟨count, joined_writes positive data, written, ?_, ?_⟩
  · intro piece member
    exact (replies_come config actions number).each _ (replies_of_written written member)
  · intro call member own
    obtain ⟨isSent, rfl⟩ := waits call member own
    exact (reported _ _ _ rfl).1

/-- A draft with pieces of four octets. -/
def smallPieces : Draft where
  endpoint := some "ws://localhost"
  apiKey := some "key"
  agent := some "box"
  chunkSize := 4

/-- The configuration that it makes. -/
def smallPiecesChecked : Config where
  url := {
    scheme := "ws"
    host := .name "localhost"
    path := ["api", "agent", "box", "omni", ""]
    query := some "api_key=key" }
  agent := "box"
  agentId := none
  connectTimeout := defaultConnectTimeout
  requestTimeout := some defaultRequestTimeout
  chunkSize := 4

theorem check_smallPieces : smallPieces.check (.ofList []) = .ok smallPiecesChecked := by
  have checked : (smallPieces.check (.ofList [])).toOption = some smallPiecesChecked := by
    decide +kernel
  cases found : smallPieces.check (.ofList []) with
  | error failure => rw [found] at checked; cases checked
  | ok config => rw [found] at checked; cases checked; rfl

/-- Of five octets, four are written, and the upload waits for the last one. -/
theorem upload_writes_of_five :
    let actions : List Action := [.connect, .settle 1 .accepted, .resolve 1,
      .start (.upload "a" [1, 2, 3, 4, 5]) none,
      .receive 1 (.binary (Inbound.fileWritten "a" 5).encode), .poll 0,
      .receive 1 (.binary (Inbound.fileWritten "a" 0).encode), .poll 1]
    transcript 1 ((Client.initial smallPiecesChecked).run actions).trace =
        exchanges (acknowledged "a" [⟨5, []⟩, ⟨0, [1, 2, 3, 4]⟩]) ++
          (Want.write "a" ⟨4, [5]⟩).told true ∧
      Uploads smallPiecesChecked actions 1 "a" .plain [1, 2, 3, 4, 5] 2 := by
  intro actions
  have cut : Inbound.decode (Inbound.fileWritten "a" 5).encode = .ok (.fileWritten "a" 5) :=
    Inbound.decode_encode_fileWritten "a" 5
  have slice : Inbound.decode (Inbound.fileWritten "a" 0).encode = .ok (.fileWritten "a" 0) :=
    Inbound.decode_encode_fileWritten "a" 0
  have reached : ∀ count, Reachable smallPiecesChecked
      ((Client.initial smallPiecesChecked).run (actions.take count)) :=
    fun _ => Reachable.initial.run _
  -- No evaluation opens the recursion that reads frames, so each reply is taken in by the lemma.
  have told : (Client.initial smallPiecesChecked).run (actions.take 5) = _ :=
    @step_receive_reply _ (reached 4).sound rfl 1 _ _ _ _ _ rfl rfl cut rfl
  have asked : (Client.initial smallPiecesChecked).run (actions.take 6) = _ :=
    congrArg (Client.step · (.poll 0)) told
  have received : (Client.initial smallPiecesChecked).run (actions.take 7) = _ :=
    @step_receive_reply _ (reached 6).sound (by rw [asked]; rfl) 1 _ _ _ _ _ (by rw [asked]; rfl) rfl
      slice rfl
  rw [asked] at received
  have askedAgain : (Client.initial smallPiecesChecked).run actions = _ :=
    congrArg (Client.step · (.poll 1)) received
  have early : .started 1 (.upload "a" [1, 2, 3, 4, 5]) ∈
      ((Client.initial smallPiecesChecked).run (actions.take 4)).trace :=
    .tail _ (.tail _ (.tail _ (.head _)))
  have started : .started 1 (.upload "a" [1, 2, 3, 4, 5]) ∈
      ((Client.initial smallPiecesChecked).run actions).trace := by
    rw [← List.take_append_drop 4 actions, run_append]
    exact run_remembers (reached 4).sound _ early
  have lines : transcript 1 ((Client.initial smallPiecesChecked).run actions).trace =
      exchanges (acknowledged "a" [⟨5, []⟩, ⟨0, [1, 2, 3, 4]⟩]) ++
        (Want.write "a" ⟨4, [5]⟩).told true := by
    rw [askedAgain]
    decide +kernel
  obtain ⟨count, uploads⟩ := upload_writes check_smallPieces actions rfl started
  have counted := uploads.written.heard
  rw [lines] at counted
  obtain rfl : count = 2 := counted.symm.trans (by decide +kernel)
  exact ⟨lines, uploads⟩

end Client

end RemoteAgent
