import RemoteAgent.Failure
import RemoteAgent.Request.Reply
import RemoteAgent.Transfer.Progress

/-!
# Transfers

A transfer is a course of requests, each made only after the reply to the one before. A
download asks for the metadata first and then for one piece after the other, up to the
size that the metadata tell or to an empty piece. An upload cuts the file to the length
of the new contents first and then writes one piece after the other.
-/

namespace RemoteAgent

/-- Where the contents of a download go. -/
inductive Destination where
  /-- To the caller. -/
  | caller
  /-- To a local file, whose directory may be missing. -/
  | localFile (directoryExists : Bool)
  deriving DecidableEq, Repr

/-- What a caller learns from an upload. -/
inductive Receipt where
  /-- That it is done. -/
  | plain
  /-- How many octets there were. -/
  | size
  deriving DecidableEq, Repr

/-- A file operation that a caller asks for. -/
inductive Operation where
  /-- Asks for the metadata of a file. -/
  | query (path : String)
  /-- Reads one piece. -/
  | read (path : String) (offset : UInt64)
  /-- Writes one piece. -/
  | write (path : String) (chunk : Chunk)
  /-- Reads the whole file. -/
  | download (path : String) (destination : Destination)
  /-- Writes the whole file. -/
  | upload (path : String) (data : Bytes)
  /-- Writes the whole file with the contents of a local file, which may be missing. -/
  | uploadFile (path : String) (contents : Option Bytes)
  deriving DecidableEq, Repr

/-- What a file operation delivers. -/
inductive Delivery where
  /-- Metadata. -/
  | info (info : FileInfo)
  /-- One piece. -/
  | chunk (chunk : Chunk)
  /-- That it is done. -/
  | done
  /-- The file. -/
  | file (file : DownloadedFile)
  /-- The metadata of a file whose contents went to a local file. -/
  | stored (file : DownloadedFile)
  /-- The number of octets sent. -/
  | size (count : Nat)
  deriving DecidableEq, Repr

/-- A transfer, known by the request whose reply it waits for. -/
inductive Transfer where
  /-- The metadata that are the whole operation. -/
  | querying (path : String)
  /-- The piece that is the whole operation. -/
  | reading (path : String) (offset : UInt64)
  /-- The write that is the whole operation. -/
  | writing (path : String) (chunk : Chunk)
  /-- The metadata before a download. -/
  | sizing (path : String) (destination : Destination)
  /-- The piece behind what a download has received. -/
  | receiving (path : String) (destination : Destination) (info : FileInfo) (received : Bytes)
      (offset : UInt64)
  /-- The cut before an upload. -/
  | cutting (path : String) (receipt : Receipt) (data : Bytes)
  /-- The write of the first piece of what an upload has left. -/
  | sending (path : String) (receipt : Receipt) (total offset : UInt64) (remaining : Bytes)
  deriving DecidableEq, Repr

namespace Transfer

/-- What comes next. -/
inductive Turn where
  /-- The transfer is over. -/
  | stop (result : Except Failure Delivery)
  /-- It waits for another request. -/
  | go (transfer : Transfer)

/-- The length of octets in a word of 64 bits. -/
def count (data : Bytes) : UInt64 := UInt64.ofNat data.length

/-- The request whose reply a transfer waits for. -/
def wants (chunkSize : UInt64) : Transfer → Except Failure Want
  | querying path | sizing path _ => .ok (Want.info path)
  | reading path offset | receiving path _ _ _ offset => Want.read path offset chunkSize
  | writing path chunk => .ok (Want.write path chunk)
  | cutting path _ data => .ok (Want.write path ⟨count data, []⟩)
  | sending path _ _ offset remaining =>
    .ok (Want.write path ⟨offset, remaining.take chunkSize.toNat⟩)

/-- A downloaded file goes where it is wanted. -/
def store (file : DownloadedFile) : Destination → Except Failure Delivery
  | .caller => .ok (.file file)
  | .localFile true => .ok (.stored file)
  | .localFile false => .error (.system .noSuchFile)

/-- An upload is complete. -/
def acknowledge (total : UInt64) : Receipt → Delivery
  | .plain => .done
  | .size => .size total.toNat

/-- A download goes on while the metadata promise more. -/
def receive (path : String) (destination : Destination) (info : FileInfo) (received : Bytes)
    (offset : UInt64) : Turn :=
  if offset < info.size then .go (receiving path destination info received offset)
  else .stop (store ⟨info, received⟩ destination)

/-- An upload goes on while something is left. -/
def send (path : String) (receipt : Receipt) (total offset : UInt64) (remaining : Bytes) : Turn :=
  if remaining.isEmpty then .stop (.ok (acknowledge total receipt))
  else .go (sending path receipt total offset remaining)

/-- How an operation begins. -/
def begin : Operation → Turn
  | .query path => .go (querying path)
  | .read path offset => .go (reading path offset)
  | .write path chunk => .go (writing path chunk)
  | .download path destination => .go (sizing path destination)
  | .upload path data => .go (cutting path .plain data)
  | .uploadFile path (some data) => .go (cutting path .size data)
  | .uploadFile _ none => .stop (.error (.system .noSuchFile))

/-- How a transfer goes on with a reply, and the progress that it reports. Replies of another
kind than the transfer waits for end it; the table of requests lets none through. -/
def resume (chunkSize : UInt64) : Transfer → Reply → Option Progress × Turn
  | querying _, .info info => (none, .stop (.ok (.info info)))
  | reading _ _, .chunk chunk => (none, .stop (.ok (.chunk chunk)))
  | writing _ _, .written => (none, .stop (.ok .done))
  | sizing path destination, .info info => (none, receive path destination info [] 0)
  | receiving path destination info received offset, .chunk chunk =>
    if chunk.data.isEmpty then (none, .stop (store ⟨info, received⟩ destination))
    else
      let reached := offset + count chunk.data
      (some ⟨reached, info.size⟩,
        receive path destination info (received ++ chunk.data) reached)
  | cutting path receipt data, .written => (none, send path receipt (count data) 0 data)
  | sending path receipt total offset remaining, .written =>
    let reached := offset + count (remaining.take chunkSize.toNat)
    (some ⟨reached, total⟩,
      send path receipt total reached (remaining.drop chunkSize.toNat))
  | _, _ => (none, .stop (.error .connectionClosed))

/-- Every request of a transfer waits for the kind of reply that its key tells. -/
theorem awaits_of_wants {chunkSize : UInt64} {transfer : Transfer} {want : Want}
    (wanted : transfer.wants chunkSize = .ok want) : want.awaits = want.key.replyKind := by
  cases transfer with
  | querying path => cases wanted; rfl
  | reading path offset => exact Want.read_eq_ok_awaits wanted
  | writing path chunk => cases wanted; rfl
  | sizing path destination => cases wanted; rfl
  | receiving path destination info received offset => exact Want.read_eq_ok_awaits wanted
  | cutting path receipt data => cases wanted; rfl
  | sending path receipt total offset remaining => cases wanted; rfl

/-- What a transfer sends names the key under which it waits for the reply. -/
theorem key_of_wants {chunkSize : UInt64} {transfer : Transfer} {want : Want}
    (wanted : transfer.wants chunkSize = .ok want) : want.frame.key? = some want.key := by
  cases transfer with
  | reading path offset => exact Want.read_eq_ok_key wanted
  | receiving path destination info received offset => exact Want.read_eq_ok_key wanted
  | _ => cases wanted; rfl

end Transfer

end RemoteAgent
