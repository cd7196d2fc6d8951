import RemoteAgent.Frame.Inbound
import RemoteAgent.Frame.Outbound

/-!
# Files of an agent

An agent that serves files answers requests for them: it tells their metadata, reads
pieces, writes pieces and cuts. Files grow by zeros where a write or a cut leaves a gap.
-/

namespace RemoteAgent

/-- Files by their paths; the first one of a path counts. -/
abbrev Files := List (String × Bytes)

namespace Files

/-- The contents of a file. -/
def contents? (files : Files) (path : String) : Option Bytes := files.lookup path

/-- Sets the contents of a file. -/
def put (files : Files) (path : String) (contents : Bytes) : Files :=
  (path, contents) :: files.filter (·.1 != path)

/-- Every file once, ordered by path. -/
def sorted (files : Files) : Files := files.mergeSort fun first later => decide (first.1 ≤ later.1)

/-- Contents cut, or filled up with zeros, to a length. -/
def resized (contents : Bytes) (length : Nat) : Bytes :=
  contents.take length ++ List.replicate (length - contents.length) 0

/-- Contents with a chunk written into them. An empty chunk cuts them at its offset. -/
def written (contents : Bytes) (chunk : Chunk) : Bytes :=
  let start := chunk.offset.toNat
  if chunk.data.isEmpty then resized contents start
  else
    resized contents start ++ chunk.data ++ contents.drop (start + chunk.data.length)

/-- The octets that a reader gets at an offset. -/
def excerpt (contents : Bytes) (offset maxLength : Nat) : Bytes :=
  (contents.drop offset).take maxLength

/-- The permissions of every served file. -/
def servedMode : UInt32 := 0o644

/-- When every served file last changed. -/
def servedAt : Int64 := 1700000000

/-- The answer to a request, and the files after it. -/
def serve (files : Files) : Outbound → Files × Option Inbound
  | .queryFile path =>
    (files, some (match files.contents? path with
      | some contents => .fileInfo ⟨path, UInt64.ofNat contents.length, servedMode, servedAt⟩
      | none => .log ("stat " ++ path ++ ": no such file or directory")))
  | .readChunk path offset maxLength =>
    (files, some (match files.contents? path with
      | some contents =>
        .fileChunk path ⟨offset.toUInt64, excerpt contents offset.toInt.toNat maxLength.toNat⟩
      | none => .log ("open " ++ path ++ ": no such file or directory")))
  | .writeChunk path chunk =>
    (files.put path (written ((files.contents? path).getD []) chunk),
      some (.fileWritten path chunk.offset))
  | _ => (files, none)

end Files

end RemoteAgent
