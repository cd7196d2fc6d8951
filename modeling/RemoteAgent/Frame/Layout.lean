import RemoteAgent.Failure

/-!
# Parts of a frame

A frame is a tag and a payload. Where a payload has a fixed header, the header holds
numbers, and what follows is a path, or a path and data of a length that the header gives.
-/

namespace RemoteAgent.Layout

/-- How many octets a frame that carries file data has before its path. -/
def chunkHeaderLength : Nat := 17

/-- How many octets a frame that resizes the terminal has. -/
def resizeFrameLength : Nat := 5

/-- The tag and the payload of a frame. -/
def untag : Bytes → Except Failure (UInt8 × Bytes)
  | [] => .error (.protocol .emptyFrame)
  | tag :: payload => .ok (tag, payload)

/-- The header of `needed` octets and what follows it. -/
def header (kind : String) (needed : Nat) (payload : Bytes) : Except Failure (Bytes × Bytes) :=
  match payload.split needed with
  | some parts => .ok parts
  | none => .error (.protocol (.truncated kind needed payload.length))

/-- The path and the `length` octets of data behind it. -/
def trailing (kind : String) (length : Nat) (body : Bytes) : Except Failure (Bytes × Bytes) :=
  if length ≤ body.length then
    .ok (body.take (body.length - length), body.drop (body.length - length))
  else .error (.protocol (.overlong kind length body.length))

/-- A path. -/
def path (octets : Bytes) : Except Failure String :=
  match Utf8.decode octets with
  | .ok text => .ok text
  | .error fault => .error (.codec (.badPath fault))

/-- The number of `width` octets that stands at `position` of a header. -/
def field (header : Bytes) (position width : Nat) : Nat :=
  Bytes.ofLittleEndian ((header.drop position).take width)

/-- A record that fills a payload. -/
def record {α : Type} : Except MessagePack.Fault α → Except Failure α
  | .ok value => .ok value
  | .error fault => .error (.payload fault)

end RemoteAgent.Layout
