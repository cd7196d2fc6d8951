import RemoteAgent.Request.Reply

/-!
# Handlers

Frames that the connection does not deal with itself are offered to handlers in the order
of their registration, until one of them claims the frame. The file service is always the
first one.
-/

namespace RemoteAgent

/-- The frames that a handler claims. -/
inductive Claims where
  /-- All of them. -/
  | every
  /-- Those with one of the tags. -/
  | tagged (tags : List UInt8)
  deriving DecidableEq, Repr

/-- Whether a tag is claimed. -/
def Claims.covers : Claims → UInt8 → Bool
  | every, _ => true
  | tagged tags, tag => tags.contains tag

/-- One handler in the chain. -/
inductive Handler where
  /-- The file service. -/
  | fileService
  /-- A handler of the caller's. Some of them want to hear when a socket is gone. -/
  | custom (name : String) (claims : Claims) (hearsDisconnects : Bool)
  deriving DecidableEq, Repr

/-- Whether a handler claims a frame. The file service claims every reply, expected or not. -/
def Handler.claims : Handler → Inbound → Bool
  | fileService, frame => frame.reply?.isSome
  | custom _ claims _, frame => claims.covers frame.tag

end RemoteAgent
