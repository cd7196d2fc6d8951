/-!
# Kinds of frames

The first octet of every frame is its tag. Frames to the agent and frames from the agent
have separate tables of tags that share numbers. `ofTag?_eq_some_iff` says for both that
the table and its inverse agree.
-/

namespace RemoteAgent

/-- The kinds of frames to the agent. -/
inductive OutboundKind where
  /-- Octets for the terminal. -/
  | terminalInput
  /-- Opens the terminal. -/
  | openTerminal
  /-- Closes the terminal. -/
  | closeTerminal
  /-- Resizes the terminal. -/
  | resizeTerminal
  /-- Writes into a file, or cuts it. -/
  | writeChunk
  /-- Asks for the metadata of a file. -/
  | queryFile
  /-- Reads from a file. -/
  | readChunk
  deriving DecidableEq, Repr

namespace OutboundKind

/-- The tag of a kind. -/
def tag : OutboundKind → UInt8
  | terminalInput => 0x00
  | openTerminal => 0x01
  | closeTerminal => 0x02
  | resizeTerminal => 0x03
  | writeChunk => 0x10
  | queryFile => 0x11
  | readChunk => 0x12

/-- Every kind. -/
def all : List OutboundKind :=
  [terminalInput, openTerminal, closeTerminal, resizeTerminal, writeChunk, queryFile, readChunk]

/-- The kind of a tag. -/
def ofTag? (octet : UInt8) : Option OutboundKind := all.find? fun kind => kind.tag == octet

/-- The name that diagnostics give a kind. -/
def name : OutboundKind → String
  | terminalInput => "PtyWrite"
  | openTerminal => "PtyOpen"
  | closeTerminal => "PtyClose"
  | resizeTerminal => "PtyResize"
  | writeChunk => "FileWriteOrTruncate"
  | queryFile => "FileQueryInfo"
  | readChunk => "FileRead"

theorem ofTag?_eq_some_iff {octet : UInt8} {kind : OutboundKind} :
    ofTag? octet = some kind ↔ octet = kind.tag := by
  constructor
  · intro found
    have same := List.find?_some found
    simpa using (eq_of_beq same).symm
  · rintro rfl
    cases kind <;> rfl

end OutboundKind

/-- The kinds of frames from the agent. -/
inductive InboundKind where
  /-- Output of the terminal. -/
  | terminalOutput
  /-- The terminal is open. -/
  | terminalOpened
  /-- The terminal is closed; the connection stays. -/
  | terminalClosed
  /-- A write or a cut is done. -/
  | fileWritten
  /-- Metadata of a file. -/
  | fileInfo
  /-- Contents of a file. -/
  | fileChunk
  /-- Diagnostic text. -/
  | log
  deriving DecidableEq, Repr

namespace InboundKind

/-- The tag of a kind. -/
def tag : InboundKind → UInt8
  | terminalOutput => 0x00
  | terminalOpened => 0x01
  | terminalClosed => 0x02
  | fileWritten => 0x10
  | fileInfo => 0x11
  | fileChunk => 0x12
  | log => 0xFF

/-- Every kind. -/
def all : List InboundKind :=
  [terminalOutput, terminalOpened, terminalClosed, fileWritten, fileInfo, fileChunk, log]

/-- The kind of a tag. -/
def ofTag? (octet : UInt8) : Option InboundKind := all.find? fun kind => kind.tag == octet

/-- The name that diagnostics give a kind. -/
def name : InboundKind → String
  | terminalOutput => "PtyData"
  | terminalOpened => "PtyOpened"
  | terminalClosed => "PtyClosed"
  | fileWritten => "FileWritten"
  | fileInfo => "FileInfo"
  | fileChunk => "FileChunkRead"
  | log => "Log"

/-- The connection itself deals with frames of this kind and offers them to no handler. -/
def isTerminal : InboundKind → Bool
  | terminalOutput | terminalOpened | terminalClosed | log => true
  | fileWritten | fileInfo | fileChunk => false

theorem ofTag?_eq_some_iff {octet : UInt8} {kind : InboundKind} :
    ofTag? octet = some kind ↔ octet = kind.tag := by
  constructor
  · intro found
    have same := List.find?_some found
    simpa using (eq_of_beq same).symm
  · rintro rfl
    cases kind <;> rfl

end InboundKind

end RemoteAgent
