import RemoteAgent.MessagePack.Record

/-!
# What frames carry

Options for opening a terminal, the metadata of a remote file, and a piece of its contents.
Options and metadata travel as MessagePack records.
-/

namespace RemoteAgent

/-! ## Terminal options -/

/-- How the agent is to open a terminal. An empty command stands for the agent's shell. -/
structure TerminalOptions where
  command : String := ""
  arguments : List String := []
  /-- Extra variables, each as `NAME=value`. -/
  environment : List String := []
  /-- Whether the agent's own variables are kept. -/
  inheritsEnvironment : Bool := true
  deriving DecidableEq, Repr, Inhabited

namespace TerminalOptions

/-- The fields of the record, in writing order. -/
abbrev fields : List MessagePack.Field := [
  ⟨"cmd", .text, none⟩,
  ⟨"args", .texts, some []⟩,
  ⟨"env", .texts, some []⟩,
  ⟨"inherit_env", .boolean, some true⟩]

/-- The record that carries terminal options. -/
abbrev shape : MessagePack.Shape := ⟨"PtyOpenOptions", fields⟩

/-- Adds an argument. -/
def argument (options : TerminalOptions) (value : String) : TerminalOptions :=
  { options with arguments := options.arguments ++ [value] }

/-- Adds arguments in order. -/
def withArguments (options : TerminalOptions) (values : List String) : TerminalOptions :=
  { options with arguments := options.arguments ++ values }

/-- Adds a variable. -/
def variableOf (options : TerminalOptions) (name value : String) : TerminalOptions :=
  { options with environment := options.environment ++ [name ++ "=" ++ value] }

/-- Says whether the agent's own variables are kept. -/
def inheriting (options : TerminalOptions) (kept : Bool) : TerminalOptions :=
  { options with inheritsEnvironment := kept }

/-- The options as a record. -/
def encode (options : TerminalOptions) : Bytes :=
  shape.encode (options.command, options.arguments, options.environment,
    options.inheritsEnvironment, ())

/-- The options that a record holds. -/
def decode (bytes : Bytes) : Except MessagePack.Fault TerminalOptions :=
  match shape.decode bytes with
  | .ok (command, arguments, environment, inheritsEnvironment, ()) =>
    .ok ⟨command, arguments, environment, inheritsEnvironment⟩
  | .error fault => .error fault

/-- Options are what the values of their record are made into. -/
theorem decode_eq_map (bytes : Bytes) : decode bytes =
    (shape.decode bytes).map
      fun values => ⟨values.1, values.2.1, values.2.2.1, values.2.2.2.1⟩ := by
  rw [decode]
  cases shape.decode bytes <;> rfl

end TerminalOptions

/-! ## File metadata -/

/-- The metadata of a remote file. -/
structure FileInfo where
  /-- The path as it was asked for. -/
  path : String
  size : UInt64
  /-- Unix permission bits. -/
  mode : UInt32 := 0
  /-- When the file last changed, in Unix seconds. -/
  modifiedAt : Int64
  deriving DecidableEq, Repr

namespace FileInfo

/-- The fields of the record, in writing order. -/
abbrev fields : List MessagePack.Field := [
  ⟨"path", .text, none⟩,
  ⟨"size", .unsigned64, none⟩,
  ⟨"mode", .unsigned32, some 0⟩,
  ⟨"mtime", .signed64, none⟩]

/-- The record that carries file metadata. -/
abbrev shape : MessagePack.Shape := ⟨"FileInfo", fields⟩

/-- The metadata as a record. -/
def encode (info : FileInfo) : Bytes :=
  shape.encode (info.path, info.size, info.mode, info.modifiedAt, ())

/-- The metadata that a record holds. -/
def decode (bytes : Bytes) : Except MessagePack.Fault FileInfo :=
  match shape.decode bytes with
  | .ok (path, size, mode, modifiedAt, ()) => .ok ⟨path, size, mode, modifiedAt⟩
  | .error fault => .error fault

/-- Metadata are what the values of their record are made into. -/
theorem decode_eq_map (bytes : Bytes) : decode bytes =
    (shape.decode bytes).map
      fun values => ⟨values.1, values.2.1, values.2.2.1, values.2.2.2.1⟩ := by
  rw [decode]
  cases shape.decode bytes <;> rfl

/-- Whole seconds from 1970 to the last change, unless the file is older than that. -/
def modified (info : FileInfo) : Option Nat :=
  if 0 ≤ info.modifiedAt.toInt then some info.modifiedAt.toInt.toNat else none

/-- The part of the path behind its last slash, or `download` when that is empty. -/
def fileName (info : FileInfo) : String :=
  let last := (info.path.toList.reverse.takeWhile (· != '/')).reverse
  if last.isEmpty then "download" else String.ofList last

end FileInfo

/-! ## Pieces of a file -/

/-- Part of a file at an offset. An empty one ends a file that is read and cuts a file that
is written. -/
structure Chunk where
  offset : UInt64 := 0
  data : Bytes := []
  deriving DecidableEq, Repr, Inhabited

/-- A file received in full, with the metadata reported before. -/
structure DownloadedFile where
  info : FileInfo
  data : Bytes
  deriving DecidableEq, Repr

/-- The name under which to keep the file. -/
def DownloadedFile.fileName (file : DownloadedFile) : String := file.info.fileName

/-- When the file last changed, as the metadata say. -/
def DownloadedFile.modified (file : DownloadedFile) : Option Nat := file.info.modified

end RemoteAgent
