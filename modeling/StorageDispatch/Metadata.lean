set_option autoImplicit false

/-! # File metadata

What callers and backends tell each other about files: permissions, file types, `FileStat`, directory
entries, how an attribute is set, and the outcome of staging requests.
-/

namespace StorageDispatch

/-- Permission bits, in the layout of `st_mode`. -/
structure Mode where
  bits : UInt32
  deriving DecidableEq, Repr, Inhabited

/-- The bits of `st_mode` that hold the file type. -/
def fileTypeMask : UInt32 := 0o170000

/-- The permissions in a raw mode: every bit outside the file type. -/
def Mode.ofRaw (raw : UInt32) : Mode := ⟨raw &&& ~~~fileTypeMask⟩

/-- The kinds of file that `st_mode` tells apart. -/
inductive FileType
  | regular
  | directory
  | symlink
  | fifo
  | socket
  | characterDevice
  | blockDevice
  | unknown
  deriving DecidableEq, Repr, Inhabited

namespace FileType

def ofRaw (raw : UInt32) : FileType :=
  match (raw &&& fileTypeMask).toNat with
  | 0o100000 => regular
  | 0o040000 => directory
  | 0o120000 => symlink
  | 0o010000 => fifo
  | 0o140000 => socket
  | 0o020000 => characterDevice
  | 0o060000 => blockDevice
  | _ => unknown

end FileType

/-- The part of `struct stat` that a storage backend can report. Times are whole seconds since the
beginning of 1970. -/
structure FileStat where
  /-- File type and permissions, as in `st_mode`. -/
  mode : UInt32 := 0
  /-- Number of hard links. -/
  linkCount : Nat := 1
  /-- Owner's user id. -/
  userId : Nat := 0
  /-- Owner's group id. -/
  groupId : Nat := 0
  /-- Size in bytes. -/
  size : Nat := 0
  /-- Last access. -/
  accessed : Int := 0
  /-- Last modification. -/
  modified : Int := 0
  /-- Last change of status. -/
  changed : Int := 0
  deriving DecidableEq, Repr, Inhabited

namespace FileStat

def regular (permissions : Mode) (size : Nat) : FileStat :=
  { mode := 0o100000 ||| permissions.bits, size }

/-- A directory, which has two links: its name and its own `.` entry. -/
def directory (permissions : Mode) : FileStat :=
  { mode := 0o040000 ||| permissions.bits, linkCount := 2 }

def fileType (s : FileStat) : FileType := FileType.ofRaw s.mode

def permissions (s : FileStat) : Mode := Mode.ofRaw s.mode

def isDirectory (s : FileStat) : Bool := s.fileType == .directory

end FileStat

/-- One entry of a directory. A name that starts with a slash is absolute, taken from the root of the
storage; any other is relative to the directory. -/
structure DirEntry where
  name : String
  /-- The type, when the backend knows it without a stat. -/
  fileType : Option FileType := none
  deriving DecidableEq, Repr, Inhabited

/-- What setting an attribute does about one that exists. -/
inductive XattrMode
  /-- Create or replace. -/
  | any
  /-- Fail if the attribute exists. -/
  | create
  /-- Fail if the attribute does not exist. -/
  | replace
  deriving DecidableEq, Repr, Inhabited

inductive SeekTarget
  | start (offset : Nat)
  | current (delta : Int)
  | fromEnd (delta : Int)
  deriving DecidableEq, Repr, Inhabited

/-- A bring-online request as the caller makes it. Durations are whole seconds. -/
structure StageOptions where
  /-- How long a staged file shall stay online. -/
  pinTime : Nat
  /-- How long the storage may take. -/
  timeout : Nat
  /-- Whether to return at once and poll later. -/
  asynchronous : Bool
  deriving DecidableEq, Repr, Inhabited

/-- Outcome of a bring-online request for one file. -/
structure StageStatus where
  /-- Names the request when polling and releasing. -/
  token : String
  /-- Whether the file is online already. -/
  online : Bool
  deriving DecidableEq, Repr, Inhabited

/-- Outcome of a bring-online request for several files, with errors of type `ε`. -/
structure StageBatch (ε : Type) where
  /-- Names the request; `none` when no backend took it. -/
  token : Option String
  /-- Per URL, in the order of the request, whether the file is online or why it is not. -/
  files : List (Except ε Bool)

def StageBatch.allOnline {ε : Type} (batch : StageBatch ε) : Bool :=
  batch.files.all fun
    | .ok online => online
    | .error _ => false

end StorageDispatch
