import StorageDispatch.Errno.Description

set_option autoImplicit false

/-! # Errors

Three layers of failure, each a type of causes with one printer:

* `BackendError`: what a backend's action reports, an error number and a message;
* `PluginError`: why a backend module could not be loaded;
* `Error`: what a public operation returns. `Error.errno` gives its error number.
-/

namespace StorageDispatch

/-- Failure of a backend's action. -/
structure BackendError where
  errno : Errno
  message : String
  deriving DecidableEq, Repr, Inhabited

abbrev Reply (α : Type) := Except BackendError α

/-- Failure reported by the operating system, or by something that only looks like it. -/
inductive IoError
  | os (code : Int)
  | other (text : String)
  deriving DecidableEq, Repr, Inhabited

def IoError.message : IoError → String
  | os code => s!"{describeErrorNumber code} (os error {code})"
  | other text => text

namespace BackendError

def unsupported (action : String) : BackendError :=
  ⟨.notImplemented, s!"{action} is not implemented"⟩

def isUnsupported (e : BackendError) : Bool := e.errno == .notImplemented

/-- The text of a backend's error: its message and its error number. -/
def display (e : BackendError) : String := s!"{e.message} (errno {e.errno.code})"

/-- A backend's error made from an I/O error. A number that is no Linux error number counts as an
input/output error. -/
def ofIo (e : IoError) : BackendError :=
  match e with
  | .os code =>
    if 1 ≤ code ∧ code ≤ 4095 then ⟨⟨code.toNat⟩, e.message⟩ else ⟨.io, e.message⟩
  | .other _ => ⟨.io, e.message⟩

end BackendError

inductive PluginError
  /-- The system's loader refused the file. -/
  | loadFailed (path reason : String)
  /-- The module has no entry point. -/
  | missingEntryPoint (path : String)
  /-- The module was built for another version of the interface. -/
  | abiMismatch (path : String) (expected actual : Nat)
  /-- The entry point ran and reported a failure, or nothing at all. -/
  | initFailed (path : String) (source : BackendError)
  /-- The plugin directory could not be listed. -/
  | readDir (dir : String) (source : IoError)
  deriving DecidableEq, Repr, Inhabited

namespace PluginError

def message : PluginError → String
  | loadFailed path reason => s!"failed to load {path}: {reason}"
  | missingEntryPoint path => s!"{path} has no gridio_plugin_init entry point"
  | abiMismatch path expected actual =>
    s!"{path}: ABI version mismatch: expected {expected}, got {actual}"
  | initFailed path source => s!"{path} failed to initialise: {source.display}"
  | readDir dir source => s!"cannot read plugin directory {dir}: {source.message}"

def sourceText? : PluginError → Option String
  | initFailed _ source => some source.display
  | readDir _ source => some source.message
  | _ => none

end PluginError

/-- Failure of a public operation. Where a cause names an operation, that is the tag of its text. -/
inductive Error
  /-- No backend claims the URL. -/
  | protocolNotSupported (operation url : String)
  /-- An unknown descriptor, or a handle whose owner is not registered. -/
  | badFileDescriptor (text : String)
  /-- An empty URL, an empty buffer, or another argument that cannot be used. -/
  | invalidArgument (text : String)
  /-- The descriptor table is full. -/
  | tooManyOpenFiles
  /-- A cache miss, or the name of no backend. -/
  | notFound (text : String)
  /-- The two URLs of one operation are served by different backends. -/
  | crossBackend (operation source destination : String)
  /-- The seek before an emulated transfer landed elsewhere. -/
  | overflow (operation : String) (requested actual : Nat)
  /-- The backends could not be discovered. -/
  | discovery (cause : PluginError)
  /-- The backend reported an error. -/
  | backend (operation : String) (source : BackendError)
  deriving DecidableEq, Repr, Inhabited

namespace Error

def message : Error → String
  | protocolNotSupported operation url =>
    s!"[{operation}] protocol not supported or url invalid: {url}"
  | badFileDescriptor text => s!"bad file descriptor: {text}"
  | invalidArgument text => s!"invalid argument: {text}"
  | tooManyOpenFiles => "too many open files"
  | notFound text => s!"not found: {text}"
  | crossBackend operation source destination =>
    s!"[{operation}] source and destination are served by different plugins ({source} -> {destination})"
  | overflow operation requested actual =>
    s!"[{operation}] inconsistent seek: requested offset {requested}, backend returned {actual}"
  | discovery cause => s!"plugin discovery failed: {cause.message}"
  | backend operation source => s!"[{operation}] {source.display}"

/-- The error number for callers with a POSIX-like surface. -/
def errno : Error → Errno
  | protocolNotSupported .. => .protocolNotSupported
  | badFileDescriptor _ => .badDescriptor
  | invalidArgument _ => .invalid
  | tooManyOpenFiles => .tooManyOpen
  | notFound _ => .noEntry
  | crossBackend .. => .crossDevice
  | overflow .. => .overflow
  | discovery _ => .invalid
  | backend _ source => source.errno

def sourceText? : Error → Option String
  | discovery cause => some cause.message
  | backend _ source => some source.display
  | _ => none

def emptyUrl : Error := invalidArgument "empty url"

/-- A transfer without any room for data. -/
def emptyBuffer : Error := invalidArgument "empty buffer"

def unknownPlugin (name : String) : Error := notFound s!"plugin {name}"

def unknownOwner (owner : String) : Error :=
  badFileDescriptor s!"handle owned by unknown plugin {owner}"

/-- A directory handle whose entries have no URL to be found under. -/
def directoryWithoutUrl (owner : String) : Error :=
  badFileDescriptor s!"directory handle of {owner} has no url"

end Error

end StorageDispatch
