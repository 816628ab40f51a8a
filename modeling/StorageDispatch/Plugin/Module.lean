import StorageDispatch.Backend.Basic
import StorageDispatch.Config

set_option autoImplicit false

/-! # Backend modules

A module is a file in the plugin directory with an entry point. The entry point is told the module's
path and the configuration (`ModuleContext`) and returns a `BackendEntry`: the version of the interface
that the module was built for, with a backend or an error. `PluginDirectory` is such a directory as the
loader finds it, and `Host` is the part of the machine that the loader looks at.
-/

namespace StorageDispatch

/-- The version of the module interface. Modules built for another one are refused. -/
def abiVersion : Nat := 1

/-- The symbol of the entry point, with the zero byte that ends it. -/
def entryPointSymbol : Bytes := "gridio_plugin_init".toUTF8.toList ++ [0]

/-- What an entry point is told. -/
structure ModuleContext where
  config : Config
  path : String
  deriving DecidableEq, Repr, Inhabited

/-- What an entry point returns: a backend or an error, where a faulty module may return neither. -/
structure BackendEntry (σ : Type) where
  abiVersion : Nat
  backend : Option (Backend σ) := none
  error : Option BackendError := none

namespace BackendEntry

variable {σ : Type}

/-- The entry of a module that was initialised with a given result. -/
def ofResult : Reply (Backend σ) → BackendEntry σ
  | .ok backend => { abiVersion := StorageDispatch.abiVersion, backend := some backend }
  | .error error => { abiVersion := StorageDispatch.abiVersion, error := some error }

def nullContext : BackendEntry σ :=
  ofResult (.error ⟨.invalid, "entry point called without a plugin context"⟩)

def result? (entry : BackendEntry σ) : Option (Reply (Backend σ)) :=
  match entry.backend with
  | some backend => some (.ok backend)
  | none => entry.error.map .error

end BackendEntry

/-- The entry point of a module. It makes a new backend instance, with the given identity, whenever it
is called. -/
abbrev EntryPoint (σ : Type) := ModuleContext → InstanceId → BackendEntry σ

/-- What stands under a name in the plugin directory. -/
inductive PluginFile (σ : Type)
  /-- A shared library, with its entry point if it exports one. -/
  | library (entryPoint : Option (EntryPoint σ))
  /-- A regular file that the system's loader refuses. -/
  | garbage
  | directory
  /-- A link to nothing. -/
  | dangling

def PluginFile.isRegular {σ : Type} : PluginFile σ → Bool
  | library _ => true
  | garbage => true
  | directory => false
  | dangling => false

/-- What stands where a plugin directory is looked for. -/
inductive PluginDirectory (σ : Type)
  | missing
  /-- A file that is no directory. -/
  | notDirectory
  | files (entries : List (String × PluginFile σ))

namespace PluginDirectory

variable {σ : Type}

def find? (dir : PluginDirectory σ) (name : String) : Option (PluginFile σ) :=
  match dir with
  | files entries => entries.lookup name
  | _ => none

def erase (dir : PluginDirectory σ) (name : String) : PluginDirectory σ :=
  match dir with
  | files entries => files (entries.filter fun e => e.1 != name)
  | other => other

def insert (dir : PluginDirectory σ) (name : String) (file : PluginFile σ) : PluginDirectory σ :=
  match dir.erase name with
  | files entries => files (entries ++ [(name, file)])
  | other => other

/-- The directory, made empty if there was nothing. -/
def create (dir : PluginDirectory σ) : PluginDirectory σ :=
  match dir with
  | missing => files []
  | other => other

end PluginDirectory

/-- The machine as the loader sees it. -/
structure Host (σ : Type) where
  /-- The environment's word on the plugin directory. -/
  environment : Option String := none
  /-- What stands at a path. -/
  directory : String → PluginDirectory σ := fun _ => .missing
  /-- What the system's loader says about a file that it refuses. -/
  diagnostic : String := "cannot load"

/-- The machine after what stands at a path has changed. -/
def Host.changeDirectory {σ : Type} (host : Host σ) (path : String)
    (change : PluginDirectory σ → PluginDirectory σ) : Host σ :=
  { host with
    directory := fun other =>
      if other = path then change (host.directory path) else host.directory other }

/-- The extension of a file name: what follows its last dot, unless nothing stands before that dot. -/
def extension? (name : String) : Option String :=
  match name.toList.reverse.span (· != '.') with
  | (_, []) => none
  | (_, [_]) => none
  | (ext, _ :: _ :: _) => some (String.ofList ext.reverse)

def moduleExtension : String := "so"

def joinPath (dir name : String) : String :=
  if dir.isEmpty ∨ dir.toList.getLast? = some '/' then dir ++ name else dir ++ "/" ++ name

def fileName (path : String) : String :=
  String.ofList (path.toList.reverse.takeWhile (· != '/')).reverse

structure LoadedModule (σ : Type) where
  backend : Backend σ
  path : String

def LoadedModule.debug {σ : Type} (loaded : LoadedModule σ) : String :=
  Text.record "LoadedModule"
    [("backend", Text.quoted loaded.backend.name), ("path", Text.quoted loaded.path)]

end StorageDispatch
