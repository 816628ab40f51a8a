import StorageDispatch.Context.Basic

set_option autoImplicit false

/-! # Loading backend modules

The loader considers the regular files of the plugin directory that have the extension of modules, in
order of their names. `loadAll` loads all of them or none: at the first failure the backends that were
already made are torn down, in the order in which they were loaded.
-/

namespace StorageDispatch

/-- Loading in a context, which can fail with a `PluginError`. -/
abbrev Loading (σ : Type) := ExceptT PluginError (Act σ)

namespace Loader

open Context

variable {σ : Type}

/-- Whether a file of the plugin directory is a module, judged by what it is and its name. -/
def isModuleFile (entry : String × PluginFile σ) : Bool :=
  entry.2.isRegular && extension? entry.1 == some moduleExtension

def isModule (dir : PluginDirectory σ) (name : String) : Bool :=
  match dir.find? name with
  | some file => isModuleFile (name, file)
  | none => false

/-- Whether one name may stand before another: names are compared byte by byte. -/
def namePrecedes (a b : String) : Bool := decide (a.toUTF8.toList ≤ b.toUTF8.toList)

def sortFiles (entries : List (String × PluginFile σ)) : List (String × PluginFile σ) :=
  entries.mergeSort fun a b => namePrecedes a.1 b.1

/-- The names of the modules in a directory, in order. -/
def moduleNames (dir : String) : Loading σ (List String) := do
  match (← get).host.directory dir with
  | .missing => throw (.readDir dir (.os Errno.noEntry.code))
  | .notDirectory => throw (.readDir dir (.os Errno.notDirectory.code))
  | .files entries =>
    let (modules, others) := (sortFiles entries).partition isModuleFile
    perform (others.forM fun entry => log (.skipped (joinPath dir entry.1)))
    return modules.map Prod.fst

/-- What a module without a result is said to have reported. -/
def noResult : BackendError :=
  ⟨.invalid, "entry point returned neither a backend nor an error"⟩

/-- The backend that an entry holds, as the instance of a given identity, for the module at a path. -/
def acceptEntry (id : InstanceId) (path : String) (entry : BackendEntry σ) :
    Except PluginError (LoadedModule σ) :=
  if entry.abiVersion = abiVersion then
    match entry.result? with
    | some (.ok backend) => .ok { backend := backend.identify id, path }
    | some (.error source) => .error (.initFailed path source)
    | none => .error (.initFailed path noResult)
  else .error (.abiMismatch path abiVersion entry.abiVersion)

def nextInstance : Act σ InstanceId :=
  modifyGet fun context =>
    (.loaded context.registry.loads,
      { context with registry := { context.registry with loads := context.registry.loads + 1 } })

/-- Load the module under a name of a directory and run its entry point. -/
def load (dir name : String) : Loading σ (LoadedModule σ) := do
  let context ← get
  let path := joinPath dir name
  match (context.host.directory dir).find? name with
  | some (.library (some entryPoint)) =>
    let id ← perform nextInstance
    fromOutcome (acceptEntry id path (entryPoint { config := context.config, path } id))
  | some (.library none) => throw (.missingEntryPoint path)
  | _ => throw (.loadFailed path context.host.diagnostic)

/-- Tear down the backends of modules that were loaded before another one failed. -/
def drop (loaded : List (LoadedModule σ)) : Act σ Unit :=
  loaded.forM fun module => do
    log (.moduleDropped module.backend.name)
    call module.backend .teardown

/-- Load modules in order, after those of `loaded`. -/
def loadEach (dir : String) (loaded : List (LoadedModule σ)) :
    List String → Loading σ (List (LoadedModule σ))
  | [] => return loaded
  | name :: names => do
    match ← perform (load dir name).run with
    | .ok module =>
      perform (log (.moduleLoaded module.backend.id module.backend.name module.path))
      loadEach dir (loaded ++ [module]) names
    | .error error =>
      perform (drop loaded)
      throw error

/-- Load every module of a directory, or none. -/
def loadAll (dir : String) : Loading σ (List (LoadedModule σ)) := do
  loadEach dir [] (← moduleNames dir)

end Loader

end StorageDispatch
