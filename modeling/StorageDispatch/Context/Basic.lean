import StorageDispatch.Descriptor.Table
import StorageDispatch.Event
import StorageDispatch.Registry.Basic

set_option autoImplicit false

/-! # Contexts

A `Context σ` is one storage session: its registry of backends, its tables of open files and
directories, the handles that are in them or were, the world that the backends share, the machine that
modules are loaded from, and a record of every `Event` so far.

Work in a context is an `Act` when it cannot fail and an `Engine` when it can fail with an `Error`.
Both keep what they changed up to the point of failure. This module has the small steps that all
operations are made of: emitting events, calling a backend, looking up and changing handles.
-/

namespace StorageDispatch

/-- One storage session over a world of type `σ`. -/
structure Context (σ : Type) where
  config : Config
  host : Host σ := {}
  /-- What the backends share and change. -/
  world : σ
  registry : Registry σ := {}
  /-- Open files; the table is made at its first use. -/
  files : Option (DescriptorTable HandleId) := none
  /-- Open directories; the table is made at its first use. -/
  directories : Option (DescriptorTable HandleId) := none
  /-- Every handle that was ever taken in, by its identity. -/
  handles : Array FileHandle := #[]
  /-- What happened so far, the oldest first. -/
  events : List Event := []

/-- Work in a context that cannot fail. -/
abbrev Act (σ : Type) := StateM (Context σ)

/-- Work in a context that can fail. -/
abbrev Engine (σ : Type) := ExceptT Error (Act σ)

namespace Context

variable {σ α : Type}

/-! ## Events and calls -/

def emit (event : Event) : Act σ Unit :=
  modify fun context => { context with events := context.events ++ [event] }

def measure (change : Metric) : Act σ Unit := emit (.metric change)

def log (entry : LogEntry) : Act σ Unit := emit (.log entry)

/-- Call a backend: the call is recorded, and the answer may depend on the world and change it. -/
def call (backend : Backend σ) (request : Call) : Act σ request.Answer := do
  emit (.call backend.id backend.name request)
  modifyGet fun context =>
    let (answer, world) := backend.respond request context.world
    (answer, { context with world })

/-! ## Outcomes -/

/-- Work that cannot fail, as a part of work that can. -/
def perform {ε : Type} (work : Act σ α) : ExceptT ε (Act σ) α := ExceptT.lift work

def recordFailure (operation : Operation) (error : Error) : Act σ Unit := do
  measure (.failed operation)
  log (.dispatchFailed operation error)

/-- Work whose failure counts as a failure of an operation. -/
def counted (operation : Operation) (work : Engine σ α) : Engine σ α :=
  ExceptT.mk do
    match ← work.run with
    | .ok a => return .ok a
    | .error error =>
      recordFailure operation error
      return .error error

/-- Work that counts as one operation handed to a backend, and whose duration is sampled at its end. -/
def timed (operation : Operation) (plugin : String) (work : Act σ α) : Act σ α := do
  measure (.dispatched operation plugin)
  let a ← work
  measure (.timed operation)
  return a

/-- `timed` for work that can fail: the duration is sampled all the same. -/
def timedEngine (operation : Operation) (plugin : String) (work : Engine σ α) : Engine σ α :=
  ExceptT.mk (timed operation plugin work.run)

/-- A backend's reply as the outcome of an operation: an error is tagged with the operation. -/
def tag (operation : Operation) (reply : Reply α) : Except Error α :=
  match reply with
  | .ok a => .ok a
  | .error source => .error (.backend operation.name source)

def fromOutcome {ε : Type} (outcome : Except ε α) : ExceptT ε (Act σ) α :=
  ExceptT.mk (pure outcome)

def fromReply (operation : Operation) (reply : Reply α) : Engine σ α :=
  fromOutcome (tag operation reply)

/-- The outcome of one entry of a batch, counted if it is an error. -/
def settle (operation : Operation) (reply : Reply α) : Act σ (Except Error α) :=
  (counted operation (fromReply operation reply)).run

/-! ## Handles -/

/-- A handle as it is now. -/
def openHandle (id : HandleId) : Act σ OpenHandle := do
  return ⟨id, ((← get).handles[id]?).getD default⟩

def adopt (handle : FileHandle) : Act σ HandleId :=
  modifyGet fun context =>
    (context.handles.size, { context with handles := context.handles.push handle })

def updateHandle (id : HandleId) (change : FileHandle → FileHandle) : Act σ Unit :=
  modify fun context => { context with handles := context.handles.modify id change }

/-! ## Descriptor tables -/

/-- The table of a resource, if it was made. -/
def table? (context : Context σ) : Resource → Option (DescriptorTable HandleId)
  | .file => context.files
  | .directory => context.directories

def newTable (context : Context σ) (resource : Resource) : DescriptorTable HandleId :=
  { name := resource.name, limit := context.config.maxOpenFiles }

/-- The table of a resource; one that was not made yet is empty. -/
def table (context : Context σ) (resource : Resource) : DescriptorTable HandleId :=
  (context.table? resource).getD (context.newTable resource)

def withTable (context : Context σ) (resource : Resource) (table : DescriptorTable HandleId) :
    Context σ :=
  match resource with
  | .file => { context with files := some table }
  | .directory => { context with directories := some table }

/-- The table of a resource, made if need be. -/
def useTable (resource : Resource) : Act σ (DescriptorTable HandleId) :=
  modifyGet fun context =>
    (context.table resource, context.withTable resource (context.table resource))

/-- Put the table of a resource into its place after its number of entries changed. -/
def storeTable (resource : Resource) (table : DescriptorTable HandleId) : Act σ Unit := do
  modify fun context => context.withTable resource table
  measure (.openHandles resource table.live)

def insertHandle (resource : Resource) (id : HandleId) : Engine σ DescriptorKey := do
  let table ← perform (useTable resource)
  let (key, table) ← fromOutcome (table.insert id)
  perform (storeTable resource table)
  return key

def findHandle (resource : Resource) (key : DescriptorKey) : Engine σ HandleId := do
  fromOutcome ((← perform (useTable resource)).get key)

def findRawHandle (resource : Resource) (raw : UInt64) : Engine σ HandleId := do
  fromOutcome ((← perform (useTable resource)).getRaw raw)

def removeHandle (resource : Resource) (key : DescriptorKey) : Engine σ HandleId := do
  let table ← perform (useTable resource)
  let (id, table) ← fromOutcome (table.remove key)
  perform (storeTable resource table)
  return id

/-- Empty a table. Returns how many handles were in it. -/
def clearTable (resource : Resource) : Act σ Nat := do
  let table ← useTable resource
  storeTable resource table.clear
  return table.live

/-- Empty a table, unless it was never made. -/
def clearMadeTable (resource : Resource) : Act σ Nat := do
  match (← get).table? resource with
  | some _ => clearTable resource
  | none => return 0

/-! ## Diagnostics -/

def debug (context : Context σ) : String :=
  Text.record "Context"
    [("registry", context.registry.debug),
     ("files", toString (context.table .file).live),
     ("directories", toString (context.table .directory).live)]

end Context

end StorageDispatch
