import StorageDispatch.Session.Request

set_option autoImplicit false

/-! # Sessions

A `Session` is a context together with what its user keeps under labels: plugins, handles, and which
list of plugins was seen last. A `Step` is something that a session goes through: a request, a use of
what is kept, or a change of the world or the machine from outside. `Session.step` is one step and
`Session.run` a sequence of them.
-/

namespace StorageDispatch

/-- A context and what its user keeps. -/
structure Session (σ : Type) where
  context : Context σ
  /-- Number of backends handed over for registration. -/
  arrivals : Nat := 0
  /-- Plugins by label. -/
  held : List (String × Plugin σ) := []
  /-- Handles by label. -/
  kept : List (String × HandleId) := []
  /-- The last list of plugins that was seen under a label. -/
  seen : List (String × Nat) := []

/-- What a session goes through. -/
inductive Step (σ : Type)
  | request (request : Request σ)
  /-- Register a new instance of a backend. -/
  | register (make : InstanceId → Backend σ)
  /-- Look a plugin up and keep it. -/
  | hold (name label : String)
  | held (label : String)
  /-- Tear a kept plugin down. -/
  | tearDownHeld (label : String)
  /-- Keep a plugin no longer. -/
  | letGo (label : String)
  /-- Look an open file up and keep its handle. -/
  | keep (key : DescriptorKey) (label : String)
  | kept (label : String)
  /-- Compare the list of plugins with the one seen last under the label. -/
  | compareList (label : String)
  /-- The stored files change by themselves. -/
  | changeWorld (change : σ → σ)
  /-- The machine changes. -/
  | changeHost (change : Host σ → Host σ)

namespace Session

variable {σ α : Type}

/-- A session of a new context. -/
def start (config : Config) (host : Host σ) (world : σ) : Session σ :=
  { context := { config, host, world } }

def newcomer (n : Nat) (make : InstanceId → Backend σ) : Backend σ :=
  (make (.registered n)).identify (.registered n)

/-- Put a value under a label, over what is there. -/
def label {β : Type} (name : String) (value : β) (labelled : List (String × β)) :
    List (String × β) :=
  (name, value) :: labelled.filter fun entry => entry.1 != name

/-- Work in the context of a session. -/
def within (work : Engine σ α) (session : Session σ) : Except Error α × Session σ :=
  let (outcome, context) := work.run session.context
  (outcome, { session with context })

/-- Work in the context of a session, and note something of its result. -/
def noting (work : Engine σ α) (note : α → Session σ → Session σ) (value : α → Engine σ Value)
    (session : Session σ) : Except Error Value × Session σ :=
  match session.within work with
  | (.ok a, session) => (note a session).within (value a)
  | (.error error, session) => (.error error, session)

def withKept {β : Type} (labelled : List (String × β)) (name : String) (work : β → Engine σ Value)
    (session : Session σ) : Except Error Value × Session σ :=
  match labelled.lookup name with
  | some kept => session.within (work kept)
  | none => (.error (.notFound name), session)

def pluginValue (plugin : Plugin σ) : Engine σ Value := do
  return .plugin (← Context.perform (Context.describePlugin plugin))

def handleValue (id : HandleId) : Engine σ Value := do
  return .handle (← Context.perform (Context.describeHandle id))

def currentList : Engine σ Nat := do
  let _ ← Registry.discover
  return (← get).registry.version

def step : Step σ → Session σ → Except Error Value × Session σ
  | .request request, session => session.within request.serve
  | .register make, session =>
    { session with arrivals := session.arrivals + 1 }.within
      ((fun _ => .unit) <$> Context.perform (Registry.register (newcomer session.arrivals make)))
  | .hold plugin name, session =>
    session.noting (Registry.findByName plugin)
      (fun found session => { session with held := label name found session.held }) pluginValue
  | .held name, session => session.withKept session.held name pluginValue
  | .tearDownHeld name, session =>
    session.withKept session.held name fun plugin => .flag <$> Context.perform plugin.teardown
  | .letGo name, session =>
    (.ok (.flag (session.held.lookup name).isSome),
      { session with held := session.held.filter fun entry => entry.1 != name })
  | .keep key name, session =>
    session.noting (Context.findHandle .file key)
      (fun id session => { session with kept := label name id session.kept }) handleValue
  | .kept name, session => session.withKept session.kept name handleValue
  | .compareList name, session =>
    let before := session.seen.lookup name
    session.noting currentList
      (fun version session => { session with seen := label name version session.seen })
      fun version => return .sameList (before.map (· == version))
  | .changeWorld change, session =>
    (.ok .unit,
      { session with context := { session.context with world := change session.context.world } })
  | .changeHost change, session =>
    (.ok .unit,
      { session with context := { session.context with host := change session.context.host } })

/-- A sequence of steps: their outcomes in order, and the session after them. -/
def run : List (Step σ) → Session σ → List (Except Error Value) × Session σ
  | [], session => ([], session)
  | step :: steps, session =>
    let (outcome, session) := session.step step
    let (outcomes, session) := session.run steps
    (outcome :: outcomes, session)

/-- The session after its context has ended. -/
def dispose (session : Session σ) : Session σ :=
  { session with context := (Context.dispose.run session.context).2 }

/-- The session after its user kept nothing any longer. A plugin that is still up is torn down. -/
def release (session : Session σ) : Session σ :=
  let work : Act σ Unit := session.held.forM fun entry => discard entry.2.teardown
  { session with context := (work.run session.context).2, held := [], kept := [], seen := [] }

/-- The events since this was asked last, and the session that forgets them. -/
def takeEvents (session : Session σ) : List Event × Session σ :=
  (session.context.events, { session with context := { session.context with events := [] } })

end Session

end StorageDispatch
