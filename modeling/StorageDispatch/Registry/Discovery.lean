import StorageDispatch.Plugin.Loader

set_option autoImplicit false

/-! # Discovery and registration

Discovery runs once, at the first lookup: it loads the modules of the plugin directory and puts their
backends, followed by the queue of registered ones, into the list of plugins. A failed discovery is
remembered and reported by every later lookup until `rediscover` tries again. `register` adds a backend
at any time; only a torn-down registry refuses it.
-/

namespace StorageDispatch

namespace Registry

open Context

variable {σ : Type}

def update (change : Registry σ → Registry σ) : Act σ Unit :=
  modify fun context => { context with registry := change context.registry }

def publishSize : Act σ Unit := do
  measure (.pluginsLoaded (← get).registry.size)

/-- Load the modules that the configuration asks for. -/
def loadModules : Loading σ (List (LoadedModule σ)) := do
  let context ← get
  if context.config.loadPlugins then
    let (dir, source) := context.config.resolvedPluginDir context.host.environment
    perform (log (.discovering dir source))
    Loader.loadAll dir
  else
    perform (log .scanDisabled)
    return []

/-- The registry after a successful discovery. -/
def afterDiscovery (modules : List (LoadedModule σ)) (registry : Registry σ) : Registry σ :=
  let loaded := modules.map fun module => (module.backend, PluginOrigin.module module.path)
  let queued := registry.pending.map fun backend => (backend, PluginOrigin.static)
  { registry.enroll (loaded ++ queued) with phase := .ready, pending := [] }

/-- Look for backends, whatever the phase. -/
def runDiscovery : Engine σ (List (Plugin σ)) := do
  match ← perform loadModules.run with
  | .ok modules =>
    perform (update (afterDiscovery modules))
    perform publishSize
    let plugins := (← get).registry.plugins
    perform (log (.ready (plugins.map Plugin.name)))
    return plugins
  | .error error =>
    perform (log (.discoveryFailed error))
    perform (update fun registry => { registry with phase := .failed error })
    throw (.discovery error)

/-- The plugins in the order in which they are asked. The first call discovers them. -/
def discover : Engine σ (List (Plugin σ)) := do
  let registry := (← get).registry
  match registry.phase with
  | .ready => return registry.plugins
  | .tornDown => return registry.plugins
  | .failed error => throw (.discovery error)
  | .uninitialized => runDiscovery

def forgetFailure : Act σ Unit := do
  match (← get).registry.phase with
  | .failed error =>
    log (.discoveryRetried error)
    update fun registry => { registry with phase := .uninitialized }
  | _ => return

/-- Discover the plugins, once more if that has failed before. -/
def rediscover : Engine σ (List (Plugin σ)) := do
  perform forgetFailure
  discover

def enqueue (backend : Backend σ) : Act σ Unit := do
  log (.queued backend.name)
  update fun registry => { registry with pending := registry.pending ++ [backend] }

/-- Add a backend. Before discovery it is queued and follows the modules; after it, it joins the list
at once; and a torn-down registry tears it down. -/
def register (backend : Backend σ) : Act σ Unit := do
  match (← get).registry.phase with
  | .uninitialized => enqueue backend
  | .failed _ => enqueue backend
  | .tornDown =>
    log (.rejected backend.name)
    call backend .teardown
  | .ready =>
    log (.registered backend.name backend.priority)
    update fun registry => registry.enroll [(backend, .static)]
    publishSize

end Registry

namespace Plugin

open Context

variable {σ : Type}

/-- Tear a plugin down, unless that was done before. Returns whether it was done now. -/
def teardown (plugin : Plugin σ) : Act σ Bool := do
  if (← get).registry.tornDown.contains plugin.id then
    return false
  else
    Registry.update fun registry => { registry with tornDown := plugin.id :: registry.tornDown }
    log (.pluginTornDown plugin.name)
    call plugin.backend .teardown
    return true

end Plugin

namespace Registry

open Context

variable {σ : Type}

/-- Tear every backend down, those of the list first and then those of the queue, and empty both. A
registry that was torn down before has none. -/
def teardown : Act σ Unit := do
  let registry := (← get).registry
  if registry.phase = .tornDown ∧ registry.plugins = [] then
    return
  else
    update fun registry =>
      { registry.withPlugins [] with phase := .tornDown, pending := [] }
    log (.registryTornDown (registry.plugins.length + registry.pending.length))
    measure (.pluginsLoaded 0)
    registry.plugins.forM fun plugin => discard plugin.teardown
    registry.pending.forM fun backend => call backend .teardown

end Registry

end StorageDispatch
