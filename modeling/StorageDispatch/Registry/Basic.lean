import StorageDispatch.Plugin.Basic

set_option autoImplicit false

/-! # The registry's state

The registry is in one of four phases. Before discovery, registered backends wait in a queue; a
successful discovery puts the modules' backends and then the queue into the list of plugins; a failed
one is remembered until it is retried; a torn-down registry stays so.
-/

namespace StorageDispatch

/-- Where a registry is in its life. -/
inductive Phase
  /-- Nothing was looked for yet. -/
  | uninitialized
  /-- The backends are known. -/
  | ready
  /-- Discovery failed, and every lookup fails in the same way. -/
  | failed (error : PluginError)
  /-- All backends were torn down. -/
  | tornDown
  deriving DecidableEq, Repr, Inhabited

def Phase.name : Phase → String
  | uninitialized => "Uninitialized"
  | ready => "Ready"
  | failed _ => "Failed"
  | tornDown => "TornDown"

structure Registry (σ : Type) where
  phase : Phase := .uninitialized
  /-- Plugins in the order in which they are asked. -/
  plugins : List (Plugin σ) := []
  /-- Backends that wait for discovery. -/
  pending : List (Backend σ) := []
  /-- The next place in the order of registration. -/
  nextOrder : Nat := 0
  /-- Counts the lists of plugins that there have been, so that an unchanged list is known again. -/
  version : Nat := 0
  /-- Instances whose plugin was torn down. -/
  tornDown : List InstanceId := []
  /-- Number of backend instances that modules have made. -/
  loads : Nat := 0

namespace Registry

variable {σ : Type}

def size (registry : Registry σ) : Nat := registry.plugins.length

def withPlugins (registry : Registry σ) (plugins : List (Plugin σ)) : Registry σ :=
  { registry with plugins, version := registry.version + 1 }

/-- Append backends to a list of plugins, as the next ones in the order of registration. -/
def enroll (registry : Registry σ) (newcomers : List (Backend σ × PluginOrigin)) : Registry σ :=
  let plugins := newcomers.zipIdx registry.nextOrder |>.map fun ((backend, origin), loadOrder) =>
    { backend, loadOrder, origin : Plugin σ }
  { registry.withPlugins (sortPlugins (registry.plugins ++ plugins)) with
    nextOrder := registry.nextOrder + newcomers.length }

/-- What can be told about a plugin of this registry. -/
def info (registry : Registry σ) (plugin : Plugin σ) : PluginInfo where
  name := plugin.name
  priority := plugin.priority
  loadOrder := plugin.loadOrder
  origin := plugin.origin
  tornDown := registry.tornDown.contains plugin.id

def debug (registry : Registry σ) : String :=
  Text.record "Registry"
    [("state", registry.phase.name), ("plugins", toString registry.size)]

end Registry

end StorageDispatch
