import StorageDispatch.Plugin.Module

set_option autoImplicit false

/-! # Registered backends

A `Plugin` is a backend in the registry: the backend with its place in the order of registration and
where it came from. Plugins stand in order of falling priority, and equal priorities in order of
registration; `sortPlugins` puts a list into that order.
-/

namespace StorageDispatch

/-- Where a registered backend came from. -/
inductive PluginOrigin
  /-- Made by the module at a path. -/
  | module (path : String)
  /-- Registered directly. -/
  | static
  deriving DecidableEq, Repr, Inhabited

def PluginOrigin.debug : PluginOrigin → String
  | module path => "Module(" ++ Text.quoted path ++ ")"
  | static => "Static"

structure Plugin (σ : Type) where
  backend : Backend σ
  /-- Place in the order of registration. -/
  loadOrder : Nat
  origin : PluginOrigin

namespace Plugin

variable {σ : Type}

def name (plugin : Plugin σ) : String := plugin.backend.name

def priority (plugin : Plugin σ) : Int := plugin.backend.priority

def id (plugin : Plugin σ) : InstanceId := plugin.backend.id

/-- Whether one plugin may stand before another. -/
def precedes (a b : Plugin σ) : Bool :=
  decide (b.priority < a.priority) ||
    (decide (a.priority = b.priority) && decide (a.loadOrder ≤ b.loadOrder))

def debug (plugin : Plugin σ) (tornDown : Bool) : String :=
  Text.record "PluginDescriptor"
    [("name", Text.quoted plugin.name), ("priority", toString plugin.priority),
     ("load_order", toString plugin.loadOrder), ("origin", plugin.origin.debug),
     ("torn_down", toString tornDown)]

end Plugin

/-- Plugins in the order in which they are asked. -/
def sortPlugins {σ : Type} (plugins : List (Plugin σ)) : List (Plugin σ) :=
  plugins.mergeSort Plugin.precedes

/-- What can be told about a plugin: its identity is left out, and whether it was torn down is added. -/
structure PluginInfo where
  name : String
  priority : Int
  loadOrder : Nat
  origin : PluginOrigin
  tornDown : Bool
  deriving DecidableEq, Repr, Inhabited

end StorageDispatch
