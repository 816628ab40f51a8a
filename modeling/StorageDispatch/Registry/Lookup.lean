import StorageDispatch.Registry.Discovery

set_option autoImplicit false

/-! # Looking plugins up

`findFor` asks the plugins in turn whether they claim a URL for a capability, and the first that does
is the answer; an error of one that is asked ends the search. `findByName` asks nobody.
-/

namespace StorageDispatch

namespace Registry

open Context

variable {σ : Type}

/-- The first plugin of a list that claims a URL. -/
def firstClaiming (url : String) (capability : Capability) :
    List (Plugin σ) → Engine σ (Plugin σ)
  | [] => throw (.protocolNotSupported capability.name url)
  | plugin :: plugins => do
    match ← perform (call plugin.backend (.checkUrl url capability)) with
    | .ok true =>
      perform (log (.matched plugin.name url capability))
      return plugin
    | .ok false => firstClaiming url capability plugins
    | .error source => throw (.backend capability.name source)

def findFor (url : String) (capability : Capability) : Engine σ (Plugin σ) := do
  firstClaiming url capability (← discover)

def findByName (name : String) : Engine σ (Plugin σ) := do
  match (← discover).find? fun plugin => plugin.name == name with
  | some plugin => return plugin
  | none => throw (.unknownPlugin name)

/-- The names of the plugins in the order in which they are asked. -/
def pluginNames : Engine σ (List String) := do
  return (← discover).map Plugin.name

end Registry

end StorageDispatch
