import StorageDispatch.Backend.Call

set_option autoImplicit false

/-! # Storage backends

A `Backend σ` serves one storage protocol. It has a name, a priority, and an answer to every `Call`,
which may depend on a world of type `σ` and change it: the stored files, what is open in them, and
whatever else several backends share. The dispatcher never looks into that world.
-/

namespace StorageDispatch

/-- Identity of one backend instance, told apart even from an instance of the same name. -/
inductive InstanceId
  /-- The n-th backend handed over for registration. -/
  | registered (n : Nat)
  /-- The n-th backend made by a module. -/
  | loaded (n : Nat)
  deriving DecidableEq, Repr, Hashable, Inhabited

def dataPriority : Int := 0

def catalogPriority : Int := 100

/-- Priority of backends that cache, which are asked before all others. -/
def cachePriority : Int := 200

/-- A storage backend over a world of type `σ`. -/
structure Backend (σ : Type) where
  id : InstanceId
  /-- Handles that the backend opens carry this name, and later calls find the backend by it. -/
  name : String
  /-- Backends of higher priority are asked first. -/
  priority : Int := dataPriority
  /-- The answer to a call, and the world after it. -/
  respond : (call : Call) → σ → call.Answer × σ

/-- A backend as the instance of a given identity. No two instances that a dispatcher gets hold of share
one, whatever they were made to say of themselves. -/
def Backend.identify {σ : Type} (backend : Backend σ) (id : InstanceId) : Backend σ :=
  { backend with id }

end StorageDispatch
