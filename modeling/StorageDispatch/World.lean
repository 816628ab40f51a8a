import StorageDispatch.Event
import StorageDispatch.Memory.Backend
import StorageDispatch.Scripted.Backend

set_option autoImplicit false

/-! # A world for both kinds of backend

`World` joins the worlds of in-memory and of scripted backends, and `Backend.embed` lets a backend over
one part work in the whole.
-/

namespace StorageDispatch

/-- A backend over a part of a larger world. -/
def Backend.embed {σ τ : Type} (part : σ → τ) (replace : σ → τ → σ) (backend : Backend τ) :
    Backend σ where
  id := backend.id
  name := backend.name
  priority := backend.priority
  respond call world :=
    let (answer, changed) := backend.respond call (part world)
    (answer, replace world changed)

/-- What in-memory and scripted backends share. -/
structure World where
  memory : Memory.State := {}
  scripts : Scripted.State := ∅

namespace World

def memoryBackend (id : InstanceId) (spec : Memory.Spec) : Backend World :=
  (Memory.backend id spec).embed World.memory fun world memory => { world with memory }

def scriptedBackend (id : InstanceId) (name : String) (priority : Int) (script : Scripted.Script) :
    Backend World :=
  (Scripted.backend id name priority script).embed World.scripts
    fun world scripts => { world with scripts }

end World

inductive BackendSpec
  | memory (spec : Memory.Spec)
  | scripted (name : String) (priority : Int) (script : Scripted.Script)

namespace BackendSpec

def backend (spec : BackendSpec) (id : InstanceId) : Backend World :=
  match spec with
  | memory spec => World.memoryBackend id spec
  | scripted name priority script => World.scriptedBackend id name priority script

def isMemory : BackendSpec → Bool
  | memory _ => true
  | scripted .. => false

end BackendSpec

/-- The tallies of the in-memory backends among those that were registered, with their names and in the
order of registration. -/
def World.tallies (world : World) (registered : List BackendSpec) :
    List (String × Memory.Tally) :=
  registered.zipIdx.filterMap fun (spec, n) =>
    match spec with
    | .memory spec => some (spec.name, world.memory.tally (.registered n))
    | .scripted .. => none

/-- The calls among some events that scripted backends received, with the names of those backends. -/
def scriptedCalls (registered : List BackendSpec) (events : List Event) : List (String × Call) :=
  (events.filterMap Event.call?).filterMap fun (id, name, call) =>
    match id with
    | .registered n =>
      match registered[n]? with
      | some (.memory _) => none
      | _ => some (name, call)
    | .loaded _ => some (name, call)

end StorageDispatch
