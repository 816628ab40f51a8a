import StorageDispatch.Proofs.Context.Flow

set_option autoImplicit false

/-! # The ledger of a context

Of all that a context holds, few things decide what becomes of its backends: the configuration and the
machine, which decide what a scan finds, the registry, and two lists that are read off the events: the
instances that modules have made (`accepted`) and those whose teardown was called, one entry for each
call (`teardowns`). The `Ledger` of a context is these five.

Most of what a context does leaves its ledger alone. The lemmas here say so for the small steps of
operations, and what a call of a teardown and a loaded module add to it.
-/

namespace StorageDispatch

/-- The instance whose teardown an event calls. -/
def Event.tornDown? : Event → Option InstanceId
  | .call id _ .teardown => some id
  | _ => none

/-- The instance that a module has made, if an event tells of one. -/
def Event.accepted? : Event → Option InstanceId
  | .log (.moduleLoaded id ..) => some id
  | _ => none

/-- What decides about the backends of a context, and what became of them so far. -/
structure Ledger (σ : Type) where
  config : Config
  host : Host σ
  registry : Registry σ
  /-- The instances whose teardown was called, the first call first. -/
  teardowns : List InstanceId
  /-- The instances that modules have made, the first one first. -/
  accepted : List InstanceId

namespace Context

variable {σ α β ε : Type}

def teardowns (c : Context σ) : List InstanceId := c.events.filterMap Event.tornDown?

def accepted (c : Context σ) : List InstanceId := c.events.filterMap Event.accepted?

def ledger (c : Context σ) : Ledger σ where
  config := c.config
  host := c.host
  registry := c.registry
  teardowns := c.teardowns
  accepted := c.accepted

theorem registry_ledger (c : Context σ) : c.ledger.registry = c.registry := rfl

/-! ## Small steps -/

/-- An event is entered if it calls a teardown or tells of a new instance. -/
theorem ledger_of_event {c d : Context σ} {event : Event} (hevents : d.events = c.events ++ [event])
    (hconfig : d.config = c.config) (hhost : d.host = c.host) (hregistry : d.registry = c.registry) :
    d.ledger = { c.ledger with
      teardowns := c.ledger.teardowns ++ event.tornDown?.toList
      accepted := c.ledger.accepted ++ event.accepted?.toList } := by
  have happend (f : Event → Option InstanceId) :
      (c.events ++ [event]).filterMap f = c.events.filterMap f ++ (f event).toList := by
    rw [List.filterMap_append]
    cases h : f event <;> simp [h]
  simp only [ledger, teardowns, accepted, hconfig, hhost, hregistry, hevents, happend]

theorem ledger_emit (event : Event) (c : Context σ) :
    ((emit event).run c).2.ledger = { c.ledger with
      teardowns := c.ledger.teardowns ++ event.tornDown?.toList
      accepted := c.ledger.accepted ++ event.accepted?.toList } :=
  ledger_of_event (c := c) rfl rfl rfl rfl

@[simp]
theorem ledger_measure (change : Metric) (c : Context σ) :
    ((measure change).run c).2.ledger = c.ledger := by
  rw [measure, ledger_emit]
  simp [Event.tornDown?, Event.accepted?]

theorem ledger_log {entry : LogEntry} (h : (Event.log entry).accepted? = none) (c : Context σ) :
    ((log entry).run c).2.ledger = c.ledger := by
  rw [log, ledger_emit, h]
  simp [Event.tornDown?]

theorem events_call (backend : Backend σ) (request : Call) (c : Context σ) :
    ((call backend request).run c).2.events =
      c.events ++ [.call backend.id backend.name request] := rfl

theorem ledger_call (backend : Backend σ) {request : Call} (h : request ≠ .teardown) (c : Context σ) :
    ((call backend request).run c).2.ledger = c.ledger := by
  have hnone : (Event.call backend.id backend.name request).tornDown? = none := by
    cases request <;> first | rfl | exact absurd rfl h
  rw [ledger_of_event (events_call backend request c) rfl rfl rfl, hnone]
  simp [Event.accepted?]

/-- A call of a teardown is entered. -/
@[simp]
theorem ledger_call_teardown (backend : Backend σ) (c : Context σ) :
    ((call backend .teardown).run c).2.ledger =
      { c.ledger with teardowns := c.ledger.teardowns ++ [backend.id] } := by
  rw [ledger_of_event (events_call backend .teardown c) rfl rfl rfl]
  simp [Event.tornDown?, Event.accepted?]

@[simp]
theorem ledger_withRegistry (c : Context σ) (registry : Registry σ) :
    ({ c with registry } : Context σ).ledger = { c.ledger with registry } := rfl

@[simp]
theorem ledger_update (change : Registry σ → Registry σ) (c : Context σ) :
    ((Registry.update change).run c).2.ledger =
      { c.ledger with registry := change c.ledger.registry } := rfl

@[simp]
theorem ledger_withTable (c : Context σ) (resource : Resource) (table : DescriptorTable HandleId) :
    (c.withTable resource table).ledger = c.ledger := by
  cases resource <;> rfl

theorem ledger_forM {l : List β} {f : β → Act σ PUnit}
    (hf : ∀ b c, ((f b).run c).2.ledger = c.ledger) (c : Context σ) :
    ((l.forM f).run c).2.ledger = c.ledger := by
  induction l generalizing c with
  | nil => rfl
  | cons b l ih => exact (ih _).trans (hf b c)

/-- Calling the teardowns of several backends enters them in order. -/
theorem ledger_forM_teardown (backends : List (Backend σ)) (c : Context σ) :
    ((backends.forM fun backend => call backend .teardown : Act σ Unit).run c).2.ledger =
      { c.ledger with teardowns := c.ledger.teardowns ++ backends.map Backend.id } := by
  induction backends generalizing c with
  | nil =>
      show c.ledger = _
      simp
  | cons backend backends ih =>
      have h := ih ((call backend .teardown).run c).2
      rw [ledger_call_teardown, List.append_assoc] at h
      exact h

end Context

end StorageDispatch
