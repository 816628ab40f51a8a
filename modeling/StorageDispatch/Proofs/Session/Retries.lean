import StorageDispatch.Proofs.Context.Atomic
import StorageDispatch.Proofs.Session.Dealings

set_option autoImplicit false

/-! # Closing, and closing again

The two tables of a context have nothing to do with each other: a request that works on one of them, a file's or
a directory's, leaves what is in the other one (`Request.untouched_serve`). A closing that fails leaves both, so
it may be tried again, and any number of such closings leave all as it was (`Session.run_closings`).

**The result** is `Session.closing_atomic`, which says this together with what one closing does (`Closed`), in
every session.
-/

namespace StorageDispatch

variable {σ α : Type}

namespace Context

/-! ## Work beside a table -/

def Untouched (other : Resource) (c d : Context σ) : Prop := d.table other = c.table other

section Untouched

variable {resource other : Resource}

theorem untouched_path : Path (Untouched other : Context σ → Context σ → Prop) where
  refl _ := rfl
  trans h h' := Eq.trans h' h

theorem untouched_log (entry : LogEntry) : Respects (Untouched other) (log entry : Act σ Unit) := fun c => by
  cases other <;> rfl

theorem untouched_useTable (resource : Resource) :
    Respects (Untouched other) (useTable resource : Act σ (DescriptorTable HandleId)) := fun c =>
  table_made c resource other

theorem untouched_storeTable (hne : other ≠ resource) (table : DescriptorTable HandleId) :
    Respects (Untouched other) (storeTable resource table : Act σ Unit) :=
  untouched_path.bind (fun c => table_withTable_ne c hne table) fun _ c => by cases other <;> rfl

theorem untouched_insertHandle (hne : other ≠ resource) (id : HandleId) :
    Keeps (Untouched other) (insertHandle resource id : Engine σ DescriptorKey) :=
  untouched_path.bindE (untouched_useTable resource).perform fun _ =>
    untouched_path.bindE (untouched_path.fromOutcome _) fun _ =>
      untouched_path.bindE (untouched_storeTable hne _).perform fun _ => untouched_path.pureE _

theorem untouched_removeHandle (hne : other ≠ resource) (key : DescriptorKey) :
    Keeps (Untouched other) (removeHandle resource key : Engine σ HandleId) :=
  untouched_path.bindE (untouched_useTable resource).perform fun _ =>
    untouched_path.bindE (untouched_path.fromOutcome _) fun _ =>
      untouched_path.bindE (untouched_storeTable hne _).perform fun _ => untouched_path.pureE _

theorem untouched_clearTable (hne : other ≠ resource) :
    Respects (Untouched other) (clearTable resource : Act σ Nat) :=
  untouched_path.bind (untouched_useTable resource) fun _ =>
    untouched_path.bind (untouched_storeTable hne _) fun _ => untouched_path.pure _

theorem untouched_closeWithOwner (operation : Operation) (resource : Resource) (id : HandleId) :
    Keeps (Untouched other) (closeWithOwner operation resource id : Engine σ Unit) := by
  intro c
  obtain ⟨result, made, d, hcloses, hdoes⟩ := closeWithOwner_closes operation resource id c c.events
  exact (hdoes.table_eq other).trans (hcloses.keeps.2 other)

/-- Storing a handle, or closing it for want of room, is work on one table. -/
theorem untouched_storeHandle (operation : Operation) (hne : other ≠ resource) (url : String)
    (handle : FileHandle) :
    Keeps (Untouched other) (storeHandle operation resource url handle : Engine σ DescriptorKey) := by
  have P : Path (Untouched other : Context σ → Context σ → Prop) := untouched_path
  refine P.bindE (Respects.perform fun c => table_adopt _ c other) fun id => ?_
  refine P.bindE (Respects.perform (untouched_insertHandle hne id)) fun stored => ?_
  cases stored with
  | ok key => exact P.pureE _
  | error reason =>
      refine P.bindE (Respects.perform ?_) fun _ => P.throwE _
      refine P.bind (untouched_log _) fun _ => ?_
      refine P.bind (untouched_closeWithOwner operation resource id) fun closed => ?_
      cases closed with
      | ok _ => exact P.pure _
      | error error => exact untouched_log _

end Untouched

end Context

/-! ## Requests on one table -/

namespace Request

open Context

/-- The resource on which a request works, if it is one of files or one of directories. -/
def resource? : Request σ → Option Resource
  | openFile .. | read .. | write .. | pread .. | pwrite .. | lseek .. | close _ | debugFile _ => some .file
  | opendir _ | readdir _ | readdirPlus _ | closedir _ => some .directory
  | findHandle resource _ | findRawHandle resource _ | insertHandle resource _ | removeHandle resource _
  | clearTable resource | debugTable resource => some resource
  | _ => none

/-- Opening is work on one table. -/
theorem untouched_opening (o : Opening) {other : Resource} (hne : other ≠ o.resource) :
    Keeps (Untouched other) (o.request : Request σ).serve := by
  rw [o.serve_request]
  refine Keeps.map _ (untouched_path.bindE (fun c => ?_) fun handle => untouched_storeHandle _ hne _ handle)
  exact (Session.calm_part o c).table_eq other

/-- Closing is work on one table. -/
theorem untouched_closing (resource : Resource) (key : DescriptorKey) {other : Resource} (hne : other ≠ resource) :
    Keeps (Untouched other) (resource.closing key : Request σ).serve := by
  rw [resource.serve_closing]
  refine Keeps.map _ fun c => ?_
  obtain ⟨result, made, d, hclosed, hdoes⟩ := closeKey_closed resource.closingOperation resource key c
  exact (hdoes.table_eq other).trans (hclosed.table_ne hne)

/-- **A request on one table leaves the other one alone.** -/
theorem untouched_serve {request : Request σ} {resource other : Resource} (h : request.resource? = some resource)
    (hne : other ≠ resource) : Keeps (Untouched other) request.serve := by
  have P : Path (Untouched other : Context σ → Context σ → Prop) := untouched_path
  -- Steady requests leave all tables alone.
  by_cases hsteady : request.steady = true
  · exact fun c => (handling_serve calmHere_routing calmHere_handling hsteady c).table_eq other
  cases request with
  | openFile url flags mode =>
      cases h
      exact untouched_opening (.file url flags mode) hne
  | opendir url =>
      cases h
      exact untouched_opening (.directory url) hne
  | close key =>
      cases h
      exact untouched_closing .file key hne
  | closedir key =>
      cases h
      exact untouched_closing .directory key hne
  | insertHandle _ handle =>
      cases h
      exact P.bindE (Respects.perform fun c => table_adopt handle c other) fun id =>
        P.bindE (untouched_insertHandle hne id) fun _ => P.pureE _
  | removeHandle _ key =>
      cases h
      exact P.bindE (untouched_removeHandle hne key) fun id =>
        P.bindE (P.describeHandle id).perform fun _ => P.pureE _
  | clearTable _ =>
      cases h
      exact (untouched_clearTable hne).perform.map _
  | rediscover | tearDownRegistry | tearDown => cases h
  | _ => exact absurd rfl hsteady

end Request

namespace Session

open Context

/-! ## Closings that fail -/

def closingStep (attempt : Resource × DescriptorKey) : Step σ := .request (attempt.1.closing attempt.2)

/-- A closing that fails leaves handles and tables as they were. -/
theorem step_closing_failed {attempt : Resource × DescriptorKey} {s : Session σ} {error : Error}
    (h : (s.step (closingStep attempt)).1 = .error error) :
    (s.step (closingStep attempt)).2.context.handles = s.context.handles ∧
      ∀ resource, (s.step (closingStep attempt)).2.context.table resource = s.context.table resource := by
  obtain ⟨houtcome, hleft⟩ := step_closing attempt.1 attempt.2 s
  obtain ⟨result, made, d, hclosed, hdoes⟩ :=
    closeKey_closed attempt.1.closingOperation attempt.1 attempt.2 s.context
  rw [hdoes.result_eq] at houtcome
  cases result with
  | ok _ => exact nomatch houtcome.symm.trans h
  | error error =>
      obtain ⟨events, hcontext⟩ := hdoes.context_eq
      have hcontext : (s.step (closingStep attempt)).2.context = d.recording events := hleft.trans hcontext
      rw [hcontext]
      exact ⟨hclosed.handles_eq, fun resource => (table_recording d events resource).trans
        (hclosed.table_of_error resource)⟩

/-- **However often closings fail**, of one key or of several, handles and tables stay as they were. -/
theorem run_closings (attempts : List (Resource × DescriptorKey)) (s : Session σ)
    (h : ∀ outcome ∈ (s.run (attempts.map closingStep)).1, ∃ error, outcome = .error error) :
    (s.run (attempts.map closingStep)).2.context.handles = s.context.handles ∧
      ∀ resource, (s.run (attempts.map closingStep)).2.context.table resource = s.context.table resource := by
  induction attempts generalizing s with
  | nil => exact ⟨rfl, fun _ => rfl⟩
  | cons attempt attempts ih =>
      obtain ⟨⟨error, herror⟩, hrest⟩ := List.forall_mem_cons.mp h
      obtain ⟨hhandles, htable⟩ := step_closing_failed herror
      obtain ⟨hhandles', htable'⟩ := ih _ hrest
      exact ⟨hhandles'.trans hhandles, fun resource => (htable' resource).trans (htable resource)⟩

/-! ## The main theorem -/

/-- **Closing is atomic**, in every session. A closing succeeds if and only if its key is good, and the owner of
the handle is registered and agrees; then that one key is taken away. If it fails, handles and tables are as they
were, and closings may fail any number of times. A key that is unknown reaches neither the registry nor a backend.
A request on files leaves the table of directories alone, and the other way round. -/
theorem closing_atomic (s : Session σ) :
    (∀ (resource : Resource) (key : DescriptorKey), ∃ result made d,
      Closed resource.closingOperation resource key s.context result made d ∧
      Does (resource.closing key).serve s.context ((fun _ => Value.unit) <$> result) made d ∧
      (result = .ok () ↔
        ∃ id, (s.context.table resource).find? key = some id ∧ OwnerAgrees resource id s.context d) ∧
      (result = .ok () → ∀ k,
        (d.table resource).find? k = if k = key then none else (s.context.table resource).find? k) ∧
      (∀ error, result = .error error → ∀ other, d.table other = s.context.table other) ∧
      d.handles = s.context.handles ∧
      ((s.context.table resource).find? key = none →
        made = [] ∧ d.registry = s.context.registry ∧ d.world = s.context.world)) ∧
    (∀ attempts : List (Resource × DescriptorKey),
      (∀ outcome ∈ (s.run (attempts.map closingStep)).1, ∃ error, outcome = .error error) →
        (s.run (attempts.map closingStep)).2.context.handles = s.context.handles ∧
        ∀ resource, (s.run (attempts.map closingStep)).2.context.table resource = s.context.table resource) ∧
    ∀ (request : Request σ) (resource other : Resource), request.resource? = some resource → other ≠ resource →
      (s.step (.request request)).2.context.table other = s.context.table other := by
  refine ⟨fun resource key => ?_, fun attempts => run_closings attempts s,
    fun request resource other h hne => Request.untouched_serve h hne s.context⟩
  obtain ⟨result, made, d, hclosed, hdoes⟩ :=
    closeKey_closed resource.closingOperation resource key s.context
  refine ⟨result, made, d, hclosed, ?_, hclosed.eq_ok_iff, ?_, ?_, hclosed.handles_eq, hclosed.of_unknown⟩
  · rw [resource.serve_closing]
    exact hdoes.map _
  · rintro rfl
    exact hclosed.find?_of_ok
  · rintro error rfl
    exact hclosed.table_of_error

end Session

end StorageDispatch
