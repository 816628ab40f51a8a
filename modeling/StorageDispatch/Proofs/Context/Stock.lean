import StorageDispatch.Proofs.Context.Closing
import StorageDispatch.Proofs.Context.Owners
import StorageDispatch.Proofs.Session.Steps

set_option autoImplicit false

/-! # What is in the tables was taken in

A context is `Stocked` if its tables are well formed and every handle in them was taken in. Whatever a session
goes through, its context stays so (`stocked_run`): also where tables are edited directly, since a handle gets
into a table only right after it was taken in.

`Stocks` is that invariant as a relation between contexts, and so it goes through operations as other
relations do. It keeps a bound along: what was taken in before an operation is still there after it.
-/

namespace StorageDispatch

variable {σ α ε : Type}

namespace Context

/-- The tables hold handles that were taken in, and so were the handles below a bound. -/
structure Stocked (bound : Nat) (c : Context σ) : Prop where
  bounded : ∀ resource, (c.table resource).Bounded c.handles.size
  bound_le : bound ≤ c.handles.size

theorem stocked_start (config : Config) (host : Host σ) (world : σ) :
    (Session.start config host world).context.Stocked 0 where
  bounded resource := by cases resource <;> exact .of_new _ _ _
  bound_le := Nat.zero_le _

theorem Stocked.mono {bound less : Nat} {c : Context σ} (h : c.Stocked bound) (hle : less ≤ bound) :
    c.Stocked less := ⟨h.bounded, Nat.le_trans hle h.bound_le⟩

theorem Stocked.adopt {bound : Nat} {c : Context σ} (h : c.Stocked bound) (handle : FileHandle) :
    ((adopt handle).run c).2.Stocked (c.handles.size + 1) := by
  have hsize : ((Context.adopt handle).run c).2.handles.size = c.handles.size + 1 := Array.size_push _
  refine ⟨fun resource => ?_, Nat.le_of_eq hsize.symm⟩
  rw [table_adopt, hsize]
  exact (h.bounded resource).mono (Nat.le_succ _)

/-- The tables go on holding handles that were taken in. -/
def Stocks (bound : Nat) (c d : Context σ) : Prop := c.Stocked bound → d.Stocked bound

section Stocks

variable {bound : Nat} {c d : Context σ}

theorem Stocks.of_eq (htable : ∀ resource, d.table resource = c.table resource)
    (hsize : d.handles.size = c.handles.size) : Stocks bound c d := by
  intro h
  refine ⟨fun resource => ?_, ?_⟩
  · rw [htable, hsize]
    exact h.bounded resource
  · rw [hsize]
    exact h.bound_le

theorem Stocks.of_call (backend : Backend σ) (request : Call) (c : Context σ) :
    Stocks bound c ((call backend request).run c).2 :=
  .of_eq (fun resource => by cases resource <;> rfl) rfl

theorem stocks_aloof : Aloof (Stocks bound : Context σ → Context σ → Prop) :=
  .of_note (fun _ h => h) (fun hcd hde h => hde (hcd h))
    (fun _ _ _ => .of_eq (fun resource => by cases resource <;> rfl) rfl)
    (fun backend c => .of_call backend .teardown c)
    fun _ _ => .of_eq (fun resource => by cases resource <;> rfl) rfl

theorem stocks_routing : Routing (Stocks bound : Context σ → Context σ → Prop) where
  toFinding := stocks_aloof.finding
  ask backend request c _ _ := .of_call backend request c

theorem stocks_handling : Handling (fun _ _ => True) (Stocks bound : Context σ → Context σ → Prop) where
  toFinding := stocks_aloof.finding
  use resource c := .of_eq (table_made c resource) (by cases resource <;> rfl)
  found _ _ _ _ _ := trivial
  stays _ _ _ _ _ := trivial
  handle operation id serve c _ hserve := by
    refine stocks_aloof.finding.dispatchHandleAt operation id fun plugin d _ _ _ => ?_
    refine hserve plugin (Stocks bound) ?_ _
    exact {
      toFlow := stocks_aloof.toFlow
      talk := fun request _ c _ _ _ => .of_call plugin.backend request c
      move := fun _ _ => .of_eq (fun resource => by cases resource <;> rfl) Array.size_modify }

theorem stocks_closeWithOwner (operation : Operation) (resource : Resource) (id : HandleId) :
    Keeps (Stocks bound) (closeWithOwner operation resource id : Engine σ Unit) := by
  intro c
  refine stocks_aloof.finding.closeWithOwnerAt operation resource id fun plugin d _ _ _ _ _ => ?_
  exact .of_call plugin.backend _ _

/-! ## Work on a table -/

/-- Putting a table into its place, if what is in it was taken in. -/
theorem Stocks.of_does {x : ExceptT ε (Act σ) α} {result : Except ε α} {resource : Resource}
    {table : DescriptorTable HandleId} (hx : Does x c result [] (c.withTable resource table))
    (htable : c.Stocked bound → table.Bounded c.handles.size) : Stocks bound c (x.run.run c).2 := by
  intro h
  obtain ⟨events, hleft⟩ := hx.context_eq
  have hsize : (c.withTable resource table).handles.size = c.handles.size := by cases resource <;> rfl
  rw [hleft]
  refine ⟨fun other => ?_, Nat.le_trans h.bound_le (Nat.le_of_eq hsize.symm)⟩
  show (((c.withTable resource table).recording events).table other).Bounded
    (c.withTable resource table).handles.size
  rw [table_recording, hsize]
  by_cases hother : other = resource
  · rw [hother, table_withTable]
    exact htable h
  · rw [table_withTable_ne c hother]
    exact h.bounded other

theorem stocks_insertHandle (resource : Resource) {id : HandleId} (hid : id < bound) :
    Keeps (Stocks bound) (insertHandle resource id : Engine σ DescriptorKey) := by
  intro c
  cases hinsert : (c.table resource).insert id with
  | error error => exact .of_does (insertHandle_does_full hinsert) fun h => h.bounded resource
  | ok inserted =>
      refine .of_does (insertHandle_does hinsert) fun h => ?_
      exact (h.bounded resource).insert (Nat.lt_of_lt_of_le hid h.bound_le) hinsert

theorem stocks_removeHandle (resource : Resource) (key : DescriptorKey) :
    Keeps (Stocks bound) (removeHandle resource key : Engine σ HandleId) := by
  intro c
  cases hremove : (c.table resource).remove key with
  | error error => exact .of_does (removeHandle_does_missing hremove) fun h => h.bounded resource
  | ok removed =>
      exact .of_does (removeHandle_does hremove) fun h => (h.bounded resource).remove hremove

theorem stocks_clearTable (resource : Resource) :
    Respects (Stocks bound) (clearTable resource : Act σ Nat) :=
  fun c => Stocks.of_does (clearTable_does resource c) fun h => (h.bounded resource).clear

theorem stocks_clearMadeTable (resource : Resource) :
    Respects (Stocks bound) (clearMadeTable resource : Act σ Nat) := by
  refine stocks_aloof.bind stocks_aloof.get fun c => ?_
  cases c.table? resource with
  | none => exact stocks_aloof.pure _
  | some table => exact stocks_clearTable resource

theorem stocks_storeAdopted (operation : Operation) (resource : Resource) {id : HandleId} (hid : id < bound) :
    Keeps (Stocks bound) (storeAdopted operation resource id : Engine σ DescriptorKey) := by
  have F : Aloof (Stocks bound : Context σ → Context σ → Prop) := stocks_aloof
  refine F.bindE (Respects.perform (stocks_insertHandle resource hid)) fun stored => ?_
  cases stored with
  | ok key => exact F.pureE _
  | error error =>
      refine F.bindE (Respects.perform ?_) fun _ => F.throwE _
      refine F.bind (F.log rfl) fun _ => F.bind (stocks_closeWithOwner operation resource id) fun closed => ?_
      cases closed with
      | ok _ => exact F.pure _
      | error error => exact F.log rfl

theorem stocks_closeKey (operation : Operation) (resource : Resource) (key : DescriptorKey) :
    Keeps (Stocks bound) (closeKey operation resource key : Engine σ Unit) := by
  have F : Aloof (Stocks bound : Context σ → Context σ → Prop) := stocks_aloof
  refine F.bindE (stocks_handling.lookupHandle operation resource key) fun id => ?_
  refine F.bindE (stocks_closeWithOwner operation resource id) fun _ => ?_
  exact (F.counted operation (stocks_removeHandle resource key)).map _

theorem stocks_teardown : Respects (Stocks bound) (Context.teardown : Act σ Unit) := by
  have F : Aloof (Stocks bound : Context σ → Context σ → Prop) := stocks_aloof
  refine F.bind (stocks_clearMadeTable .file) fun files => ?_
  refine F.bind (stocks_clearMadeTable .directory) fun directories => ?_
  split
  · exact F.bind (F.log rfl) fun _ => F.tearDownRegistry
  · exact F.tearDownRegistry

/-- A handle is taken in, and work goes on with it. -/
theorem Stocked.adopt_bind (h : c.Stocked bound) (handle : FileHandle) {f : HandleId → Engine σ α}
    (hrest : Keeps (Stocks (c.handles.size + 1)) (f c.handles.size)) :
    ((perform (Context.adopt handle) >>= f).run.run c).2.Stocked 0 :=
  Stocked.mono (hrest _ (h.adopt handle)) (Nat.zero_le _)

end Stocks

end Context

namespace Session

open Context

variable {s : Session σ}

/-- What a backend has opened is taken in before it gets into a table. -/
theorem stocked_open (o : Opening) (h : s.context.Stocked 0) :
    (s.step (.request o.request)).2.context.Stocked 0 := by
  have hpart : ((dispatchUrl o.part).run.run s.context).2.Stocked 0 :=
    stocks_routing.dispatchUrl o.about?_part o.part_ne_teardown s.context h
  rcases hopen : (dispatchUrl o.part).run.run s.context with ⟨outcome, d⟩
  rw [hopen] at hpart
  cases outcome with
  | error error =>
      rw [(step_open_error hopen).2]
      exact hpart
  | ok handle =>
      rw [(step_open hopen).2]
      have hstored := stocks_storeAdopted o.operation o.resource (Nat.lt_succ_self d.handles.size) _
        (hpart.adopt (handle.setPathIfMissing o.url))
      exact hstored.mono (Nat.zero_le _)

/-- **Every step leaves in the tables only what was taken in.** -/
theorem stocked_step (step : Step σ) (h : s.context.Stocked 0) : (s.step step).2.context.Stocked 0 := by
  rcases step.cases with hsteady | hregisters | rfl | ⟨request, rfl, hordinary⟩
  · refine handling_step stocks_routing stocks_handling ?_ ?_ hsteady s h
    · exact fun c _ => .of_eq (fun resource => by cases resource <;> rfl) rfl
    · exact fun c _ => .of_eq (fun resource => by cases resource <;> rfl) rfl
  · exact aloof_step stocks_aloof hregisters s h
  · exact stocks_teardown s.context h
  · by_cases hsteady : request.steady = true
    · exact Request.handling_serve stocks_routing stocks_handling hsteady s.context h
    · cases request with
      | openFile url flags mode => exact stocked_open (.file url flags mode) h
      | opendir url => exact stocked_open (.directory url) h
      | close | closedir => exact (stocks_closeKey _ _ _).map _ s.context h
      | insertHandle resource handle =>
          let store (id : HandleId) : Engine σ Value := do return .key (← insertHandle resource id)
          have hstore : Keeps (Stocks (s.context.handles.size + 1)) (store s.context.handles.size) := by
            refine stocks_aloof.bindE (stocks_insertHandle resource (Nat.lt_succ_self _)) fun _ => ?_
            exact stocks_aloof.pureE _
          exact h.adopt_bind handle hstore
      | removeHandle resource key =>
          refine stocks_aloof.bindE (stocks_removeHandle resource key) (fun removed => ?_) s.context h
          exact stocks_aloof.bindE (stocks_aloof.describeHandle removed).perform fun _ => stocks_aloof.pureE _
      | clearTable resource => exact stocks_clearTable resource s.context h
      | _ => exact absurd hordinary hsteady

/-- **Whatever a session goes through, its tables hold only handles that were taken in.** -/
theorem stocked_run (steps : List (Step σ)) (h : s.context.Stocked 0) :
    (run steps s).2.context.Stocked 0 := by
  induction steps generalizing s with
  | nil => exact h
  | cons step steps ih => exact ih (stocked_step step h)

end Session

end StorageDispatch
