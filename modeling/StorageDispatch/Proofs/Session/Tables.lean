import StorageDispatch.Proofs.Session.Dealings

set_option autoImplicit false

/-! # The tables of a session

The tables of a new context are well formed, and whatever a session goes through, they stay so: most of the work
leaves the tables alone, and the rest of it inserts, removes or clears. **The result** is `Session.wellFormed_after`.
It holds for steps that edit a table directly too, where a session need not stay `Session.Sound`.
-/

namespace StorageDispatch

variable {σ : Type}

namespace Context

/-- Tables that are well formed stay so. -/
def StaysFormed (c d : Context σ) : Prop :=
  (∀ resource, (c.table resource).WellFormed) → ∀ resource, (d.table resource).WellFormed

theorem StaysFormed.of_eq {c d : Context σ} (h : ∀ resource, d.table resource = c.table resource) :
    StaysFormed c d := fun hw resource => by
  rw [h]
  exact hw resource

/-- One table may become another one that is well formed. -/
theorem StaysFormed.of_withTable {c d : Context σ} {resource : Resource} {after : DescriptorTable HandleId}
    (h : ∀ other, d.table other = (c.withTable resource after).table other)
    (hafter : (c.table resource).WellFormed → after.WellFormed) : StaysFormed c d := by
  intro hw other
  rw [h]
  by_cases hother : other = resource
  · rw [hother, table_withTable]
    exact hafter (hw resource)
  · rw [table_withTable_ne c hother]
    exact hw other

/-! ## Work that leaves the tables alone -/

theorem staysFormed_aloof : Aloof (StaysFormed : Context σ → Context σ → Prop) :=
  .of_note (fun _ => .of_eq fun _ => rfl) (fun h h' hw => h' (h hw))
    (fun _ _ _ => .of_eq fun resource => by cases resource <;> rfl)
    (fun _ _ => .of_eq fun resource => by cases resource <;> rfl)
    fun _ _ => .of_eq fun resource => by cases resource <;> rfl

theorem staysFormed_call (backend : Backend σ) (request : Call) :
    Respects StaysFormed (Context.call backend request) :=
  fun _ => .of_eq fun resource => by cases resource <;> rfl

theorem staysFormed_routing : Routing (StaysFormed : Context σ → Context σ → Prop) where
  toFinding := staysFormed_aloof.finding
  ask backend request c _ _ := staysFormed_call backend request c

theorem staysFormed_handling : Handling (fun _ _ => True) (StaysFormed : Context σ → Context σ → Prop) where
  toFinding := staysFormed_aloof.finding
  use resource c := .of_eq (table_made c resource)
  found _ _ _ _ _ := trivial
  stays _ _ _ _ _ := trivial
  handle operation id serve c _ hserve := by
    refine staysFormed_aloof.finding.dispatchHandleAt operation id fun plugin d _ _ _ => hserve plugin _ ?_ _
    exact {
      toFlow := staysFormed_aloof.toFlow
      talk := fun request _ c _ _ _ => staysFormed_call plugin.backend request c
      move := fun _ _ => .of_eq fun resource => by cases resource <;> rfl }

/-! ## Work on the tables -/

theorem staysFormed_insertHandle (resource : Resource) (id : HandleId) :
    Keeps StaysFormed (insertHandle resource id : Engine σ DescriptorKey) := by
  intro c
  cases hinsert : (c.table resource).insert id with
  | error error => exact .of_withTable (insertHandle_does_full hinsert).table_eq fun hw => hw
  | ok inserted => exact .of_withTable (insertHandle_does hinsert).table_eq fun hw => hw.insert hinsert

theorem staysFormed_removeHandle (resource : Resource) (key : DescriptorKey) :
    Keeps StaysFormed (removeHandle resource key : Engine σ HandleId) := by
  intro c
  cases hremove : (c.table resource).remove key with
  | error error => exact .of_withTable (removeHandle_does_missing hremove).table_eq fun hw => hw
  | ok removed => exact .of_withTable (removeHandle_does hremove).table_eq fun hw => hw.remove hremove

theorem staysFormed_clearTable (resource : Resource) :
    Respects StaysFormed (clearTable resource : Act σ Nat) :=
  fun c => .of_withTable (clearTable_does resource c).table_eq fun hw => hw.clear

/-- A closing calls the owner of a handle, and takes the key away. -/
theorem staysFormed_closeKey (operation : Operation) (resource : Resource) (key : DescriptorKey) :
    Keeps StaysFormed (closeKey operation resource key : Engine σ Unit) := by
  have F : Handling (fun _ _ => True) (StaysFormed : Context σ → Context σ → Prop) := staysFormed_handling
  refine F.bindE (F.lookupHandle _ _ _) fun id => F.bindE ?_ fun _ => (F.counted _ ?_).map _
  · refine fun c => F.toFinding.dispatchHandleAt operation id fun plugin d _ _ _ => ?_
    suffices h : Keeps StaysFormed _ from h _
    exact F.bindE (F.openHandle id).perform fun opened =>
      F.bindE (staysFormed_call plugin.backend _).perform fun _ => F.fromReply _ _
  · exact staysFormed_removeHandle resource key

/-- An opening inserts at most. -/
theorem staysFormed_opening (o : Opening) : Keeps StaysFormed (o.request : Request σ).serve := fun c hw =>
  (Session.dealing_open o (s := { context := c }) (hw o.resource)).wellFormed hw

end Context

open Context

/-- **Whatever an ordinary request does**, it leaves the tables well formed. -/
theorem Request.staysFormed_serve {request : Request σ} (h : request.ordinary = true) :
    Keeps StaysFormed request.serve := by
  have F : Handling (fun _ _ => True) (StaysFormed : Context σ → Context σ → Prop) := staysFormed_handling
  cases request with
  | openFile url flags mode => exact staysFormed_opening (.file url flags mode)
  | opendir url => exact staysFormed_opening (.directory url)
  | close key => exact (staysFormed_closeKey .close .file key).map _
  | closedir key => exact (staysFormed_closeKey .closedir .directory key).map _
  | insertHandle resource handle =>
      refine F.bindE (Respects.perform fun c => .of_eq (table_adopt handle c)) fun id => ?_
      exact F.bindE (staysFormed_insertHandle resource id) fun _ => F.pureE _
  | removeHandle resource key =>
      refine F.bindE (staysFormed_removeHandle resource key) fun id => ?_
      exact F.bindE (F.describeHandle id).perform fun _ => F.pureE _
  | clearTable resource => exact (staysFormed_clearTable resource).perform.map _
  | rediscover | tearDownRegistry | tearDown => exact Bool.noConfusion h
  | _ => exact handling_serve staysFormed_routing F rfl

namespace Session

/-- So does every step. -/
theorem staysFormed_step (step : Step σ) (s : Session σ) : StaysFormed s.context (s.step step).2.context := by
  rcases step.cases with hsteady | hregisters | rfl | ⟨request, rfl, hordinary⟩
  · exact handling_step staysFormed_routing staysFormed_handling (fun c world => .of_eq (table_inWorld c world))
      (fun _ _ => .of_eq fun resource => by cases resource <;> rfl) hsteady s
  · exact aloof_step staysFormed_aloof hregisters s
  · intro hw resource
    have htable := (teardown_clears s.context).1 resource
    rw [show (s.step (.request .tearDown)).2.context.table resource = _ from htable]
    exact (hw resource).clear
  · exact Request.staysFormed_serve hordinary s.context

/-- **The tables of a session are well formed**, whatever it went through. -/
theorem wellFormed_after (config : Config) (host : Host σ) (world : σ) (steps : List (Step σ)) (resource : Resource) :
    ((after config host world steps).context.table resource).WellFormed := by
  have hrun (s : Session σ) : StaysFormed s.context (run steps s).2.context := by
    induction steps generalizing s with
    | nil => exact fun hw => hw
    | cons step steps ih => exact fun hw => ih (s.step step).2 (staysFormed_step step s hw)
  refine hrun (start config host world) (fun resource => ?_) resource
  cases resource <;> exact DescriptorTable.new_wellFormed _ _

end Session

end StorageDispatch
