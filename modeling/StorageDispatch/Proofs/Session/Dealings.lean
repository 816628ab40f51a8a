import StorageDispatch.Proofs.Context.Closing
import StorageDispatch.Proofs.Context.Owners
import StorageDispatch.Proofs.Registry.Lifecycle
import StorageDispatch.Proofs.Session.Steps

set_option autoImplicit false

/-! # What a step does to open handles

Handles live in the tables, under keys. If nobody edits the tables directly, a step does one of five things
to them, and `Dealing` lists these, with the calls about handles that go with each: nothing at all, an
opening that gets a key, an opening for which there is no room, a closing, and the end of the context. Every
step is one of them (`dealing_step`), in a context that is `Sound`, and leaves it so (`sound_step`).
-/

namespace StorageDispatch

variable {σ : Type}

/-! ## Steps that edit no table -/

/-- Whether a step uses the insertion, the removal or the clearing of a table itself. -/
def Step.editsTable : Step σ → Bool
  | .request (.insertHandle ..) | .request (.removeHandle ..) | .request (.clearTable _) => true
  | _ => false

namespace Resource

def closing (resource : Resource) (key : DescriptorKey) : Request σ :=
  match resource with
  | .file => .close key
  | .directory => .closedir key

def closingOperation : Resource → Operation
  | .file => .close
  | .directory => .closedir

theorem serve_closing (resource : Resource) (key : DescriptorKey) :
    (resource.closing key : Request σ).serve =
      (fun _ => Value.unit) <$> Context.closeKey resource.closingOperation resource key := by
  cases resource <;> rfl

theorem closing_inj {resource other : Resource} {key k : DescriptorKey}
    (h : (resource.closing key : Request σ) = other.closing k) : resource = other ∧ key = k := by
  cases resource <;> cases other <;> cases h <;> exact ⟨rfl, rfl⟩

end Resource

/-- A step that edits no table is steady, or work of the registry, or the end of the context, or it opens or
closes something. -/
theorem Step.cases_of_editsTable {step : Step σ} (h : step.editsTable = false) :
    step.steady = true ∨ step.registers = true ∨ step = .request .tearDown ∨
      (∃ o : Opening, step = .request o.request) ∨
        ∃ (resource : Resource) (key : DescriptorKey), step = .request (resource.closing key) := by
  rcases step.cases with hsteady | hregisters | hend | ⟨request, rfl, hordinary⟩
  · exact .inl hsteady
  · exact .inr (.inl hregisters)
  · exact .inr (.inr (.inl hend))
  · cases request with
    | openFile url flags mode => exact .inr (.inr (.inr (.inl ⟨.file url flags mode, rfl⟩)))
    | opendir url => exact .inr (.inr (.inr (.inl ⟨.directory url, rfl⟩)))
    | close key => exact .inr (.inr (.inr (.inr ⟨.file, key, rfl⟩)))
    | closedir key => exact .inr (.inr (.inr (.inr ⟨.directory, key, rfl⟩)))
    | insertHandle | removeHandle | clearTable => exact Bool.noConfusion h
    | rediscover | tearDownRegistry | tearDown => exact Bool.noConfusion hordinary
    | _ => exact .inl rfl

namespace Context

/-! ## Work that leaves the tables alone -/

def Holds (c : Context σ) (id : HandleId) : Prop := ∃ resource key, (c.table resource).find? key = some id

/-- The tables stay as they are, and calls are about certain handles at most, and close none. -/
structure Calm (G : HandleId → Prop) (c d : Context σ) : Prop where
  table_eq : ∀ resource, d.table resource = c.table resource
  size_eq : d.handles.size = c.handles.size
  adds : Adds (fun entry => entry.2.2.closes = false ∧ ∀ opened, entry.2.2.about? = some opened → G opened.id)
    c d

section Calm

variable {G : HandleId → Prop} {c d e : Context σ}

theorem Calm.trans (hcd : Calm G c d) (hde : Calm G d e) : Calm G c e where
  table_eq resource := (hde.table_eq resource).trans (hcd.table_eq resource)
  size_eq := hde.size_eq.trans hcd.size_eq
  adds := hcd.adds.trans hde.adds

theorem Calm.mono {H : HandleId → Prop} (h : Calm G c d) (hG : ∀ id, G id → H id) : Calm H c d where
  table_eq := h.table_eq
  size_eq := h.size_eq
  adds := h.adds.mono fun _ ⟨hcloses, habout⟩ => ⟨hcloses, fun opened hopened => hG _ (habout opened hopened)⟩

/-- Calls that are about no handle. -/
theorem Calm.about?_eq_none (h : Calm (fun _ => False) c d) :
    Adds (fun entry => entry.2.2.about? = none) c d :=
  h.adds.mono fun _ ⟨_, habout⟩ => Option.eq_none_iff_forall_not_mem.mpr habout

theorem Calm.holds_iff (h : Calm G c d) (id : HandleId) : d.Holds id ↔ c.Holds id := by
  simp only [Holds, h.table_eq]

/-- A call that is not about a handle does not close one. -/
theorem closes_of_about? {request : Call} (h : request.about? = none) : request.closes = false := by
  cases request with
  | close | closedir => cases h
  | _ => rfl

theorem Calm.of_call {backend : Backend σ} {request : Call} (hcloses : request.closes = false)
    (habout : ∀ opened, request.about? = some opened → G opened.id) (c : Context σ) :
    Calm G c ((call backend request).run c).2 :=
  ⟨fun resource => by cases resource <;> rfl, rfl, .of_call ⟨hcloses, habout⟩ c⟩

theorem Calm.of_emit {event : Event} (h : event.call? = none) (c : Context σ) :
    Calm G c ((emit event).run c).2 :=
  ⟨fun resource => by cases resource <;> rfl, rfl, .of_eq (calls_emit h c)⟩

theorem calm_aloof : Aloof (Calm G : Context σ → Context σ → Prop) :=
  .of_note (fun _ => ⟨fun _ => rfl, rfl, .of_eq rfl⟩) Calm.trans (fun _ c h => .of_emit h c)
    (fun _ c => .of_call rfl nofun c)
    fun _ _ => ⟨fun resource => by cases resource <;> rfl, rfl, .of_eq rfl⟩

theorem calm_routing : Routing (Calm G : Context σ → Context σ → Prop) where
  toFinding := calm_aloof.finding
  ask _ _ c habout _ := .of_call (closes_of_about? habout) (fun _ hopened => by
    rw [habout] at hopened
    cases hopened) c

theorem calm_serves (plugin : Plugin σ) (id : HandleId) :
    Serves plugin id (Calm (· = id) : Context σ → Context σ → Prop) where
  toFlow := calm_aloof.toFlow
  talk request opened c habout hid hcloses := .of_call hcloses (fun other hother => by
    rw [habout] at hother
    cases hother
    exact hid) c
  move _ c := ⟨fun resource => by cases resource <;> rfl, Array.size_modify, .of_eq rfl⟩

/-- Steady work leaves the tables alone, and calls are about handles that are in them. -/
def CalmHere (c d : Context σ) : Prop := Calm c.Holds c d

theorem calmHere_flow : Flow (CalmHere : Context σ → Context σ → Prop) :=
  .of_emit (fun c => calm_aloof.refl c)
    (fun hcd hde => Calm.trans hcd (Calm.mono hde fun id => (Calm.holds_iff hcd id).mp))
    fun _ c h => Calm.of_emit (Event.call?_of_isRoutine h) c

theorem calmHere_routing : Routing (CalmHere : Context σ → Context σ → Prop) where
  toFlow := calmHere_flow
  discover c := calm_aloof.discover c
  ask backend request c habout h := calm_routing.ask backend request c habout h

theorem calmHere_handling : Handling (fun id c => c.Holds id) (CalmHere : Context σ → Context σ → Prop) where
  toFinding := calmHere_routing.toFinding
  use resource c := by
    refine ⟨table_made c resource, ?_, .of_eq ?_⟩ <;> cases resource <;> rfl
  found resource key id c h := by
    have hmade : ((useTable resource).run c).2.table resource = c.table resource :=
      table_made c resource resource
    exact ⟨resource, key, (congrArg (·.find? key) hmade).trans h⟩
  stays id _ _ hmoves := (Calm.holds_iff hmoves id).mpr
  handle operation id serve c hid hserve := by
    -- The calls are about the one handle that is served.
    have hcalm : Calm (· = id) c ((dispatchHandle operation id serve).run.run c).2 :=
      calm_aloof.finding.dispatchHandleAt operation id fun plugin d _ _ _ =>
        hserve plugin _ (calm_serves plugin id) _
    exact hcalm.mono fun other hother => by
      rw [hother]
      exact hid

end Calm

/-! ## The end of a context -/

/-- A table that was never made has nothing to clear. -/
theorem clear_newTable (c : Context σ) (resource : Resource) :
    (c.newTable resource).clear = c.newTable resource := by
  simp [DescriptorTable.clear, DescriptorTable.occupied, newTable]

theorem clearMadeTable_run (resource : Resource) (c : Context σ) :
    let d := ((clearMadeTable resource).run c).2
    (∀ other, d.table other = if other = resource then (c.table other).clear else c.table other) ∧
      d.handles = c.handles ∧ d.calls = c.calls := by
  cases hmade : c.table? resource with
  | none =>
      have hrun : ((clearMadeTable resource).run c).2 = c := by
        unfold clearMadeTable
        rw [run_get_bind, hmade]
        rfl
      rw [hrun]
      refine ⟨fun other => ?_, rfl, rfl⟩
      split
      · rename_i hother
        -- A table that was not made yet counts as an empty one, which clearing does not change.
        have htable : c.table resource = c.newTable resource := by
          rw [table, hmade]
          rfl
        rw [hother, htable, clear_newTable]
      · rfl
  | some made =>
      have htable : c.table resource = made := by
        rw [table, hmade]
        rfl
      have hrun : ((clearMadeTable resource).run c).2 = ((clearTable resource).run c).2 := by
        unfold clearMadeTable
        rw [run_get_bind, hmade]
      rw [hrun]
      refine ⟨fun other => ?_, ?_, ?_⟩
      · cases resource <;> cases other <;> rfl
      · cases resource <;> rfl
      · cases resource <;> exact calls_emit rfl _

/-- Once the tables are empty, only the registry is at work. -/
theorem calm_released {G : HandleId → Prop} (files directories : Nat) :
    Respects (Calm G) (do
      if files + directories > 0 then
        Context.log (.handlesReleased files directories)
      Registry.teardown : Act σ Unit) := by
  have F : Aloof (Calm G : Context σ → Context σ → Prop) := calm_aloof
  split
  · exact F.bind (F.log rfl) fun _ => F.tearDownRegistry
  · exact F.tearDownRegistry

/-- **The end of a context empties both tables**, and makes no call about a handle. -/
theorem teardown_clears (c : Context σ) :
    let d := (Context.teardown.run c).2
    (∀ resource, d.table resource = (c.table resource).clear) ∧ d.handles.size = c.handles.size ∧
      Adds (fun entry => entry.2.2.about? = none) c d := by
  intro d
  obtain ⟨htable₁, hhandles₁, hcalls₁⟩ := clearMadeTable_run .file c
  obtain ⟨htable₂, hhandles₂, hcalls₂⟩ := clearMadeTable_run .directory ((clearMadeTable .file).run c).2
  set d₁ := ((clearMadeTable .file).run c).2
  set d₂ := ((clearMadeTable .directory).run d₁).2
  have hrest : Calm (fun _ => False) d₂ d := calm_released _ _ d₂
  refine ⟨fun resource => ?_, ?_, ?_⟩
  · rw [hrest.table_eq, htable₂, htable₁]
    cases resource <;> rfl
  · rw [hrest.size_eq, hhandles₂, hhandles₁]
  · have hemptied : d₂.calls = c.calls := hcalls₂.trans hcalls₁
    exact (Adds.of_eq hemptied).trans hrest.about?_eq_none

end Context

namespace Session

open Context

/-- What holds of a context whose tables are not edited: they are well formed, what is in them was taken in,
and only a context that knows its plugins has put it there. -/
structure Sound (s : Session σ) : Prop where
  consistent : s.context.registry.Consistent
  wellFormed : ∀ resource, (s.context.table resource).WellFormed
  lt_size : ∀ id, s.context.Holds id → id < s.context.handles.size
  known : ∀ id, s.context.Holds id → s.context.registry.phase.isKnown
  about_lt_size : ∀ entry ∈ s.context.calls, ∀ opened, entry.2.2.about? = some opened →
    opened.id < s.context.handles.size

/-- **What a step does to open handles**, with its outcome. -/
inductive Dealing (c : Context σ) : Step σ → Except Error Value → Context σ → Prop
  /-- Nothing is opened and nothing closed. -/
  | calm {step : Step σ} {outcome : Except Error Value} {d : Context σ} (h : Calm c.Holds c d)
      (hend : step ≠ .request .tearDown)
      (hclosing : ∀ (resource : Resource) key, step = .request (resource.closing key) →
        (c.table resource).find? key = none ∧ ∃ error, outcome = .error error) :
      Dealing c step outcome d
  /-- A handle was taken in and got a key. -/
  | opened {o : Opening} {key : DescriptorKey} {after : DescriptorTable HandleId} {d : Context σ}
      (hinsert : (c.table o.resource).insert c.handles.size = .ok (key, after))
      (htable : ∀ resource, d.table resource = (c.withTable o.resource after).table resource)
      (hsize : d.handles.size = c.handles.size + 1) (hknown : d.registry.phase.isKnown)
      (hcalls : Adds (fun entry => entry.2.2.about? = none) c d) :
      Dealing c (.request o.request) (.ok (.key key)) d
  /-- A handle was taken in, and closed again for want of room. -/
  | rejected {o : Opening} {d : Context σ} {made : List (InstanceId × String × Call)}
      (hfull : ¬ (c.table o.resource).HasRoom)
      (htable : ∀ resource, d.table resource = c.table resource)
      (hsize : d.handles.size = c.handles.size + 1)
      (hcloses : ∃ world result world', OwnerCloses o.operation o.resource (d.shown c.handles.size)
        d.registry.plugins world result made world')
      (hcalls : ∃ asked, d.calls = c.calls ++ asked ++ made ∧ ∀ entry ∈ asked, entry.2.2.about? = none) :
      Dealing c (.request o.request) (.error .tooManyOpenFiles) d
  /-- The owner of the handle under a key was asked to close it. -/
  | closed {resource : Resource} {key : DescriptorKey} {id : HandleId} {after : DescriptorTable HandleId}
      {result : Except Error Unit} {made : List (InstanceId × String × Call)} {world : σ} {d : Context σ}
      (hremove : (c.table resource).remove key = .ok (id, after))
      (hcloses : OwnerCloses resource.closingOperation resource (c.shown id) c.registry.plugins c.world
        result made world)
      (htable : ∀ other,
        d.table other = (c.withTable resource (c.tableAfter resource after result)).table other)
      (hsize : d.handles.size = c.handles.size) (hcalls : d.calls = c.calls ++ made) :
      Dealing c (.request (resource.closing key)) ((fun _ => Value.unit) <$> result) d
  /-- Both tables were emptied. -/
  | ended {outcome : Except Error Value} {d : Context σ}
      (htable : ∀ resource, d.table resource = (c.table resource).clear)
      (hsize : d.handles.size = c.handles.size)
      (hcalls : Adds (fun entry => entry.2.2.about? = none) c d) :
      Dealing c (.request .tearDown) outcome d

/-! ## Openings -/

section Open

variable {o : Opening} {s : Session σ} {handle : FileHandle} {d : Context σ}

/-- Looking for the plugin of a URL, and having it open the URL, leaves the tables alone. -/
theorem calm_part (o : Opening) (c : Context σ) :
    Calm (fun _ => False) c ((dispatchUrl o.part).run.run c).2 :=
  calm_routing.dispatchUrl o.about?_part o.part_ne_teardown c

/-- What a backend has opened is taken in, in a context that is otherwise as it was. -/
structure Adopted (o : Opening) (c d e : Context σ) : Prop where
  size_part : d.handles.size = c.handles.size
  table_eq : ∀ resource, e.table resource = c.table resource
  size_eq : e.handles.size = c.handles.size + 1
  known : e.registry.phase.isKnown
  adds : Adds (fun entry => entry.2.2.about? = none) c e

theorem adopted_of_open (hopen : (dispatchUrl o.part).run.run s.context = (.ok handle, d)) :
    Adopted o s.context d ((adopt (handle.setPathIfMissing o.url)).run d).2 := by
  have hcalm : Calm (fun _ => False) s.context d := by
    have hpart := calm_part o s.context
    rwa [hopen] at hpart
  obtain ⟨plugin, world, -, hknown, -⟩ := dispatchUrl_ok hopen
  refine ⟨hcalm.size_eq, fun resource => ?_, ?_, hknown, hcalm.about?_eq_none⟩
  · rw [table_adopt, hcalm.table_eq]
  · show (d.handles.push (handle.setPathIfMissing o.url)).size = _
    rw [Array.size_push, hcalm.size_eq]

/-- With room, what was opened gets a key, and nothing more is done. -/
theorem open_of_room (hw : (s.context.table o.resource).WellFormed)
    (hopen : (dispatchUrl o.part).run.run s.context = (.ok handle, d))
    (hroom : (s.context.table o.resource).HasRoom) :
    let t := (s.step (.request o.request)).2
    ∃ key after, (s.context.table o.resource).insert s.context.handles.size = .ok (key, after) ∧
      (s.step (.request o.request)).1 = .ok (.key key) ∧
      (∀ resource, t.context.table resource = (s.context.withTable o.resource after).table resource) ∧
      t.context.handles.size = s.context.handles.size + 1 ∧ t.context.registry.phase.isKnown ∧
      Adds (fun entry => entry.2.2.about? = none) s.context t.context := by
  intro t
  obtain ⟨hpart, htable, hsize, hknown, hadds⟩ := adopted_of_open hopen
  obtain ⟨houtcome, hleft⟩ := step_open hopen
  set e := ((adopt (handle.setPathIfMissing o.url)).run d).2
  obtain ⟨key, after, hinsert⟩ := DescriptorTable.insert_of_hasRoom hw hroom s.context.handles.size
  have hthere : (e.table o.resource).insert d.handles.size = .ok (key, after) := by
    rw [htable, hpart, hinsert]
  have hdoes := storeAdopted_does o.operation hthere
  obtain ⟨events, hcontext⟩ := hdoes.context_eq
  rw [hdoes.result_eq] at houtcome
  have hcalls := hdoes.calls_eq
  rw [← hleft] at hcontext hcalls
  refine ⟨key, after, hinsert, houtcome, fun resource => ?_, ?_, ?_, hadds.trans (.of_eq ?_)⟩
  · rw [show t.context = _ from hcontext, table_recording]
    exact table_withTable_congr htable o.resource after resource
  · rw [show t.context = _ from hcontext, ← hsize]
    cases o <;> rfl
  · rw [show t.context = _ from hcontext]
    cases o <;> exact hknown
  · rw [show t.context.calls = _ from hcalls, List.append_nil]

/-- Without room, what was opened is closed again by its owner, and the caller is told of the want of room. -/
theorem open_of_full (hw : (s.context.table o.resource).WellFormed)
    (hopen : (dispatchUrl o.part).run.run s.context = (.ok handle, d))
    (hfull : ¬ (s.context.table o.resource).HasRoom) :
    let h := s.context.handles.size
    let t := (s.step (.request o.request)).2
    (s.step (.request o.request)).1 = .error .tooManyOpenFiles ∧
      (∀ resource, t.context.table resource = s.context.table resource) ∧
      t.context.handles.size = h + 1 ∧
      ∃ result asked made world,
        OwnerCloses o.operation o.resource (t.context.shown h) t.context.registry.plugins d.world
          result made world ∧
        t.context.calls = s.context.calls ++ asked ++ made ∧ ∀ entry ∈ asked, entry.2.2.about? = none := by
  intro h t
  obtain ⟨hpart, htable, hsize, hknown, asked, hasked, habout⟩ := adopted_of_open hopen
  obtain ⟨houtcome, hleft⟩ := step_open hopen
  set e := ((adopt (handle.setPathIfMissing o.url)).run d).2
  have hthere : (e.table o.resource).insert d.handles.size = .error .tooManyOpenFiles := by
    rw [htable, DescriptorTable.insert_of_full hw hfull]
  obtain ⟨result, made, world, hcloses⟩ := exists_ownerCloses o.operation o.resource
    (e.shown d.handles.size) e.registry.plugins e.world
  have hdoes := storeAdopted_does_full hthere hknown hcloses
  obtain ⟨events, hcontext⟩ := hdoes.context_eq
  rw [hdoes.result_eq] at houtcome
  have hcalls := hdoes.calls_eq
  rw [← hleft] at hcontext hcalls
  refine ⟨houtcome, fun resource => ?_, ?_, result, asked, made, world, ?_, ?_, habout⟩
  · rw [show t.context = _ from hcontext, table_recording, table_inWorld, table_made, htable]
  · rw [show t.context = _ from hcontext, ← hsize]
    cases o <;> rfl
  · -- Closing the handle has changed neither what it looks like nor who is listed.
    rw [show t.context = _ from hcontext, ← show _ = h from hpart]
    cases o <;> exact hcloses
  · rw [show t.context.calls = _ from hcalls, hasked]

/-- What an opening does to open handles. -/
theorem dealing_open (o : Opening) {s : Session σ} (hw : (s.context.table o.resource).WellFormed) :
    Dealing s.context (.request o.request) (s.step (.request o.request)).1
      (s.step (.request o.request)).2.context := by
  rcases hopen : (dispatchUrl o.part).run.run s.context with ⟨outcome, d⟩
  cases outcome with
  | error error =>
      have hcalm : Calm (fun _ => False) s.context d := by
        have hpart := calm_part o s.context
        rwa [hopen] at hpart
      obtain ⟨houtcome, hleft⟩ := step_open_error hopen
      rw [houtcome, hleft]
      refine .calm (hcalm.mono fun _ => False.elim) ?_ fun resource key h => ?_
      · cases o <;> nofun
      · cases o <;> cases resource <;> cases h
  | ok handle =>
      by_cases hroom : (s.context.table o.resource).HasRoom
      · obtain ⟨key, after, hinsert, houtcome, htable, hsize, hknown, hcalls⟩ :=
          open_of_room hw hopen hroom
        rw [houtcome]
        exact .opened hinsert htable hsize hknown hcalls
      · obtain ⟨houtcome, htable, hsize, result, asked, made, world, hcloses, hcalls, hasked⟩ :=
          open_of_full hw hopen hroom
        rw [houtcome]
        exact .rejected hroom htable hsize ⟨d.world, result, world, hcloses⟩ ⟨asked, hcalls, hasked⟩

end Open

/-- A closing as a step: the work in the context. -/
theorem step_closing (resource : Resource) (key : DescriptorKey) (s : Session σ) :
    let work := (closeKey resource.closingOperation resource key).run.run s.context
    (s.step (.request (resource.closing key))).1 = (fun _ => Value.unit) <$> work.1 ∧
      (s.step (.request (resource.closing key))).2.context = work.2 := by
  have hserve : (resource.closing key).serve.run.run s.context =
      ((fun _ => Value.unit) <$> ((closeKey resource.closingOperation resource key).run.run s.context).1,
        ((closeKey resource.closingOperation resource key).run.run s.context).2) := by
    rw [resource.serve_closing, run_map]
  exact ⟨congrArg Prod.fst hserve, congrArg Prod.snd hserve⟩

/-- Closing a good key is left to the owner of the handle. -/
theorem close_of_remove {resource : Resource} {key : DescriptorKey} {s : Session σ} {id : HandleId}
    {after : DescriptorTable HandleId} (hknown : s.context.registry.phase.isKnown)
    (hremove : (s.context.table resource).remove key = .ok (id, after)) :
    let t := (s.step (.request (resource.closing key))).2
    ∃ result made world,
      OwnerCloses resource.closingOperation resource (s.context.shown id) s.context.registry.plugins
        s.context.world result made world ∧
      (s.step (.request (resource.closing key))).1 = (fun _ => Value.unit) <$> result ∧
      (∀ other, t.context.table other =
        (s.context.withTable resource (s.context.tableAfter resource after result)).table other) ∧
      t.context.handles.size = s.context.handles.size ∧ t.context.calls = s.context.calls ++ made := by
  intro t
  obtain ⟨houtcome, hleft⟩ := step_closing resource key s
  obtain ⟨result, made, world, hcloses⟩ := exists_ownerCloses resource.closingOperation resource
    (s.context.shown id) s.context.registry.plugins s.context.world
  have hdoes := closeKey_does hknown hremove hcloses
  obtain ⟨events, hcontext⟩ := hdoes.context_eq
  rw [hdoes.result_eq] at houtcome
  have hcalls := hdoes.calls_eq
  rw [← hleft] at hcontext hcalls
  refine ⟨result, made, world, hcloses, houtcome, fun other => ?_, ?_, hcalls⟩
  · rw [show t.context = _ from hcontext, table_recording, table_inWorld]
  · rw [show t.context = _ from hcontext]
    cases resource <;> rfl

/-- What a closing does to open handles. -/
theorem dealing_close (resource : Resource) (key : DescriptorKey) {s : Session σ} (hs : s.Sound) :
    Dealing s.context (.request (resource.closing key)) (s.step (.request (resource.closing key))).1
      (s.step (.request (resource.closing key))).2.context := by
  cases hfind : (s.context.table resource).find? key with
  | none =>
      -- The key is good for nothing, so nobody is called.
      obtain ⟨houtcome, hleft⟩ := step_closing resource key s
      have hdoes := closeKey_does_missing resource.closingOperation hfind
      obtain ⟨events, hcontext⟩ := hdoes.context_eq
      rw [hdoes.result_eq] at houtcome
      have hcalls := hdoes.calls_eq
      rw [← hleft] at hcontext hcalls
      rw [houtcome]
      refine .calm ⟨fun other => ?_, ?_, .of_eq ?_⟩ ?_ fun other k h => ?_
      · rw [hcontext, table_recording, table_made]
      · rw [hcontext]
        cases resource <;> rfl
      · rw [hcalls, List.append_nil]
      · cases resource <;> nofun
      · obtain ⟨rfl, rfl⟩ := Resource.closing_inj (Step.request.inj h)
        exact ⟨hfind, _, rfl⟩
  | some id =>
      obtain ⟨after, hremove⟩ := DescriptorTable.remove_of_find? hfind
      obtain ⟨result, made, world, hcloses, houtcome, htable, hsize, hcalls⟩ :=
        close_of_remove (hs.known id ⟨resource, key, hfind⟩) hremove
      rw [houtcome]
      exact .closed hremove hcloses htable hsize hcalls

/-- **Every step that edits no table deals with open handles in one of these ways.** -/
theorem dealing_step {s : Session σ} (hs : s.Sound) {step : Step σ} (h : step.editsTable = false) :
    Dealing s.context step (s.step step).1 (s.step step).2.context := by
  rcases step.cases_of_editsTable h with hsteady | hregisters | rfl | ⟨o, rfl⟩ | ⟨resource, key, rfl⟩
  · have hcalm : CalmHere s.context (s.step step).2.context :=
      handling_step calmHere_routing calmHere_handling
        (fun c world => ⟨fun resource => table_inWorld c world resource, rfl, .of_eq rfl⟩)
        (fun c host => ⟨fun resource => by cases resource <;> rfl, rfl, .of_eq rfl⟩) hsteady s
    refine .calm hcalm ?_ fun resource key hclosing => ?_
    · rintro rfl
      cases hsteady
    · rw [hclosing] at hsteady
      cases resource <;> cases hsteady
  · have hcalm : Calm s.context.Holds s.context (s.step step).2.context := aloof_step calm_aloof hregisters s
    refine .calm hcalm ?_ fun resource key hclosing => ?_
    · rintro rfl
      cases hregisters
    · rw [hclosing] at hregisters
      cases resource <;> cases hregisters
  · obtain ⟨htable, hsize, hcalls⟩ := teardown_clears s.context
    exact .ended htable hsize hcalls
  · exact dealing_open o (hs.wellFormed o.resource)
  · exact dealing_close resource key hs

/-! ## What every step keeps -/

namespace Dealing

variable {c d : Context σ} {step : Step σ} {outcome : Except Error Value}

theorem size_le (h : Dealing c step outcome d) : c.handles.size ≤ d.handles.size := by
  cases h with
  | calm h => exact Nat.le_of_eq h.size_eq.symm
  | opened _ _ hsize | rejected _ _ hsize =>
      rw [hsize]
      exact Nat.le_succ _
  | closed _ _ _ hsize | ended _ hsize => exact Nat.le_of_eq hsize.symm

theorem wellFormed (h : Dealing c step outcome d) (hw : ∀ resource, (c.table resource).WellFormed)
    (resource : Resource) : (d.table resource).WellFormed := by
  cases h with
  | calm h =>
      rw [h.table_eq]
      exact hw resource
  | @opened o key after _ hinsert htable =>
      rw [htable]
      by_cases hr : resource = o.resource
      · rw [hr, table_withTable]
        exact (hw o.resource).insert hinsert
      · rw [table_withTable_ne c hr]
        exact hw resource
  | rejected _ htable =>
      rw [htable]
      exact hw resource
  | @closed changed key id after result _ _ _ hremove _ htable =>
      rw [htable]
      by_cases hr : resource = changed
      · rw [hr, table_withTable]
        cases result with
        | ok _ => exact (hw changed).remove hremove
        | error _ => exact hw changed
      · rw [table_withTable_ne c hr]
        exact hw resource
  | ended htable =>
      rw [htable]
      exact (hw resource).clear

/-- What is in a table after a step was there before, or was just taken in. -/
theorem find? (h : Dealing c step outcome d) (hw : ∀ resource, (c.table resource).WellFormed)
    {resource : Resource} {key : DescriptorKey} {id : HandleId}
    (hfind : (d.table resource).find? key = some id) :
    (c.table resource).find? key = some id ∨
      (id = c.handles.size ∧ d.handles.size = c.handles.size + 1 ∧ d.registry.phase.isKnown) := by
  cases h with
  | calm h =>
      rw [h.table_eq] at hfind
      exact .inl hfind
  | @opened o k after _ hinsert htable hsize hknown =>
      rw [htable] at hfind
      -- Only the table of what was opened has changed.
      by_cases hr : resource = o.resource
      · rw [hr, table_withTable, DescriptorTable.find?_insert (hw o.resource) hinsert] at hfind
        split at hfind
        · exact .inr ⟨(Option.some.inj hfind).symm, hsize, hknown⟩
        · rw [hr]
          exact .inl hfind
      · rw [table_withTable_ne c hr] at hfind
        exact .inl hfind
  | rejected _ htable =>
      rw [htable] at hfind
      exact .inl hfind
  | @closed changed k other after result _ _ _ hremove _ htable =>
      rw [htable] at hfind
      by_cases hr : resource = changed
      · rw [hr, table_withTable] at hfind
        rw [hr]
        cases result with
        | error _ => exact .inl hfind
        | ok _ =>
            rw [show c.tableAfter changed after (.ok _) = after from rfl,
              DescriptorTable.find?_remove hremove] at hfind
            split at hfind
            · cases hfind
            · exact .inl hfind
      · rw [table_withTable_ne c hr] at hfind
        exact .inl hfind
  | ended htable =>
      rw [htable, DescriptorTable.find?_clear] at hfind
      cases hfind

/-- Calls are about handles that are in a table, or that were just taken in. -/
theorem adds (h : Dealing c step outcome d) :
    Adds (fun entry => ∀ opened, entry.2.2.about? = some opened →
      c.Holds opened.id ∨ (opened.id = c.handles.size ∧ d.handles.size = c.handles.size + 1)) c d := by
  have hnone {P : OpenHandle → Prop} (entry : InstanceId × String × Call) (h : entry.2.2.about? = none)
      (opened : OpenHandle) (hopened : entry.2.2.about? = some opened) : P opened := by
    rw [h] at hopened
    cases hopened
  cases h with
  | calm h => exact h.adds.mono fun entry ⟨_, habout⟩ opened hopened => .inl (habout opened hopened)
  | opened _ _ _ _ hcalls | ended _ _ hcalls => exact hcalls.mono hnone
  | rejected _ _ hsize hcloses hcalls =>
      obtain ⟨asked, hcalls, hasked⟩ := hcalls
      obtain ⟨world, result, world', hcloses⟩ := hcloses
      refine ⟨_, by rw [hcalls, List.append_assoc], fun entry hentry => ?_⟩
      rcases List.mem_append.mp hentry with hentry | hentry
      · exact hnone entry (hasked entry hentry)
      · intro opened hopened
        exact .inr ⟨hcloses.about hentry hopened, hsize⟩
  | @closed resource key _ _ _ _ _ _ hremove hcloses _ _ hcalls =>
      refine ⟨_, hcalls, fun entry hentry opened hopened => .inl ?_⟩
      rw [show opened.id = _ from hcloses.about hentry hopened]
      exact ⟨resource, key, DescriptorTable.find?_of_remove hremove⟩

end Dealing

/-- **Soundness is kept by every step that edits no table.** -/
theorem sound_step {s : Session σ} (hs : s.Sound) {step : Step σ} (h : step.editsTable = false) :
    (s.step step).2.Sound := by
  have hdealing := dealing_step hs h
  have hturn := turn_step step s
  have hsize := hdealing.size_le
  refine ⟨consistent_turn hturn hs.consistent, hdealing.wellFormed hs.wellFormed, ?_, ?_, ?_⟩
  · rintro id ⟨resource, key, hfind⟩
    rcases hdealing.find? hs.wellFormed hfind with hfind | ⟨rfl, hmore, -⟩
    · exact Nat.lt_of_lt_of_le (hs.lt_size id ⟨resource, key, hfind⟩) hsize
    · rw [hmore]
      exact Nat.lt_succ_self _
  · rintro id ⟨resource, key, hfind⟩
    rcases hdealing.find? hs.wellFormed hfind with hfind | ⟨-, -, hknown⟩
    · exact known_turn hturn hs.consistent (hs.known id ⟨resource, key, hfind⟩)
    · exact hknown
  · obtain ⟨made, hcalls, hmade⟩ := hdealing.adds
    rw [hcalls]
    intro entry hentry opened hopened
    rcases List.mem_append.mp hentry with hentry | hentry
    · exact Nat.lt_of_lt_of_le (hs.about_lt_size entry hentry opened hopened) hsize
    · rcases hmade entry hentry opened hopened with hholds | ⟨hid, hmore⟩
      · exact Nat.lt_of_lt_of_le (hs.lt_size _ hholds) hsize
      · rw [hid, hmore]
        exact Nat.lt_succ_self _

theorem sound_run {steps : List (Step σ)} (h : ∀ step ∈ steps, step.editsTable = false) {s : Session σ}
    (hs : s.Sound) : (run steps s).2.Sound := by
  induction steps generalizing s with
  | nil => exact hs
  | cons step steps ih =>
      obtain ⟨hstep, hsteps⟩ := List.forall_mem_cons.mp h
      exact ih hsteps (sound_step hs hstep)

theorem sound_start (config : Config) (host : Host σ) (world : σ) : (start config host world).Sound := by
  have hnobody (id : HandleId) : ¬ (start config host world).context.Holds id := by
    rintro ⟨resource, key, hfind⟩
    have hempty := DescriptorTable.find?_new (α := HandleId) resource.name config.maxOpenFiles key
    cases resource <;> cases hempty.symm.trans hfind
  have hcalls : (start config host world).context.calls = [] := rfl
  exact {
    consistent := Registry.consistent_start config host world
    wellFormed := fun resource => by
      cases resource <;> exact DescriptorTable.new_wellFormed _ _
    lt_size := fun id hid => absurd hid (hnobody id)
    known := fun id hid => absurd hid (hnobody id)
    about_lt_size := by
      rw [hcalls]
      exact List.forall_mem_nil _ }

end Session

end StorageDispatch
