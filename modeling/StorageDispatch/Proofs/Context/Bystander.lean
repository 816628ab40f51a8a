import StorageDispatch.Proofs.Context.Alongside
import StorageDispatch.Proofs.Context.Discovering
import StorageDispatch.Proofs.Context.Stock
import StorageDispatch.Proofs.Registry.Bystander

set_option autoImplicit false

/-! # Contexts with a bystander

`Context.Flanked` compares a context with one whose registry has a bystander beside. The registries, the
worlds and the calls that were made differ as far as the bystander goes; handles and tables do not differ
at all, and no handle carries the bystander's name.

Every small step of an operation, taken in both contexts, comes to the same and leaves them flanked. The
bystander's own steps, which are its registration, its answer when it is asked about a URL and its teardown,
are taken in one context only, and leave them flanked too.
-/

namespace StorageDispatch

variable {σ α β ε : Type}

/-! ## What is compared -/

/-- The modules of a machine make backends that are alike in worlds that are as good as each other. -/
def Bystander.Fair (B : Bystander σ) (host : Host σ) : Prop :=
  ∀ dir name entryPoint, (host.directory dir).find? name = some (.library (some entryPoint)) →
    ∀ told id backend, (entryPoint told id).backend = some backend → backend.Alike B.Same backend

/-- The same calls after those of `base`, but for the bystander's. -/
def Bystander.Heard (B : Bystander σ) (base calls calls' : List (InstanceId × String × Call)) : Prop :=
  ∃ made made', calls = base ++ made ∧ calls' = base ++ made' ∧
    made'.filter (fun entry => B.others entry.1) = made.map fun entry => (entry.1.shift B.number, entry.2)

namespace Bystander

variable {B : Bystander σ} {base calls calls' : List (InstanceId × String × Call)}

theorem Heard.start (base : List (InstanceId × String × Call)) : B.Heard base base base :=
  ⟨[], [], (List.append_nil base).symm, (List.append_nil base).symm, rfl⟩

/-- A backend other than the bystander is called on both sides. -/
theorem Heard.both (h : B.Heard base calls calls') {b b' : Backend σ} (htwin : B.Twin b b') (request : Call) :
    B.Heard base (calls ++ [(b.id, b.name, request)]) (calls' ++ [(b'.id, b'.name, request)]) := by
  obtain ⟨made, made', rfl, rfl, hmade⟩ := h
  refine ⟨made ++ [(b.id, b.name, request)], made' ++ [(b'.id, b'.name, request)], ?_, ?_, ?_⟩
  · exact List.append_assoc _ _ _
  · exact List.append_assoc _ _ _
  · have hlast : [(b'.id, b'.name, request)].filter (fun entry => B.others entry.1) =
        [(b'.id, b'.name, request)] :=
      List.filter_eq_self.mpr (List.forall_mem_singleton.mpr htwin.others)
    rw [List.filter_append, hmade, hlast, List.map_append, htwin.id_eq, htwin.name_eq]
    rfl

/-- The bystander is called. -/
theorem Heard.bystander (h : B.Heard base calls calls') (request : Call) :
    B.Heard base calls (calls' ++ [(B.backend.id, B.backend.name, request)]) := by
  obtain ⟨made, made', rfl, rfl, hmade⟩ := h
  refine ⟨made, made' ++ [(B.backend.id, B.backend.name, request)], rfl, List.append_assoc _ _ _, ?_⟩
  have hlast : [(B.backend.id, B.backend.name, request)].filter (fun entry => B.others entry.1) = [] :=
    List.filter_eq_nil_iff.mpr (List.forall_mem_singleton.mpr (Bool.eq_false_iff.mp others_backend))
  rw [List.filter_append, hmade, hlast, List.append_nil]

end Bystander

namespace Context

/-- **A context, and one where a bystander is there too**, since the calls of `base` were made. The handles
below `bound` were taken in. -/
structure Flanked (B : Bystander σ) (base : List (InstanceId × String × Call)) (bound : Nat)
    (c c' : Context σ) : Prop where
  config_eq : c'.config = c.config
  host_eq : c'.host = c.host
  fair : B.Fair c.host
  world : B.Same c.world c'.world
  registry : Registry.Flanked B c.registry c'.registry
  files_eq : c'.files = c.files
  directories_eq : c'.directories = c.directories
  handles_eq : c'.handles = c.handles
  owners : ∀ handle ∈ c.handles, handle.owner ≠ B.backend.name
  bound_le : bound ≤ c.handles.size
  heard : B.Heard base c.calls c'.calls

namespace Flanked

variable {B : Bystander σ} {base : List (InstanceId × String × Call)} {bound : Nat} {c c' : Context σ}

theorem shown_eq (h : Flanked B base bound c c') (id : HandleId) : c'.shown id = c.shown id := by
  rw [shown, shown, h.handles_eq]

/-- A handle that was taken in is not the bystander's. -/
theorem owner_ne (h : Flanked B base bound c c') {id : HandleId} (hid : id < bound) :
    (c.shown id).handle.owner ≠ B.backend.name := by
  have hlt : id < c.handles.size := Nat.lt_of_lt_of_le hid h.bound_le
  rw [shown, Array.getElem?_eq_getElem hlt, Option.getD_some]
  exact h.owners _ (Array.getElem_mem hlt)

theorem mono (h : Flanked B base bound c c') {less : Nat} (hle : less ≤ bound) : Flanked B base less c c' :=
  { h with bound_le := Nat.le_trans hle h.bound_le }

/-! ## One side or both -/

theorem withRegistry (h : Flanked B base bound c c') {r r' : Registry σ} (hr : Registry.Flanked B r r') :
    Flanked B base bound { c with registry := r } { c' with registry := r' } :=
  { h with registry := hr }

/-- The record of events may grow by what is no call. -/
theorem note {event event' : Event} (hevent : event.call? = none) (hevent' : event'.call? = none)
    (h : Flanked B base bound c c') :
    Flanked B base bound ((emit event).run c).2 ((emit event').run c').2 := by
  have hheard : B.Heard base ((emit event).run c).2.calls ((emit event').run c').2.calls := by
    rw [calls_emit hevent, calls_emit hevent']
    exact h.heard
  exact { h with heard := hheard }

theorem note_right {event : Event} (hevent : event.call? = none) (h : Flanked B base bound c c') :
    Flanked B base bound c ((emit event).run c').2 := by
  have hheard : B.Heard base c.calls ((emit event).run c').2.calls := by
    rw [calls_emit hevent]
    exact h.heard
  exact { h with heard := hheard }

theorem abreast : Abreast (Flanked B base bound) := ⟨note⟩

/-- The bystander is asked about a URL, and declines. -/
theorem asked (h : Flanked B base bound c c') (url : String) (capability : Capability) :
    ((call B.backend (.checkUrl url capability)).run c').1 = .ok false ∧
      Flanked B base bound c ((call B.backend (.checkUrl url capability)).run c').2 := by
  refine ⟨B.inert.declines url capability _ _ h.world, ?_⟩
  have hheard : B.Heard base c.calls ((call B.backend (.checkUrl url capability)).run c').2.calls := by
    rw [calls_call]
    exact h.heard.bystander _
  exact { h with world := B.inert.asked url capability _ _ h.world, heard := hheard }

/-- The bystander is torn down. -/
theorem torn (h : Flanked B base bound c c') :
    Flanked B base bound c ((call B.backend .teardown).run c').2 := by
  have hheard : B.Heard base c.calls ((call B.backend .teardown).run c').2.calls := by
    rw [calls_call]
    exact h.heard.bystander _
  exact { h with world := B.inert.torn _ _ h.world, heard := hheard }

end Flanked

section Steps

variable {B : Bystander σ} {base : List (InstanceId × String × Call)} {bound : Nat} {c c' : Context σ}

open Flanked

/-- **A backend and its twin answer the same.** -/
theorem Paired.call {b b' : Backend σ} (htwin : B.Twin b b') (request : Call) :
    Paired (Flanked B base bound) Eq (Context.call b request) (Context.call b' request) := by
  intro c c' h
  have hheard : B.Heard base ((Context.call b request).run c).2.calls
      ((Context.call b' request).run c').2.calls := by
    rw [calls_call, calls_call]
    exact h.heard.both htwin request
  exact ⟨(htwin.answer_eq request _ _ h.world).symm,
    { h with world := htwin.world request _ _ h.world, heard := hheard }⟩

/-! ## Handles -/

theorem Paired.openHandle {id : HandleId} (hid : id < bound) :
    Paired (Flanked B base bound)
      (fun opened opened' => opened' = opened ∧ opened.handle.owner ≠ B.backend.name)
      (Context.openHandle id) (Context.openHandle id) :=
  fun _ _ h => ⟨⟨h.shown_eq id, h.owner_ne hid⟩, h⟩

theorem Paired.describeHandle (id : HandleId) :
    Paired (Flanked B base bound) Eq (Context.describeHandle id) (Context.describeHandle id) :=
  fun _ _ h => ⟨congrArg OpenHandle.handle (h.shown_eq id).symm, h⟩

/-- Moving a recorded position changes no owner. -/
theorem Paired.move (id : HandleId) (offset : FileHandle → Nat) :
    Paired (Flanked B base bound) Eq
      (Context.updateHandle id fun handle => handle.setOffset (offset handle))
      (Context.updateHandle id fun handle => handle.setOffset (offset handle)) := by
  intro c c' h
  have hsize : (c.handles.modify id fun handle => handle.setOffset (offset handle)).size = c.handles.size :=
    Array.size_modify
  have howners : ∀ handle ∈ c.handles.modify id fun handle => handle.setOffset (offset handle),
      handle.owner ≠ B.backend.name := by
    intro handle hmem
    obtain ⟨i, hi, rfl⟩ := Array.getElem_of_mem hmem
    have hold : i < c.handles.size := by rwa [hsize] at hi
    have howner : c.handles[i].owner ≠ B.backend.name := h.owners _ (Array.getElem_mem hold)
    rw [Array.getElem_modify]
    split
    · exact howner
    · exact howner
  exact ⟨rfl, { h with
    handles_eq := congrArg (·.modify id fun handle => handle.setOffset (offset handle)) h.handles_eq
    owners := howners
    bound_le := Nat.le_trans h.bound_le (Nat.le_of_eq hsize.symm) }⟩

/-- A handle that is not the bystander's is taken in. -/
theorem Flanked.adopt (h : Flanked B base bound c c') {handle : FileHandle}
    (howner : handle.owner ≠ B.backend.name) :
    Meets (Flanked B base (c.handles.size + 1)) (fun id id' => id' = id ∧ id = c.handles.size)
      (Context.adopt handle) (Context.adopt handle) c c' := by
  have howners : ∀ other ∈ c.handles.push handle, other.owner ≠ B.backend.name := by
    intro other hmem
    rcases Array.mem_push.mp hmem with hold | rfl
    · exact h.owners other hold
    · exact howner
  exact ⟨⟨congrArg Array.size h.handles_eq, rfl⟩, { h with
    handles_eq := congrArg (·.push handle) h.handles_eq
    owners := howners
    bound_le := Nat.le_of_eq (Array.size_push handle).symm }⟩

/-! ## Tables -/

theorem Flanked.tabled : Tabled (Flanked B base bound) where
  toAbreast := abreast
  config_eq h := h.config_eq
  table?_eq h resource := by
    cases resource with
    | file => exact h.files_eq
    | directory => exact h.directories_eq
  withTable {c c'} h resource table := by
    cases resource with
    | file => exact { h with files_eq := rfl, heard := h.heard }
    | directory => exact { h with directories_eq := rfl, heard := h.heard }

/-- A handle that is looked up was taken in, and work on it may rely on that. -/
theorem Flanked.served (h : Flanked B base 0 c c') (hstocked : c.Stocked 0) (operation : Operation)
    (resource : Resource) (key : DescriptorKey) {A : α → β → Prop} {f : HandleId → Engine σ α}
    {g : HandleId → Engine σ β} (hrest : ∀ id, PairedE (Flanked B base (id + 1)) A (f id) (g id)) :
    MeetsE (Flanked B base 0) A (Context.lookupHandle operation resource key >>= f)
      (Context.lookupHandle operation resource key >>= g) c c' := by
  have hlookup := tabled.lookupHandle (T := Flanked B base 0) operation resource key
  refine MeetsE.bind (hlookup c c' h) fun id id' d d' hfound hid hleft => ?_
  obtain ⟨hfind, hd⟩ := lookupHandle_ok hfound
  -- What is found in a table was taken in.
  have hlt : id < d.handles.size := by
    have hsize : d.handles.size = c.handles.size := by
      rw [hd]
      cases resource <;> rfl
    rw [hsize]
    exact (hstocked.bounded resource).lt key id hfind
  have hmeets := hrest id d d' { hleft with bound_le := hlt }
  rw [← hid]
  exact ⟨hmeets.1, hmeets.2.mono (Nat.zero_le _)⟩

/-! ## The registry at work -/

theorem Paired.update {change change' : Registry σ → Registry σ}
    (h : ∀ r r', Registry.Flanked B r r' → Registry.Flanked B (change r) (change' r')) :
    Paired (Flanked B base bound) Eq (Registry.update change) (Registry.update change') :=
  fun _ _ hflanked => ⟨rfl, hflanked.withRegistry (h _ _ hflanked.registry)⟩

/-- **The plugins are discovered side by side.** What a fair module makes is its own twin: nobody moves the
identities of modules' backends. -/
theorem Flanked.discovering : Discovering (Flanked B base bound) B.Twin B.Beside where
  toAbreast := abreast
  config_eq h := h.config_eq
  host_eq h := h.host_eq
  phase_eq h := h.registry.phase_eq
  makes h dir name entryPoint hfile told n backend hbackend := by
    have halike := h.fair dir name entryPoint hfile told _ backend hbackend
    exact ⟨⟨rfl, rfl, halike.answer_eq, halike.world⟩, rfl⟩
  listed h := h.registry.beside
  nextInstance c _ h :=
    ⟨⟨congrArg InstanceId.loaded h.registry.loads_eq, c.registry.loads, rfl⟩, h.withRegistry h.registry.load⟩
  tearDown htwin := .call htwin .teardown
  rephase h _ hphase := h.withRegistry (h.registry.rephase hphase)
  fill h _ htwins := h.withRegistry (h.registry.afterDiscovery htwins)
  queue h _ _ htwin := h.withRegistry (h.registry.requeue (h.registry.queued.append (.both htwin .nil)))
  enroll {c c'} h hready b b' htwin := by
    have hphase : c.registry.phase ≠ .tornDown := fun hgone => by
      rw [hready] at hgone
      cases hgone
    exact h.withRegistry (h.registry.enroll hphase (.both htwin .nil))

/-- **The bystander is registered.** -/
theorem Flanked.register_bystander (h : Flanked B base bound c c') :
    Flanked B base bound c ((Registry.register B.backend).run c').2 := by
  have hqueued : Registry.Flanked B c.registry
      { c'.registry with pending := c'.registry.pending ++ [B.backend] } := by
    have hjoined := h.registry.queued.append (.other rfl .nil)
    rw [List.append_nil] at hjoined
    exact h.registry.requeue hjoined
  unfold Registry.register
  rw [run_get_bind]
  cases hphase : c'.registry.phase with
  | uninitialized | failed => exact (h.note_right rfl).withRegistry hqueued
  | tornDown => exact (h.note_right rfl).torn
  | ready =>
      have hready : c.registry.phase ≠ .tornDown := fun hgone => by
        rw [← h.registry.phase_eq, hphase] at hgone
        cases hgone
      exact ((h.note_right rfl).withRegistry (h.registry.enroll_bystander hready .static)).note_right rfl

/-! ## Teardown -/

theorem Paired.tearDownPlugin {p p' : Plugin σ} (htwin : B.Twin p.backend p'.backend) :
    Paired (Flanked B base bound) Eq p.teardown p'.teardown := by
  refine .get fun c c' h => ?_
  have htorn : c'.registry.tornDown.contains p'.id = c.registry.tornDown.contains p.id := by
    rw [Bool.eq_iff_iff, List.contains_iff_mem, List.contains_iff_mem, Plugin.id, htwin.id_eq]
    exact h.registry.tornDown_iff p.id
  rw [htorn]
  split
  · exact Paired.pure rfl c c' h
  · refine Paired.bindEq (.update fun r r' hr => ?_) (fun _ => (abreast.log _ _).bindEq fun _ =>
      (Paired.call htwin .teardown).bindEq fun _ => .pure rfl) c c' h
    rw [Plugin.id, Plugin.id, htwin.id_eq]
    exact hr.mark p.id

theorem Flanked.tearDownPlugin_bystander {p : Plugin σ} (hp : p.backend = B.backend)
    (h : Flanked B base bound c c') : Flanked B base bound c (p.teardown.run c').2 := by
  unfold Plugin.teardown
  rw [run_get_bind]
  split
  · exact h
  · have hmarked : Registry.Flanked B c.registry
        { c'.registry with tornDown := p.id :: c'.registry.tornDown } := by
      rw [Plugin.id, hp]
      exact h.registry.mark_bystander
    have hlogged : Flanked B base bound c ((log (.pluginTornDown p.name)).run
        { c' with registry := { c'.registry with tornDown := p.id :: c'.registry.tornDown } }).2 :=
      (h.withRegistry hmarked).note_right rfl
    have htorn := hlogged.torn
    rw [← hp] at htorn
    exact htorn

/-- Going through lists that stand side by side. -/
theorem Paired.forM_joined {γ δ : Type} {T : Context σ → Context σ → Prop} {R : γ → δ → Prop} {P : δ → Prop}
    {l : List γ} {l' : List δ} {f : γ → Act σ PUnit} {g : δ → Act σ PUnit} (hl : Joined R P l l')
    (hboth : ∀ a b, R a b → Paired T Eq (f a) (g b))
    (hother : ∀ b, P b → ∀ c c', T c c' → T c ((g b).run c').2) :
    Paired T Eq (l.forM f) (l'.forM g) := by
  induction hl with
  | nil => exact .pure rfl
  | both hab _ ih => exact (hboth _ _ hab).bindEq fun _ => ih
  | other hb _ ih => exact .of_right (hother _ hb) ih

/-- **All are torn down**, the bystander among them. -/
theorem Paired.tearDownRegistry :
    Paired (Flanked B base bound) Eq Registry.teardown Registry.teardown := by
  refine .get fun c c' h => ?_
  dsimp only
  have hplugins := h.registry.beside
  have hgone : (c'.registry.phase = .tornDown ∧ c'.registry.plugins = []) ↔
      (c.registry.phase = .tornDown ∧ c.registry.plugins = []) := by
    rw [h.registry.phase_eq]
    refine and_congr_right fun hphase => iff_of_true (h.registry.gone hphase) ?_
    rw [h.registry.gone hphase] at hplugins
    exact hplugins.eq_nil
  rw [if_congr hgone rfl rfl]
  split
  · exact Paired.pure rfl c c' h
  · refine Paired.bindEq (.update fun _ _ hr => hr.vacate) (fun _ => (abreast.log _ _).bindEq fun _ =>
      (abreast.measure _ _).bindEq fun _ => Paired.bindEq ?_ fun _ => ?_) c c' h
    · refine .forM_joined hplugins (fun p p' htwin => ?_) fun p hp c c' h => h.tearDownPlugin_bystander hp
      exact (Paired.tearDownPlugin htwin).bindEq fun _ => .pure rfl
    · refine .forM_joined h.registry.queued (fun b b' htwin => .call htwin .teardown) ?_
      rintro b rfl c c' h
      exact h.torn

/-! ## Looking plugins up -/

/-- **No URL is claimed by the bystander**, so both sides find the same plugin. -/
theorem PairedE.firstClaiming (url : String) (capability : Capability) {plugins plugins' : List (Plugin σ)}
    (hplugins : B.Beside plugins plugins') :
    PairedE (Flanked B base bound) (fun p p' => B.Twin p.backend p'.backend)
      (Registry.firstClaiming url capability plugins) (Registry.firstClaiming url capability plugins') := by
  induction hplugins with
  | nil => exact .throw _
  | both htwin _ ih =>
      refine .bindEq (Paired.call htwin _).perform fun claimed => ?_
      rcases claimed with source | (_ | _)
      · exact .throw _
      · exact ih
      · exact .bindEq (abreast.log _ _).perform fun _ => .pure htwin
  | @other p plugins plugins' hp _ ih =>
      -- The bystander is asked, and declines; the search goes on behind it.
      intro c c' h
      obtain ⟨hanswer, hasked⟩ := h.asked url capability
      have hright : (Registry.firstClaiming url capability (p :: plugins')).run.run c' =
          (Registry.firstClaiming url capability plugins').run.run
            ((Context.call B.backend (.checkUrl url capability)).run c').2 := by
        rw [Registry.firstClaiming, run_perform_bindE, hp, hanswer]
      unfold Meets
      rw [hright]
      exact ih c _ hasked

theorem PairedE.findFor (url : String) (capability : Capability) :
    PairedE (Flanked B base bound) (fun p p' => B.Twin p.backend p'.backend)
      (Registry.findFor url capability) (Registry.findFor url capability) :=
  .bind discovering.discover fun _ _ hplugins => .firstClaiming url capability hplugins

theorem find?_beside {plugins plugins' : List (Plugin σ)} (hplugins : B.Beside plugins plugins')
    {name : String} (hname : name ≠ B.backend.name) :
    Option.Rel (fun p p' => B.Twin p.backend p'.backend) (plugins.find? fun plugin => plugin.name == name)
      (plugins'.find? fun plugin => plugin.name == name) := by
  induction hplugins with
  | nil => exact .none
  | @both p p' _ _ htwin _ ih =>
      rw [List.find?_cons, List.find?_cons, Plugin.name, Plugin.name, htwin.name_eq]
      cases p.backend.name == name with
      | true => exact .some htwin
      | false => exact ih
  | @other p _ _ hp _ ih =>
      have hne : (p.name == name) = false := by
        rw [Plugin.name, hp, beq_eq_false_iff_ne]
        exact hname.symm
      rw [List.find?_cons, hne]
      exact ih

theorem PairedE.findByName {name : String} (hname : name ≠ B.backend.name) :
    PairedE (Flanked B base bound) (fun p p' => B.Twin p.backend p'.backend)
      (Registry.findByName name) (Registry.findByName name) := by
  refine .bind discovering.discover fun plugins plugins' hplugins => ?_
  have hfound := find?_beside hplugins hname
  generalize (plugins.find? fun plugin => plugin.name == name) = found at hfound ⊢
  generalize (plugins'.find? fun plugin => plugin.name == name) = found' at hfound ⊢
  cases hfound with
  | none => exact .throw _
  | some htwin => exact .pure htwin

end Steps

end Context

end StorageDispatch
