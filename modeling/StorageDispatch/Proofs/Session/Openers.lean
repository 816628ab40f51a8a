import StorageDispatch.Proofs.Context.Owners
import StorageDispatch.Proofs.Registry.Lifecycle
import StorageDispatch.Proofs.Session.Steps
import Mathlib

set_option autoImplicit false

/-! # Handles stay with their openers

A handle is found again by its opener's name, in a list that every registration builds anew. If the listed
plugins have different names, and put their own names on what they open, then the plugin that opened a
handle claims it (`claimed_of_open`), and no step takes it away from it (`claimed_step`). So all calls about
the handle, in the rest of a run, are made on the very instance that opened it.
-/

namespace StorageDispatch

variable {σ : Type}

/-- A backend puts its own name on the handles that it opens. -/
def Backend.Stamps (backend : Backend σ) : Prop :=
  ∀ world handle,
    (∀ url flags mode, (backend.respond (.openFile url flags mode) world).1 = .ok handle →
      handle.owner = backend.name) ∧
    ∀ url, (backend.respond (.opendir url) world).1 = .ok handle → handle.owner = backend.name

/-- The listed plugins have different names, and put them on the handles that they open. -/
structure Context.Distinct (c : Context σ) : Prop where
  nodup : (c.registry.plugins.map Plugin.name).Nodup
  stamps : ∀ plugin ∈ c.registry.plugins, plugin.backend.Stamps

theorem Context.Distinct.of_plugins {c : Context σ} (plugins : List (Plugin σ))
    (h : c.registry.plugins = plugins) (hnodup : (plugins.map Plugin.name).Nodup)
    (hstamps : ∀ plugin ∈ plugins, plugin.backend.Stamps) : c.Distinct := by
  subst h
  exact ⟨hnodup, hstamps⟩

theorem FileHandle.owner_setPathIfMissing (handle : FileHandle) (url : String) :
    (handle.setPathIfMissing url).owner = handle.owner := by
  unfold FileHandle.setPathIfMissing
  split <;> rfl

/-! ## Claims and registrations -/

namespace Registry

variable {name : String} {i : InstanceId}

/-- A plugin that joins the list has another name than those that are there, if all names differ then. -/
theorem name_ne_of_enroll {registry : Registry σ} {backend : Backend σ} {plugin : Plugin σ}
    (hnodup : ((registry.enroll [(backend, .static)]).plugins.map Plugin.name).Nodup)
    (hmem : plugin ∈ registry.plugins) : backend.name ≠ plugin.name := by
  have hnames : ((registry.enroll [(backend, .static)]).plugins.map Plugin.name).Perm
      (registry.plugins.map Plugin.name ++ [backend.name]) := by
    have hperm := (sortPlugins_perm
      (registry.plugins ++ numbered registry.nextOrder [(backend, .static)])).map Plugin.name
    rwa [List.map_append] at hperm
  have hdisjoint := (List.nodup_append.mp (hnames.nodup_iff.mp hnodup)).2.2
  exact (hdisjoint _ (List.mem_map_of_mem hmem) _ (List.mem_singleton_self _)).symm

/-- A claim outlasts a registration. -/
theorem Claims.enroll {registry : Registry σ} {backend : Backend σ} (hc : registry.Claims name i)
    (hready : registry.phase = .ready)
    (hnodup : ((registry.enroll [(backend, .static)]).plugins.map Plugin.name).Nodup) :
    (registry.enroll [(backend, .static)]).Claims name i := by
  have hmem (plugin : Plugin σ) : plugin ∈ (registry.enroll [(backend, .static)]).plugins ↔
      plugin ∈ registry.plugins ∨ plugin ∈ [⟨backend, registry.nextOrder, .static⟩] :=
    (sortPlugins_perm _).mem_iff.trans List.mem_append
  obtain ⟨opener, hopener, hname⟩ := hc.listed hready
  refine ⟨hc.known, fun _ => ⟨opener, (hmem opener).mpr (.inl hopener), hname⟩, fun plugin h hplugin => ?_⟩
  rcases (hmem plugin).mp h with h | h
  · exact hc.only plugin h hplugin
  · -- The newcomer would have the name of the opener.
    rw [List.mem_singleton.mp h] at hplugin
    exact absurd (hplugin.trans hname.symm) (name_ne_of_enroll hnodup hopener)

theorem Claims.register {l : Ledger σ} {backend : Backend σ} (hc : l.registry.Claims name i)
    (hnodup : ((l.register backend).registry.plugins.map Plugin.name).Nodup) :
    (l.register backend).registry.Claims name i := by
  have hknown := hc.known
  unfold Ledger.register at hnodup ⊢
  cases hphase : l.registry.phase with
  | uninitialized | failed error =>
      rw [hphase] at hknown
      exact hknown.elim
  | tornDown => exact hc
  | ready =>
      rw [hphase] at hnodup
      exact hc.enroll hphase hnodup

/-- Once the plugins are known, looking for them again changes nothing. -/
theorem Claims.discover_eq {l : Ledger σ} (hc : l.registry.Claims name i) :
    l.discover = l ∧ l.rediscover = l := by
  have hknown := hc.known
  have hdiscover : l.discover = l := Ledger.discover_of_ne fun hphase => by
    rwa [hphase] at hknown
  refine ⟨hdiscover, ?_⟩
  rw [Ledger.rediscover_of_ne, hdiscover]
  intro error hphase
  rwa [hphase] at hknown

end Registry

namespace Session

open Context

def Along (P : Session σ → Prop) : List (Step σ) → Session σ → Prop
  | [], s => P s
  | step :: steps, s => P s ∧ Along P steps (s.step step).2

theorem Along.head {P : Session σ → Prop} {steps : List (Step σ)} {s : Session σ}
    (h : Along P steps s) : P s := by
  cases steps with
  | nil => exact h
  | cons => exact h.1

/-! ## Steps of the registry -/

/-- Handles are left alone, and nobody is called about one. -/
def Quiet (c d : Context σ) : Prop :=
  d.handles = c.handles ∧ Adds (fun entry => entry.2.2.about? = none) c d

theorem quiet_aloof : Aloof (Quiet : Context σ → Context σ → Prop) := by
  refine .of_note (fun _ => ⟨rfl, .of_eq rfl⟩) (fun h h' => ⟨h'.1.trans h.1, h.2.trans h'.2⟩)
    (fun _ c h => ⟨rfl, .of_eq (calls_emit h c)⟩) (fun backend c => ⟨rfl, .of_call ?_ c⟩)
    fun _ _ => ⟨rfl, .of_eq rfl⟩
  rfl

theorem quiet_routing : Routing (Quiet : Context σ → Context σ → Prop) where
  toFinding := quiet_aloof.finding
  ask _ _ c habout _ := ⟨rfl, .of_call habout c⟩

theorem quiet_teardown : Respects Quiet (Context.teardown : Act σ Unit) := by
  refine quiet_aloof.teardown fun c resource table => ?_
  cases resource <;> exact ⟨rfl, .of_eq rfl⟩

/-! ## Claims -/

section Claims

variable {h : HandleId} {name : String} {i : InstanceId} {step : Step σ} {s t : Session σ}

/-- Whatever a step does to the registry, a claim outlasts it. -/
theorem claims_turn (hturn : Turn step s t) (hc : s.context.registry.Claims name i)
    (hconsistent : s.context.registry.Consistent)
    (hnodup : (t.context.registry.plugins.map Plugin.name).Nodup) : t.context.registry.Claims name i := by
  have hs : s.ledger.registry.Claims name i := hc
  -- The registry is read off the ledger, where a turn says what it does.
  suffices ht : t.ledger.registry.Claims name i from ht
  cases hturn with
  | looked _ hledger =>
      rw [hs.discover_eq.1, or_self] at hledger
      rwa [hledger]
  | rediscovered hledger =>
      rw [hs.discover_eq.2] at hledger
      rwa [hledger]
  | registered hledger =>
      rw [show t.context.registry = _ from congrArg Ledger.registry hledger] at hnodup
      rw [hledger]
      exact hs.register hnodup
  | tornDown hrequest hledger =>
      -- Nobody is listed any more.
      obtain ⟨hphase, hplugins, -⟩ := Ledger.registry_tearDown (l := s.ledger) hconsistent
      rw [hledger]
      refine ⟨by rw [hphase]; trivial, fun hready => ?_, fun plugin hmem => ?_⟩
      · rw [hphase] at hready
        cases hready
      · rw [hplugins] at hmem
        cases hmem
  | pluginTornDown _ hledger =>
      rw [hledger, Ledger.registry_tearDownPlugin]
      exact ⟨hs.known, hs.listed, hs.only⟩
  | nothingTornDown => exact hs
  | hostChanged hledger =>
      rw [hledger]
      exact hs

/-- **No step takes a handle away from the instance that claims it.** -/
theorem claimed_step (step : Step σ) {s : Session σ} (hc : Claimed h name i s.context)
    (hconsistent : s.context.registry.Consistent)
    (hnodup : ((s.step step).2.context.registry.plugins.map Plugin.name).Nodup) :
    Claimed h name i (s.step step).2.context ∧
      Adds (fun entry => ∀ opened, entry.2.2.about? = some opened → opened.id = h → entry.1 = i)
        s.context (s.step step).2.context := by
  -- Work that leaves the handles alone may do what it likes to the registry.
  have hquiet (hmoves : Quiet s.context (s.step step).2.context) :
      Claimed h name i (s.step step).2.context ∧
        Adds (fun entry => ∀ opened, entry.2.2.about? = some opened → opened.id = h → entry.1 = i)
          s.context (s.step step).2.context := by
    obtain ⟨hhandles, hadds⟩ := hmoves
    refine ⟨⟨claims_turn (turn_step step s) hc.claims hconsistent hnodup, ?_, ?_⟩, ?_⟩
    · rw [hhandles]
      exact hc.lt_size
    · rw [ownerOf, hhandles]
      exact hc.owner
    · refine hadds.mono fun entry hnone opened hsome => ?_
      rw [hnone] at hsome
      cases hsome
  rcases step.cases with hsteady | hregisters | rfl | ⟨request, rfl, hordinary⟩
  · exact handling_step loyal_routing loyal_storing.toHandling (fun _ _ => .of_eq rfl rfl rfl)
      (fun _ _ => .of_eq rfl rfl rfl) hsteady s hc
  · exact hquiet (aloof_step quiet_aloof hregisters s)
  · exact hquiet (quiet_teardown s.context)
  · exact Request.storing_serve loyal_routing loyal_storing hordinary s.context hc

/-- **A claimed handle stays with its instance**: all calls about it are made on that instance, for the rest
of every run in which the listed plugins have different names. -/
theorem claimed_run (steps : List (Step σ)) {s : Session σ} (hc : Claimed h name i s.context)
    (hconsistent : s.context.registry.Consistent)
    (hdistinct : Along (fun s => s.context.Distinct) steps s) :
    Claimed h name i (run steps s).2.context ∧
      Adds (fun entry => ∀ opened, entry.2.2.about? = some opened → opened.id = h → entry.1 = i)
        s.context (run steps s).2.context := by
  induction steps generalizing s with
  | nil => exact ⟨hc, .of_eq rfl⟩
  | cons step steps ih =>
      obtain ⟨-, hrest⟩ := hdistinct
      have hnext : (s.step step).2.context.Distinct := hrest.head
      obtain ⟨hc', hadds⟩ := claimed_step step hc hconsistent hnext.nodup
      obtain ⟨hc'', hmore⟩ := ih hc' (consistent_turn (turn_step step s) hconsistent) hrest
      exact ⟨hc'', hadds.trans hmore⟩

/-! ## Openings -/

/-- What the backend of an opening answers carries the backend's name. -/
theorem owner_of_part {o : Opening} {plugin : Plugin σ} {world : σ} {handle : FileHandle}
    (hstamps : plugin.backend.Stamps)
    (h : tag o.part.operation (o.part.accept (plugin.backend.respond o.part.call world).1) = .ok handle) :
    handle.owner = plugin.name := by
  have hanswer : o.part.accept (plugin.backend.respond o.part.call world).1 = .ok handle := by
    cases hreply : o.part.accept (plugin.backend.respond o.part.call world).1 with
    | ok answer =>
        rw [hreply] at h
        exact congrArg Except.ok (Except.ok.inj h)
    | error source =>
        rw [hreply] at h
        cases h
  cases o with
  | file url flags mode => exact (hstamps world handle).1 url flags mode hanswer
  | directory url => exact (hstamps world handle).2 url hanswer

/-- Storing a handle leaves a known list of plugins as it is. -/
theorem registry_storeAdopted (operation : Operation) (resource : Resource) (id : HandleId) {c : Context σ}
    (hknown : c.registry.phase.isKnown) :
    ((storeAdopted operation resource id).run.run c).2.registry = c.registry :=
  (follows_frame.storing.storeAdopted operation resource id c).registry_eq hknown

/-- **The plugin that opens a handle claims it**, also where the handle is closed again at once. -/
theorem claimed_of_open {o : Opening} {s : Session σ} {handle : FileHandle} {d : Context σ} {call : Call}
    (hopen : (dispatchUrl o.part).run.run s.context = (.ok handle, d))
    (hopener : d.calls.getLast? = some (i, name, call))
    (hdistinct : (s.step (.request o.request)).2.context.Distinct) :
    Claimed s.context.handles.size name i (s.step (.request o.request)).2.context ∧
      Adds (fun entry => ∀ opened, entry.2.2.about? = some opened →
        opened.id = s.context.handles.size → entry.1 = i)
        s.context (s.step (.request o.request)).2.context := by
  obtain ⟨plugin, world, hmem, hknown, hlast, hanswer⟩ := dispatchUrl_ok hopen
  rw [hlast] at hopener
  obtain ⟨rfl, rfl, -⟩ : plugin.id = i ∧ plugin.name = name ∧ o.part.call = call := by
    simpa using hopener
  have hquiet : Quiet s.context d := by
    have hmoves : Quiet s.context ((dispatchUrl o.part).run.run s.context).2 :=
      quiet_routing.dispatchUrl o.about?_part o.part_ne_teardown s.context
    rwa [show ((dispatchUrl o.part).run.run s.context).2 = d from congrArg Prod.snd hopen] at hmoves
  obtain ⟨hhandles, hasked⟩ := hquiet
  obtain ⟨-, hleft⟩ := step_open hopen
  have hregistry : (s.step (.request o.request)).2.context.registry = d.registry := by
    rw [hleft]
    exact registry_storeAdopted _ _ _ hknown
  obtain ⟨hnodup, hstamps⟩ := hdistinct
  rw [hregistry] at hnodup hstamps
  -- The handle is claimed as soon as it is taken in.
  have hclaims : d.registry.Claims plugin.name plugin.id :=
    ⟨hknown, fun _ => ⟨plugin, hmem, rfl⟩, fun p hp hname =>
      congrArg Plugin.id (List.inj_on_of_nodup_map hnodup hp hmem hname)⟩
  have hclaimed : Claimed d.handles.size plugin.name plugin.id
      ((adopt (handle.setPathIfMissing o.url)).run d).2 := by
    refine ⟨hclaims, ?_, ?_⟩
    · show d.handles.size < (d.handles.push (handle.setPathIfMissing o.url)).size
      rw [Array.size_push]
      exact Nat.lt_succ_self _
    · show (((d.handles.push (handle.setPathIfMissing o.url))[d.handles.size]?).getD default).owner = _
      rw [Array.getElem?_push_size, Option.getD_some, FileHandle.owner_setPathIfMissing]
      exact owner_of_part (hstamps plugin hmem) hanswer
  have hloyal := loyal_storing.storeAdopted o.operation o.resource d.handles.size
    ((adopt (handle.setPathIfMissing o.url)).run d).2 hclaimed
  rw [← hleft, hhandles] at hloyal
  refine ⟨hloyal.1, ?_⟩
  have hbefore : Adds (fun entry => ∀ opened, entry.2.2.about? = some opened →
      opened.id = s.context.handles.size → entry.1 = plugin.id) s.context d := by
    refine hasked.mono fun entry hnone opened hsome => ?_
    rw [hnone] at hsome
    cases hsome
  exact hbefore.trans hloyal.2

end Claims

/-! ## Whole runs -/

/-- **Handles stay with their openers.** If the listed plugins of a run have different names and put them on
what they open, then whatever a session goes through before and after an opening succeeds, all calls about
the new handle are made on the instance that the opening called last, the one that opened it. And serving an
open handle asks no plugin about a URL, unless a directory's listing has to be completed by a stat. -/
theorem handles_stay_with_openers (config : Config) (host : Host σ) (world : σ)
    (before later : List (Step σ)) (o : Opening) {handle : FileHandle} {d : Context σ} :
    let s := after config host world before
    (dispatchUrl o.part).run.run s.context = (.ok handle, d) →
      Along (fun t => t.context.Distinct) (.request o.request :: later) s →
        (∃ i name, d.calls.getLast? = some (i, name, o.part.call) ∧
          Adds (fun entry => ∀ opened, entry.2.2.about? = some opened →
              opened.id = s.context.handles.size → entry.1 = i)
            s.context (run (.request o.request :: later) s).2.context) ∧
        (∀ request : Request σ, request.servesHandle = true → Keeps Unasked request.serve) ∧
        ∀ key (c : Context σ),
          (∀ id e, (lookupHandle .readdirPlus .directory key).run.run c = (.ok id, e) →
            ((nativeListing id).run.run e).1 ≠ .ok none) →
          Unasked c ((readdirPlus key).run.run c).2 := by
  intro s hopen hdistinct
  refine ⟨?_, fun request h => request.unasked_of_servesHandle h, fun key c h => unasked_readdirPlus h⟩
  obtain ⟨plugin, -, -, -, hlast, -⟩ := dispatchUrl_ok hopen
  obtain ⟨-, hlater⟩ := hdistinct
  have hnext : (s.step (.request o.request)).2.context.Distinct := hlater.head
  obtain ⟨hclaimed, hadds⟩ := claimed_of_open hopen hlast hnext
  have hconsistent : (s.step (.request o.request)).2.context.registry.Consistent :=
    consistent_turn (turn_step _ s) (consistent_after config host world before)
  obtain ⟨-, hmore⟩ := claimed_run later hclaimed hconsistent hlater
  exact ⟨plugin.id, plugin.name, hlast, hadds.trans hmore⟩

def willing (name : String) (priority : Int) (id : InstanceId) : Backend Unit where
  id := id
  name := name
  priority := priority
  respond call world :=
    match call with
    | .checkUrl .. => (.ok true, world)
    | .openFile .. => (.ok { owner := name }, world)
    | .close _ => (.ok (), world)
    | call => (call.unimplemented, world)

theorem stamps_willing (name : String) (priority : Int) (id : InstanceId) :
    (willing name priority id).Stamps := by
  refine fun world handle => ⟨fun url flags mode h => ?_, fun url h => ?_⟩
  · cases h
    rfl
  · cases h

def someFile : Opening := .file "file" 0 ⟨0o644⟩

def overtaken : List (Step Unit) := [.register (willing "b" 10), .request (.close (.pack 0 0))]

theorem overtaken_distinct :
    Along (fun t => t.context.Distinct) (.request someFile.request :: overtaken)
      (after .inProcess {} () [.register (willing "a" 0)]) := by
  let opener : Plugin Unit := ⟨willing "a" 0 (.registered 0), 0, .static⟩
  let newcomer : Plugin Unit := ⟨willing "b" 10 (.registered 1), 1, .static⟩
  have hopener : opener.backend.Stamps := stamps_willing _ _ _
  have hnewcomer : newcomer.backend.Stamps := stamps_willing _ _ _
  have hboth : ∀ plugin ∈ [newcomer, opener], plugin.backend.Stamps :=
    List.forall_mem_cons.mpr ⟨hnewcomer, List.forall_mem_singleton.mpr hopener⟩
  exact ⟨.of_plugins [] (by cbv) (by decide) nofun,
    .of_plugins [opener] (by cbv) (by decide) (List.forall_mem_singleton.mpr hopener),
    .of_plugins [newcomer, opener] (by cbv) (by decide) hboth,
    .of_plugins [newcomer, opener] (by cbv) (by decide) hboth⟩

/-- The file is closed by the backend that opened it. -/
theorem overtaken_stays :
    let s := after .inProcess {} () [.register (willing "a" 0)]
    ((dispatchUrl someFile.part).run.run s.context).1 = .ok { owner := "a" } ∧
      Along (fun t => t.context.Distinct) (.request someFile.request :: overtaken) s ∧
      ∃ i name,
        ((dispatchUrl someFile.part).run.run s.context).2.calls.getLast? = some (i, name, someFile.part.call) ∧
        Adds (fun entry => ∀ opened, entry.2.2.about? = some opened →
            opened.id = s.context.handles.size → entry.1 = i)
          s.context (run (.request someFile.request :: overtaken) s).2.context := by
  intro s
  have hopen : ((dispatchUrl someFile.part).run.run s.context).1 = .ok { owner := "a" } := by cbv
  obtain ⟨hopener, -⟩ := handles_stay_with_openers .inProcess {} () [.register (willing "a" 0)] overtaken
    someFile (Prod.ext hopen rfl) overtaken_distinct
  exact ⟨hopen, overtaken_distinct, hopener⟩

end Session

end StorageDispatch
