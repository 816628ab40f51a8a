import StorageDispatch.Proofs.Registry.Lifecycle
import Mathlib

set_option autoImplicit false

/-! # Listings

A registry that is ready lists the modules of one scan and the backends that were handed over, in the
order of `Registry.roster`: the modules are numbered first, then the backends in the order in which they
came, and the list is sorted. When a backend came does not matter: it may have waited in the queue,
through any number of failed discoveries, or have joined the list by itself.

`Ledger.Waits` and `Ledger.Lists` describe the registry before and after the scan that succeeds, and
`waits_or_lists` says that every run that tears nothing down ends in one of the two.
-/

namespace StorageDispatch

variable {σ : Type}

def Step.tearsDown : Step σ → Bool
  | .request work => work.tearsDown
  | _ => false

namespace Registry

def newcomers (modules : List (LoadedModule σ)) (backends : List (Backend σ)) :
    List (Backend σ × PluginOrigin) :=
  modules.map (fun module => (module.backend, .module module.path)) ++
    backends.map fun backend => (backend, .static)

/-- The list of plugins that modules and backends make up. -/
def roster (modules : List (LoadedModule σ)) (backends : List (Backend σ)) : List (Plugin σ) :=
  sortPlugins (numbered 0 (newcomers modules backends))

variable {modules : List (LoadedModule σ)} {backends : List (Backend σ)}

theorem length_newcomers : (newcomers modules backends).length = modules.length + backends.length := by
  simp [newcomers]

theorem nodup_numbered (first : Nat) (newcomers : List (Backend σ × PluginOrigin)) :
    ((numbered first newcomers).map Plugin.loadOrder).Nodup := by
  rw [loadOrder_numbered]
  exact List.nodup_range'

/-- A backend that joins a roster is one more backend of it. -/
theorem roster_append (backend : Backend σ) :
    sortPlugins (roster modules backends ++
        numbered (modules.length + backends.length) [(backend, .static)]) =
      roster modules (backends ++ [backend]) := by
  have hnewcomers : newcomers modules (backends ++ [backend]) =
      newcomers modules backends ++ [(backend, .static)] := by
    simp [newcomers]
  have hnumbered : numbered 0 (newcomers modules (backends ++ [backend])) =
      numbered 0 (newcomers modules backends) ++
        numbered (modules.length + backends.length) [(backend, .static)] := by
    rw [hnewcomers, numbered_append, Nat.zero_add, length_newcomers]
  have hnodup := nodup_numbered 0 (newcomers modules (backends ++ [backend]))
  rw [hnumbered] at hnodup
  calc sortPlugins (roster modules backends ++
          numbered (modules.length + backends.length) [(backend, .static)])
      = sortPlugins (numbered 0 (newcomers modules backends) ++
          numbered (modules.length + backends.length) [(backend, .static)]) := sortPlugins_append hnodup
    _ = roster modules (backends ++ [backend]) := by rw [roster, hnumbered]

theorem mem_numbered (first : Nat) {i : Nat} {newcomers : List (Backend σ × PluginOrigin)}
    {newcomer : Backend σ × PluginOrigin} (h : newcomers[i]? = some newcomer) :
    ({ backend := newcomer.1, loadOrder := first + i, origin := newcomer.2 } : Plugin σ) ∈
      numbered first newcomers := by
  refine List.mem_map.mpr ⟨(newcomer, first + i), ?_, rfl⟩
  refine List.mem_of_getElem? (i := i) ?_
  rw [List.getElem?_zipIdx, h]
  rfl

/-- **What a roster looks like.** -/
structure IsRoster (plugins : List (Plugin σ)) (modules : List (LoadedModule σ))
    (backends : List (Backend σ)) : Prop where
  length_eq : plugins.length = modules.length + backends.length
  /-- The modules come first in the order of registration. -/
  mem_module : ∀ i module, modules[i]? = some module →
    { backend := module.backend, loadOrder := i, origin := .module module.path } ∈ plugins
  /-- The backends follow, in the order in which they were handed over. -/
  mem_backend : ∀ i backend, backends[i]? = some backend →
    { backend, loadOrder := modules.length + i, origin := .static } ∈ plugins
  sorted : plugins.Pairwise Plugin.Before

theorem isRoster_roster (modules : List (LoadedModule σ)) (backends : List (Backend σ)) :
    IsRoster (roster modules backends) modules backends where
  length_eq := by
    have hlength := (sortPlugins_perm (numbered 0 (newcomers modules backends))).length_eq
    rw [numbered, List.length_map, List.length_zipIdx, length_newcomers] at hlength
    exact hlength
  mem_module i module h := by
    have hi : i < (modules.map fun m => (m.backend, PluginOrigin.module m.path)).length := by
      rw [List.length_map]
      exact (List.getElem?_eq_some_iff.mp h).1
    have hget : (newcomers modules backends)[i]? = some (module.backend, .module module.path) := by
      rw [newcomers, List.getElem?_append_left hi, List.getElem?_map, h]
      rfl
    have hmem := mem_numbered 0 hget
    rw [Nat.zero_add] at hmem
    exact (sortPlugins_perm _).symm.subset hmem
  mem_backend i backend h := by
    have hget : (newcomers modules backends)[modules.length + i]? = some (backend, .static) := by
      rw [newcomers, List.getElem?_append_right (by simp), List.length_map, Nat.add_sub_cancel_left,
        List.getElem?_map, h]
      rfl
    have hmem := mem_numbered 0 hget
    rw [Nat.zero_add] at hmem
    exact (sortPlugins_perm _).symm.subset hmem
  sorted := sortPlugins_before (nodup_numbered _ _)

end Registry

/-! ## Rosters of other instances

Two scans of one directory make different instances of the same modules. Nothing else of a roster differs:
what can be told of its plugins depends only on what can be told of the modules and of the backends. -/

/-- What can be told of a backend, whatever instance it is. -/
def Backend.look (backend : Backend σ) : String × Int := (backend.name, backend.priority)

def LoadedModule.look (module : LoadedModule σ) : (String × Int) × String :=
  (module.backend.look, module.path)

def Plugin.look (plugin : Plugin σ) : ((String × Int) × PluginOrigin) × Nat :=
  ((plugin.backend.look, plugin.origin), plugin.loadOrder)

namespace Registry

/-- The order of plugins, by what can be told of them. -/
def lookPrecedes (a b : ((String × Int) × PluginOrigin) × Nat) : Bool :=
  decide (b.1.1.2 < a.1.1.2) || (decide (a.1.1.2 = b.1.1.2) && decide (a.2 ≤ b.2))

theorem look_sortPlugins (plugins : List (Plugin σ)) :
    (sortPlugins plugins).map Plugin.look = (plugins.map Plugin.look).mergeSort lookPrecedes :=
  List.map_mergeSort fun _ _ _ _ => rfl

theorem look_numbered (first : Nat) (newcomers : List (Backend σ × PluginOrigin)) :
    (numbered first newcomers).map Plugin.look =
      (newcomers.map fun newcomer => (newcomer.1.look, newcomer.2)).zipIdx first := by
  rw [numbered, List.map_map, List.zipIdx_map]
  rfl

theorem look_newcomers (modules : List (LoadedModule σ)) (backends : List (Backend σ)) :
    (newcomers modules backends).map (fun newcomer => (newcomer.1.look, newcomer.2)) =
      (modules.map LoadedModule.look).map (Prod.map id PluginOrigin.module) ++
        (backends.map Backend.look).map fun look => (look, PluginOrigin.static) := by
  rw [newcomers, List.map_append, List.map_map, List.map_map, List.map_map, List.map_map]
  rfl

/-- **Rosters of modules and backends that look the same look the same.** -/
theorem look_roster_congr {modules modules' : List (LoadedModule σ)} {backends backends' : List (Backend σ)}
    (hmodules : modules.map LoadedModule.look = modules'.map LoadedModule.look)
    (hbackends : backends.map Backend.look = backends'.map Backend.look) :
    (roster modules backends).map Plugin.look = (roster modules' backends').map Plugin.look := by
  rw [roster, roster, look_sortPlugins, look_sortPlugins, look_numbered, look_numbered,
    look_newcomers, look_newcomers, hmodules, hbackends]

end Registry

/-! ## Before and after the scan -/

namespace Ledger

/-- Nothing is listed yet, and backends wait in the queue. -/
structure Waits (l : Ledger σ) (backends : List (Backend σ)) : Prop where
  waiting : l.registry.phase = .uninitialized ∨ ∃ error, l.registry.phase = .failed error
  plugins_eq : l.registry.plugins = []
  nextOrder_eq : l.registry.nextOrder = 0
  pending_eq : l.registry.pending = backends

/-- The modules of a scan and backends are listed. -/
structure Lists (l : Ledger σ) (modules : List (LoadedModule σ)) (backends : List (Backend σ)) :
    Prop where
  ready : l.registry.phase = .ready
  plugins_eq : l.registry.plugins = Registry.roster modules backends
  nextOrder_eq : l.registry.nextOrder = modules.length + backends.length

variable {l : Ledger σ} {modules : List (LoadedModule σ)} {backends : List (Backend σ)}

/-- A scan that succeeds lists its modules and then the queue. -/
theorem Waits.lists_settle (h : l.Waits backends) {scan : Scan σ} (hfailure : scan.failure = none) :
    (l.settle scan).Lists scan.modules backends := by
  have hnewcomers : (scan.modules.map (fun module => (module.backend, PluginOrigin.module module.path)) ++
      l.registry.pending.map fun backend => (backend, PluginOrigin.static)) =
        Registry.newcomers scan.modules backends := by
    rw [h.pending_eq]
    rfl
  rw [settle_of_ok l hfailure]
  refine ⟨rfl, ?_, ?_⟩
  · show sortPlugins (l.registry.plugins ++ Registry.numbered l.registry.nextOrder _) = _
    rw [h.plugins_eq, h.nextOrder_eq, List.nil_append]
    show sortPlugins (Registry.numbered 0 (scan.modules.map _ ++ l.registry.pending.map _)) = _
    rw [hnewcomers]
    rfl
  · show l.registry.nextOrder + (scan.modules.map _ ++ l.registry.pending.map _).length = _
    rw [hnewcomers, h.nextOrder_eq, Nat.zero_add, Registry.length_newcomers]

/-- A scan that fails leaves the queue as it is, and uses up no load order. -/
theorem Waits.settle_of_failure (h : l.Waits backends) {scan : Scan σ} {error : PluginError}
    (hfailure : scan.failure = some error) : (l.settle scan).Waits backends := by
  rw [l.settle_of_failure hfailure]
  exact ⟨.inr ⟨error, rfl⟩, h.plugins_eq, h.nextOrder_eq, h.pending_eq⟩

/-- A discovery lists what its scan has found, or leaves all as it was. -/
theorem Waits.discover (h : l.Waits backends) :
    l.discover.Waits backends ∨ (l.scan.failure = none ∧ l.discover.Lists l.scan.modules backends) := by
  by_cases hphase : l.registry.phase = .uninitialized
  · rw [discover_of_eq hphase]
    cases hfailure : l.scan.failure with
    | none => exact .inr ⟨rfl, h.lists_settle hfailure⟩
    | some error => exact .inl (h.settle_of_failure hfailure)
  · rw [discover_of_ne hphase]
    exact .inl h

theorem Waits.forget (h : l.Waits backends) : l.forget.Waits backends := by
  unfold Ledger.forget
  split
  · exact ⟨.inl rfl, h.plugins_eq, h.nextOrder_eq, h.pending_eq⟩
  · exact h

/-- What a scan finds does not depend on the phase. -/
theorem scan_forget (l : Ledger σ) : l.forget.scan = l.scan := by
  unfold forget
  split <;> rfl

theorem Waits.register (h : l.Waits backends) (backend : Backend σ) :
    (l.register backend).Waits (backends ++ [backend]) := by
  have hqueued : ({ l with registry := { l.registry with
      pending := l.registry.pending ++ [backend] } } : Ledger σ).Waits (backends ++ [backend]) := by
    refine ⟨h.waiting, h.plugins_eq, h.nextOrder_eq, ?_⟩
    dsimp only
    rw [h.pending_eq]
  unfold Ledger.register
  rcases h.waiting with hphase | ⟨error, hphase⟩ <;> rw [hphase] <;> exact hqueued

theorem Lists.register (h : l.Lists modules backends) (backend : Backend σ) :
    (l.register backend).Lists modules (backends ++ [backend]) := by
  unfold Ledger.register
  rw [h.ready]
  refine ⟨h.ready, ?_, ?_⟩
  · dsimp only
    rw [Registry.plugins_enroll, h.plugins_eq, h.nextOrder_eq]
    exact Registry.roster_append backend
  · dsimp only
    rw [Registry.nextOrder_enroll, h.nextOrder_eq, List.length_append]
    rfl

end Ledger

/-! ## Turns and runs -/

namespace Session

open Context

variable {step : Step σ} {s t : Session σ} {modules : List (LoadedModule σ)}
  {backends : List (Backend σ)}

/-- A turn that tears nothing down leaves the backends waiting, or lists them with the modules that a scan
has found. -/
theorem waits_turn (hturn : Turn step s t) (hup : step.tearsDown = false)
    (h : s.ledger.Waits backends) :
    t.ledger.Waits (backends ++ handed s.arrivals step) ∨
      (s.ledger.scan.failure = none ∧
        t.ledger.Lists s.ledger.scan.modules (backends ++ handed s.arrivals step)) := by
  cases hturn with
  | looked hstep hledger =>
      rw [handed_of_ordinary hstep, List.append_nil]
      rcases hledger with hledger | hledger <;> rw [hledger]
      · exact .inl h
      · exact h.discover
  -- Forgetting a failure changes neither the queue nor what a scan would find.
  | rediscovered hledger =>
      have hdiscover := h.forget.discover
      rw [Ledger.scan_forget] at hdiscover
      rw [hledger, handed_eq_nil (by nofun), List.append_nil]
      exact hdiscover
  | registered hledger =>
      rw [hledger]
      exact .inl (h.register _)
  | tornDown hrequest => exact Bool.noConfusion (hrequest.symm.trans hup)
  | pluginTornDown _ hledger =>
      rw [hledger, handed_eq_nil (by nofun), List.append_nil]
      unfold Ledger.tearDownPlugin
      split
      · exact .inl h
      · exact .inl ⟨h.waiting, h.plugins_eq, h.nextOrder_eq, h.pending_eq⟩
  | nothingTornDown =>
      rw [handed_eq_nil (by nofun), List.append_nil]
      exact .inl h
  | hostChanged hledger =>
      rw [hledger, handed_eq_nil (by nofun), List.append_nil]
      exact .inl ⟨h.waiting, h.plugins_eq, h.nextOrder_eq, h.pending_eq⟩

/-- Once they are listed, a turn that tears nothing down lists the backends that it hands over after them. -/
theorem lists_turn (hturn : Turn step s t) (hup : step.tearsDown = false)
    (h : s.ledger.Lists modules backends) :
    t.ledger.Lists modules (backends ++ handed s.arrivals step) := by
  have hready : s.context.registry.phase = .ready := h.ready
  cases hturn with
  | looked hstep hledger =>
      have hsame := ledger_of_ready (.looked hstep hledger ‹_› ‹_›) hready (.inl hstep)
      rw [hsame, handed_of_ordinary hstep, List.append_nil]
      exact h
  | rediscovered hledger =>
      have hsame := ledger_of_ready (.rediscovered hledger ‹_› ‹_›) hready (.inr rfl)
      rw [hsame, handed_eq_nil (by nofun), List.append_nil]
      exact h
  | registered hledger =>
      rw [hledger]
      exact h.register _
  | tornDown hrequest => exact Bool.noConfusion (hrequest.symm.trans hup)
  | pluginTornDown _ hledger =>
      rw [hledger, handed_eq_nil (by nofun), List.append_nil]
      unfold Ledger.tearDownPlugin
      split
      · exact h
      · exact ⟨h.ready, h.plugins_eq, h.nextOrder_eq⟩
  | nothingTornDown =>
      rw [handed_eq_nil (by nofun), List.append_nil]
      exact h
  | hostChanged hledger =>
      rw [hledger, handed_eq_nil (by nofun), List.append_nil]
      exact ⟨h.ready, h.plugins_eq, h.nextOrder_eq⟩

section Runs

variable (config : Config) (host : Host σ) (world : σ)

/-- **Every run that tears nothing down waits or lists**: either no scan has succeeded, and all backends
wait in the order in which they came; or one has, and they are listed after its modules. -/
theorem waits_or_lists (steps : List (Step σ)) (hup : ∀ step ∈ steps, step.tearsDown = false) :
    (after config host world steps).ledger.Waits (registered 0 steps) ∨
      ∃ before step rest, steps = before ++ step :: rest ∧
        (after config host world before).ledger.Waits (registered 0 before) ∧
        (after config host world before).ledger.scan.failure = none ∧
        (after config host world (before ++ [step])).ledger.registry.phase = .ready ∧
        (after config host world steps).ledger.Lists
          (after config host world before).ledger.scan.modules (registered 0 steps) := by
  -- The last step is one turn of the session that the steps before it lead to.
  induction steps using List.reverseRecOn with
  | nil => exact .inl ⟨.inl rfl, rfl, rfl, rfl⟩
  | append_singleton steps step ih =>
      have hturn := turn_step step (after config host world steps)
      rw [← after_concat] at hturn
      have hstep := hup step (List.mem_append_right _ (List.mem_singleton.mpr rfl))
      rw [registered_concat config host world]
      rcases ih fun step hmem => hup step (List.mem_append_left _ hmem) with
        hwaits | ⟨before, scanning, rest, hsteps, hwaits, hfailure, hready, hlists⟩
      · rcases waits_turn hturn hstep hwaits with hwaits' | ⟨hfailure, hlists⟩
        · exact .inl hwaits'
        · exact .inr ⟨steps, step, [], rfl, hwaits, hfailure, hlists.ready, hlists⟩
      · -- The scan that has succeeded stays the one that counts.
        refine .inr ⟨before, scanning, rest ++ [step], ?_, hwaits, hfailure, hready, ?_⟩
        · rw [hsteps, List.append_assoc, List.cons_append]
        · exact lists_turn hturn hstep hlists

/-- What a list of plugins is made of that a discovery has told after a run: the modules of the one scan
that has succeeded, and the backends that were handed over. -/
structure Listing (steps : List (Step σ)) (plugins : List (Plugin σ)) (modules : List (LoadedModule σ)) :
    Prop where
  /-- A scan in the context that a part of the run has led to has found the modules. Before it the backends
  were not known, and after the next step they were; if there is none, the last discovery has scanned. -/
  scanned : ∃ before rest, steps = before ++ rest ∧
    (after config host world before).context.registry.phase ≠ .ready ∧
    (∀ step later, rest = step :: later →
      (after config host world (before ++ [step])).context.registry.phase = .ready) ∧
    (Registry.loadModules.run.run (after config host world before).context).1 = .ok modules ∧
    (after config host world before).ledger.Finds modules
  plugins_eq : plugins = Registry.roster modules (registered 0 steps)
  isRoster : Registry.IsRoster plugins modules (registered 0 steps)

theorem scan_of_waits {s : Session σ} {backends : List (Backend σ)} (h : s.ledger.Waits backends)
    (hfailure : s.ledger.scan.failure = none) :
    s.context.registry.phase ≠ .ready ∧
      (Registry.loadModules.run.run s.context).1 = .ok s.ledger.scan.modules ∧
      s.ledger.Finds s.ledger.scan.modules := by
  refine ⟨?_, ?_, s.ledger.finds_scan hfailure⟩
  · rcases h.waiting with hphase | ⟨error, hphase⟩ <;>
      rw [show s.context.registry.phase = _ from hphase] <;> nofun
  · rw [(Registry.loadModules_run s.context).1, Scan.resultAfter]
    rw [show s.context.ledger.scan.failure = none from hfailure]
    rfl

/-- A discovery that succeeds after a run tells a listing. -/
theorem listing_after {steps : List (Step σ)} (hup : ∀ step ∈ steps, step.tearsDown = false)
    {plugins : List (Plugin σ)}
    (h : (Registry.discover.run.run (after config host world steps).context).1 = .ok plugins) :
    ∃ modules, Listing config host world steps plugins modules := by
  have hlisting := (Registry.discover_run (after config host world steps).context).1
  rw [h] at hlisting
  have hplugins : plugins = (after config host world steps).ledger.discover.registry.plugins :=
    Registry.plugins_of_listing hlisting.symm
  rcases waits_or_lists config host world steps hup with
    hwaits | ⟨before, scanning, rest, hsteps, hwaits, hfailure, hready, hlists⟩
  · rcases hwaits.discover with hfailed | ⟨hfailure, hlists⟩
    · -- Where the discovery lists nothing it has failed.
      exfalso
      rcases hfailed.waiting with hphase | ⟨error, hphase⟩
      · exact Ledger.phase_discover_ne _ hphase
      · exact Registry.phase_ne_of_listing hlisting.symm error hphase
    · -- The discovery after the run is the first one that succeeds.
      obtain ⟨hphase, hscan, hfinds⟩ := scan_of_waits hwaits hfailure
      rw [hlists.plugins_eq] at hplugins
      refine ⟨_, ⟨steps, [], (List.append_nil _).symm, hphase, nofun, hscan, hfinds⟩, hplugins, ?_⟩
      rw [hplugins]
      exact Registry.isRoster_roster _ _
  · obtain ⟨hphase, hscan, hfinds⟩ := scan_of_waits hwaits hfailure
    have hne : (after config host world steps).ledger.registry.phase ≠ .uninitialized := by
      rw [hlists.ready]
      nofun
    rw [Ledger.discover_of_ne hne, hlists.plugins_eq] at hplugins
    refine ⟨_, ⟨before, scanning :: rest, hsteps, hphase, ?_, hscan, hfinds⟩, hplugins, ?_⟩
    · rintro step later hrest
      cases hrest
      exact hready
    · rw [hplugins]
      exact Registry.isRoster_roster _ _

end Runs

/-- **The order of registration is all that counts.** Two sessions go through anything but a teardown of
all backends, and then a discovery succeeds in both. Each list of plugins that it tells is the roster of the
modules of the one scan that has succeeded and of the backends that were handed over, in their order, where
the modules are those of the plugin directory in the order of their names. So if the modules of both and the
backends of both look the same, the lists do, whenever and how often discovery was tried. -/
theorem listing_of_runs {config config' : Config} {host host' : Host σ} {world world' : σ}
    {steps steps' : List (Step σ)} (hup : ∀ step ∈ steps, step.tearsDown = false)
    (hup' : ∀ step ∈ steps', step.tearsDown = false) {plugins plugins' : List (Plugin σ)}
    (h : (Registry.discover.run.run (after config host world steps).context).1 = .ok plugins)
    (h' : (Registry.discover.run.run (after config' host' world' steps').context).1 = .ok plugins') :
    ∃ modules modules', Listing config host world steps plugins modules ∧
      Listing config' host' world' steps' plugins' modules' ∧
      (modules.map LoadedModule.look = modules'.map LoadedModule.look →
        (registered 0 steps).map Backend.look = (registered 0 steps').map Backend.look →
          plugins.map Plugin.look = plugins'.map Plugin.look) := by
  obtain ⟨modules, hlisting⟩ := listing_after config host world hup h
  obtain ⟨modules', hlisting'⟩ := listing_after config' host' world' hup' h'
  refine ⟨modules, modules', hlisting, hlisting', fun hmodules hbackends => ?_⟩
  rw [hlisting.plugins_eq, hlisting'.plugins_eq]
  exact Registry.look_roster_congr hmodules hbackends

def idle (name : String) (priority : Int) (id : InstanceId) : Backend Unit :=
  { id, name, priority, respond := fun call world => (call.unimplemented, world) }

/-- The directory "m" comes to hold a module "a.so", which makes a backend "c". -/
def fillDirectory : Step Unit :=
  .changeHost fun host => host.changeDirectory "m" fun _ =>
    .files [("a.so", .library (some fun _ id => .ofResult (.ok (idle "c" 10 id))))]

/-- The module is there from the start, and the last discovery is the only one. -/
def direct : List (Step Unit) := [fillDirectory, .register (idle "a" 0), .register (idle "b" 10)]

/-- The first discovery finds no directory; one backend came before it, the other when the second discovery
had found the module. -/
def retried : List (Step Unit) :=
  [.register (idle "a" 0), .request .pluginNames, fillDirectory, .request .rediscover,
    .register (idle "b" 10)]

def found : LoadedModule Unit := { backend := idle "c" 10 (.loaded 0), path := "m/a.so" }

theorem listing_of_retried :
    ∃ modules modules',
      Listing { pluginDir := some "m" } {} () direct
        (Registry.roster [found] (registered 0 direct)) modules ∧
      Listing { pluginDir := some "m" } {} () retried
        (Registry.roster [found] (registered 0 retried)) modules' ∧
      (modules.map LoadedModule.look = modules'.map LoadedModule.look →
        (registered 0 direct).map Backend.look = (registered 0 retried).map Backend.look →
          (Registry.roster [found] (registered 0 direct)).map Plugin.look =
            (Registry.roster [found] (registered 0 retried)).map Plugin.look) :=
  listing_of_runs (by decide) (by decide) (by cbv) (by cbv)

end Session

end StorageDispatch
