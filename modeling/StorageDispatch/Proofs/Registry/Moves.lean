import StorageDispatch.Proofs.Context.Frame
import StorageDispatch.Proofs.Registry.Scan

set_option autoImplicit false

/-! # What the registry's operations do to the ledger

Discovery, registration and teardown as functions of the ledger (`Ledger.discover`, `Ledger.rediscover`,
`Ledger.register`, `Ledger.tearDownPlugin`, `Ledger.tearDown`), and a theorem for each operation that it
does to the ledger of its context what the function says. What is proved about these functions holds of
the operations, whatever the backends answer and whatever else is in the context.

All other operations of a context do nothing to its ledger but discover (`Context.follows_frame`).
-/

namespace StorageDispatch

variable {σ : Type}

/-- What a lookup is told about the plugins of a registry that was looked for. -/
def Registry.listing (registry : Registry σ) : Except Error (List (Plugin σ)) :=
  match registry.phase with
  | .failed error => .error (.discovery error)
  | _ => .ok registry.plugins

theorem Registry.plugins_of_listing {registry : Registry σ} {plugins : List (Plugin σ)}
    (h : registry.listing = .ok plugins) : plugins = registry.plugins := by
  unfold Registry.listing at h
  split at h
  · cases h
  · exact (Except.ok.inj h).symm

theorem Registry.phase_ne_of_listing {registry : Registry σ} {plugins : List (Plugin σ)}
    (h : registry.listing = .ok plugins) (error : PluginError) : registry.phase ≠ .failed error := by
  intro hphase
  rw [Registry.listing, hphase] at h
  cases h

namespace Ledger

def settle (l : Ledger σ) (scan : Scan σ) : Ledger σ :=
  let after := l.enterScan scan
  match scan.failure with
  | none => { after with registry := Registry.afterDiscovery scan.modules after.registry }
  | some error => { after with registry := { after.registry with phase := .failed error } }

def discover (l : Ledger σ) : Ledger σ :=
  match l.registry.phase with
  | .uninitialized => l.settle l.scan
  | _ => l

def forget (l : Ledger σ) : Ledger σ :=
  match l.registry.phase with
  | .failed _ => { l with registry := { l.registry with phase := .uninitialized } }
  | _ => l

def rediscover (l : Ledger σ) : Ledger σ := l.forget.discover

def register (l : Ledger σ) (backend : Backend σ) : Ledger σ :=
  match l.registry.phase with
  | .uninitialized | .failed _ =>
    { l with registry := { l.registry with pending := l.registry.pending ++ [backend] } }
  | .tornDown => { l with teardowns := l.teardowns ++ [backend.id] }
  | .ready => { l with registry := l.registry.enroll [(backend, .static)] }

def tearDownPlugin (l : Ledger σ) (plugin : Plugin σ) : Ledger σ :=
  if plugin.id ∈ l.registry.tornDown then l
  else { l with
    registry := { l.registry with tornDown := plugin.id :: l.registry.tornDown }
    teardowns := l.teardowns ++ [plugin.id] }

def vacate (l : Ledger σ) : Ledger σ :=
  { l with registry := { l.registry.withPlugins [] with phase := .tornDown, pending := [] } }

def tearDown (l : Ledger σ) : Ledger σ :=
  if l.registry.phase = .tornDown ∧ l.registry.plugins = [] then l
  else
    let after := l.registry.plugins.foldl tearDownPlugin l.vacate
    { after with teardowns := after.teardowns ++ l.registry.pending.map Backend.id }

/-! ## Discovery comes to an end -/

theorem discover_of_ne {l : Ledger σ} (h : l.registry.phase ≠ .uninitialized) : l.discover = l := by
  unfold discover
  split
  · contradiction
  · rfl

theorem discover_of_eq {l : Ledger σ} (h : l.registry.phase = .uninitialized) :
    l.discover = l.settle l.scan := by
  rw [discover, h]

theorem settle_of_ok (l : Ledger σ) {scan : Scan σ} (h : scan.failure = none) :
    l.settle scan = { l.enterScan scan with
      registry := Registry.afterDiscovery scan.modules (l.enterScan scan).registry } := by
  rw [settle, h]

theorem settle_of_failure (l : Ledger σ) {scan : Scan σ} {error : PluginError}
    (h : scan.failure = some error) :
    l.settle scan = { l.enterScan scan with
      registry := { (l.enterScan scan).registry with phase := .failed error } } := by
  rw [settle, h]

theorem phase_settle (l : Ledger σ) (scan : Scan σ) :
    (l.settle scan).registry.phase =
      match scan.failure with
      | none => .ready
      | some error => .failed error := by
  cases h : scan.failure with
  | none =>
      rw [settle_of_ok l h]
      rfl
  | some error => rw [settle_of_failure l h]

/-- The instances that a scan has made are entered. -/
theorem accepted_settle (l : Ledger σ) (scan : Scan σ) :
    (l.settle scan).accepted = l.accepted ++ scan.ids := by
  unfold settle
  cases scan.failure <;> rfl

/-- The instances of a scan are torn down if it has failed. -/
theorem teardowns_settle (l : Ledger σ) (scan : Scan σ) :
    (l.settle scan).teardowns = l.teardowns ++ if scan.failure.isSome then scan.ids else [] := by
  unfold settle
  cases h : scan.failure <;> simp [enterScan, enterScanAfter, h]

theorem accepted_forget (l : Ledger σ) : l.forget.accepted = l.accepted := by
  unfold forget
  split <;> rfl

theorem teardowns_forget (l : Ledger σ) : l.forget.teardowns = l.teardowns := by
  unfold forget
  split <;> rfl

theorem accepted_register (l : Ledger σ) (backend : Backend σ) :
    (l.register backend).accepted = l.accepted := by
  unfold register
  split <;> rfl

/-- A backend is torn down at its registration if the registry was before. -/
theorem teardowns_register (l : Ledger σ) (backend : Backend σ) :
    (l.register backend).teardowns =
      l.teardowns ++ if l.registry.phase = .tornDown then [backend.id] else [] := by
  unfold register
  cases l.registry.phase <;> simp

/-- After a discovery the backends are known, or the failure is. -/
theorem phase_discover_ne (l : Ledger σ) : l.discover.registry.phase ≠ .uninitialized := by
  by_cases h : l.registry.phase = .uninitialized
  · rw [discover_of_eq h, phase_settle]
    cases l.scan.failure <;> nofun
  · rwa [discover_of_ne h]

/-- Discovery happens once. -/
@[simp]
theorem discover_discover (l : Ledger σ) : l.discover.discover = l.discover :=
  discover_of_ne l.phase_discover_ne

end Ledger

namespace Registry

open Context

@[simp]
theorem ledger_publishSize (c : Context σ) : ((publishSize.run c).2).ledger = c.ledger :=
  ledger_measure _ c

theorem runDiscovery_run (c : Context σ) :
    (runDiscovery.run.run c).1 = (c.ledger.settle c.ledger.scan).registry.listing ∧
      (runDiscovery.run.run c).2.ledger = c.ledger.settle c.ledger.scan := by
  obtain ⟨hresult, hledger⟩ := loadModules_run c
  unfold runDiscovery
  rw [run_perform_bindE]
  generalize loadModules.run.run c = found at hresult hledger ⊢
  rcases found with ⟨outcome, d⟩
  dsimp only at hresult hledger ⊢
  rw [hresult, Scan.resultAfter]
  cases hfailure : c.ledger.scan.failure with
  | none =>
      rw [c.ledger.settle_of_ok hfailure, ← hledger]
      -- Only the update of the registry is entered in the ledger.
      set e := (publishSize.run ((update (afterDiscovery c.ledger.scan.modules)).run d).2).2 with he
      have hafter : e.ledger = { d.ledger with
          registry := afterDiscovery c.ledger.scan.modules d.ledger.registry } := by
        rw [he, ledger_publishSize, ledger_update]
      have hregistry : e.registry = afterDiscovery c.ledger.scan.modules d.ledger.registry :=
        congrArg Ledger.registry hafter
      refine ⟨?_, ?_⟩
      · show Except.ok e.registry.plugins = _
        rw [hregistry]
        rfl
      · show ((log (.ready (e.registry.plugins.map Plugin.name))).run e).2.ledger = _
        rw [ledger_log rfl, hafter]
  | some error =>
      dsimp only
      rw [c.ledger.settle_of_failure hfailure, ← hledger, run_perform_bindE, run_perform_bindE, run_throwE]
      refine ⟨rfl, ?_⟩
      rw [ledger_update, ledger_log rfl]

/-- **Discovery.** What it returns is what the registry tells after it. -/
theorem discover_run (c : Context σ) :
    (discover.run.run c).1 = c.ledger.discover.registry.listing ∧
      (discover.run.run c).2.ledger = c.ledger.discover := by
  unfold discover
  rw [run_get_bindE]
  dsimp only
  rw [← registry_ledger]
  cases hphase : c.ledger.registry.phase with
  | uninitialized =>
      rw [Ledger.discover_of_eq hphase]
      exact runDiscovery_run c
  | ready | tornDown =>
      have hne : c.ledger.registry.phase ≠ .uninitialized := by
        rw [hphase]
        nofun
      rw [Ledger.discover_of_ne hne]
      refine ⟨?_, rfl⟩
      rw [listing, hphase]
      rfl
  | failed error =>
      have hne : c.ledger.registry.phase ≠ .uninitialized := by
        rw [hphase]
        nofun
      rw [Ledger.discover_of_ne hne]
      refine ⟨?_, rfl⟩
      rw [listing, hphase]
      rfl

/-- What a discovery has listed are the plugins of the registry that it leaves, and they are known then. -/
theorem discover_ok {c d : Context σ} {plugins : List (Plugin σ)}
    (h : discover.run.run c = (.ok plugins, d)) :
    plugins = d.registry.plugins ∧ d.registry.phase.isKnown := by
  obtain ⟨hlisting, hledger⟩ := discover_run c
  rw [h] at hlisting hledger
  have hregistry : d.registry = c.ledger.discover.registry := congrArg Ledger.registry hledger
  have hne := c.ledger.phase_discover_ne
  have hlisted : c.ledger.discover.registry.listing = .ok plugins := hlisting.symm
  have hfailed := phase_ne_of_listing hlisted
  rw [← hregistry] at hne hfailed hlisted
  refine ⟨plugins_of_listing hlisted, ?_⟩
  cases hphase : d.registry.phase with
  | ready | tornDown => trivial
  | uninitialized => exact hne hphase
  | failed error => exact hfailed error hphase

/-- A plugin that is found by its name has that name, and is one of the registry. -/
theorem findByName_ok {name : String} {c d : Context σ} {plugin : Plugin σ}
    (h : (findByName name).run.run c = (.ok plugin, d)) :
    plugin.name = name ∧ plugin ∈ d.registry.plugins := by
  obtain ⟨plugins, e, hfound, h⟩ := run_bindE_ok h
  obtain ⟨hplugins, -⟩ := discover_ok hfound
  cases hfind : plugins.find? fun p => p.name == name with
  | none =>
      rw [hfind] at h
      cases h
  | some p =>
      rw [hfind] at h
      cases h
      have hname := List.find?_some hfind
      have hmem : plugin ∈ plugins := List.mem_of_find?_eq_some hfind
      rw [hplugins] at hmem
      exact ⟨eq_of_beq hname, hmem⟩

theorem forgetFailure_run (c : Context σ) :
    (forgetFailure.run c).2.ledger = c.ledger.forget := by
  unfold forgetFailure Ledger.forget
  rw [run_get_bind, registry_ledger]
  cases c.registry.phase with
  | uninitialized | ready | tornDown => rfl
  | failed error =>
      dsimp only
      rw [run_bind, ledger_update, ledger_log rfl]
      rfl

theorem rediscover_run (c : Context σ) :
    (rediscover.run.run c).1 = c.ledger.rediscover.registry.listing ∧
      (rediscover.run.run c).2.ledger = c.ledger.rediscover := by
  have h := discover_run (forgetFailure.run c).2
  rw [forgetFailure_run] at h
  exact h

/-! ## Registration and teardown -/

theorem enqueue_run (backend : Backend σ) (c : Context σ) :
    ((enqueue backend).run c).2.ledger =
      { c.ledger with registry := { c.registry with pending := c.registry.pending ++ [backend] } } := by
  rw [enqueue, run_bind, ledger_update, ledger_log rfl]
  rfl

theorem register_run (backend : Backend σ) (c : Context σ) :
    ((register backend).run c).2.ledger = c.ledger.register backend := by
  unfold register Ledger.register
  rw [run_get_bind, registry_ledger]
  cases c.registry.phase with
  | uninitialized | failed => exact enqueue_run backend c
  | tornDown =>
      dsimp only
      rw [run_bind, ledger_call_teardown, ledger_log rfl]
      rfl
  | ready =>
      dsimp only
      rw [run_bind, run_bind, ledger_publishSize, ledger_update, ledger_log rfl]
      rfl

end Registry

theorem Plugin.teardown_run (plugin : Plugin σ) (c : Context σ) :
    (plugin.teardown.run c).1 = !c.registry.tornDown.contains plugin.id ∧
      (plugin.teardown.run c).2.ledger = c.ledger.tearDownPlugin plugin := by
  unfold Plugin.teardown Ledger.tearDownPlugin
  rw [Context.run_get_bind, Context.registry_ledger]
  by_cases h : plugin.id ∈ c.registry.tornDown
  · have hcontains : c.registry.tornDown.contains plugin.id = true := List.contains_iff_mem.mpr h
    rw [if_pos hcontains, if_pos h, hcontains]
    exact ⟨rfl, rfl⟩
  · have hcontains : ¬ c.registry.tornDown.contains plugin.id = true := mt List.contains_iff_mem.mp h
    rw [if_neg hcontains, if_neg h, eq_false_of_ne_true hcontains]
    refine ⟨rfl, ?_⟩
    rw [Context.run_bind, Context.run_bind, Context.run_bind]
    show ((Context.call plugin.backend .teardown).run _).2.ledger = _
    rw [Context.ledger_call_teardown, Context.ledger_log rfl, Context.ledger_update]
    rfl

namespace Registry

open Context

theorem ledger_forM_plugin (plugins : List (Plugin σ)) (c : Context σ) :
    ((plugins.forM fun plugin => discard plugin.teardown : Act σ Unit).run c).2.ledger =
      plugins.foldl Ledger.tearDownPlugin c.ledger := by
  induction plugins generalizing c with
  | nil => rfl
  | cons plugin plugins ih =>
      have h := ih (plugin.teardown.run c).2
      rw [(plugin.teardown_run c).2] at h
      exact h

theorem teardown_run (c : Context σ) : (teardown.run c).2.ledger = c.ledger.tearDown := by
  unfold teardown Ledger.tearDown
  rw [run_get_bind, registry_ledger]
  dsimp only
  by_cases h : c.registry.phase = .tornDown ∧ c.registry.plugins = []
  · rw [if_pos h, if_pos h]
    rfl
  · rw [if_neg h, if_neg h, run_bind, run_bind, run_bind, run_bind, ledger_forM_teardown,
      ledger_forM_plugin, ledger_measure, ledger_log rfl, ledger_update]
    rfl

end Registry

/-! ## Other operations -/

namespace Context

/-- Nothing became of the backends but that they may have been looked for. -/
def Follows (c d : Context σ) : Prop := d.ledger = c.ledger ∨ d.ledger = c.ledger.discover

theorem Follows.of_eq {c d : Context σ} (h : d.ledger = c.ledger) : Follows c d := .inl h

theorem Follows.trans {a b c : Context σ} (hab : Follows a b) (hbc : Follows b c) : Follows a c := by
  unfold Follows at *
  rcases hab with h | h <;> rw [h] at hbc
  · exact hbc
  · -- Only the first of two discoveries does anything.
    rw [Ledger.discover_discover] at hbc
    exact .inr (hbc.elim id id)

/-- Known plugins are not looked for again. -/
theorem Follows.registry_eq {c d : Context σ} (h : Follows c d) (hknown : c.registry.phase.isKnown) :
    d.registry = c.registry := by
  have hne : c.ledger.registry.phase ≠ .uninitialized := by
    intro hphase
    rwa [show c.registry.phase = _ from hphase] at hknown
  rw [Follows, Ledger.discover_of_ne hne, or_self] at h
  exact congrArg Ledger.registry h

theorem ledger_emit_routine {event : Event} (h : event.isRoutine = true) (c : Context σ) :
    ((emit event).run c).2.ledger = c.ledger := by
  cases event with
  | call => exact Bool.noConfusion h
  | metric change => exact ledger_measure change c
  | log entry =>
      refine ledger_log ?_ c
      cases entry <;> first | rfl | exact Bool.noConfusion h

/-- The small steps of operations do nothing to the ledger, and discovery discovers. -/
theorem follows_frame : Frame (Follows : Context σ → Context σ → Prop) where
  toFlow := .of_emit (fun _ => .of_eq rfl) Follows.trans fun _ c h => .of_eq (ledger_emit_routine h c)
  call backend _ c h := .of_eq (ledger_call backend h c)
  handles _ _ := .of_eq rfl
  table c resource table := .of_eq (ledger_withTable c resource table)
  publish _ _ c := .of_eq (ledger_measure _ c)
  discover c := .inr (Registry.discover_run c).2

theorem ledger_clearMadeTable (resource : Resource) (c : Context σ) :
    ((clearMadeTable resource).run c).2.ledger = c.ledger := by
  unfold clearMadeTable
  rw [run_get_bind]
  cases c.table? resource with
  | none => rfl
  | some table =>
      show ((measure _).run _).2.ledger = _
      rw [ledger_measure]
      exact (ledger_withTable _ resource _).trans (ledger_withTable c resource _)

theorem teardown_run (c : Context σ) : (teardown.run c).2.ledger = c.ledger.tearDown := by
  unfold teardown
  rw [run_bind, run_bind]
  split
  · rw [run_bind, Registry.teardown_run, ledger_log rfl, ledger_clearMadeTable, ledger_clearMadeTable]
  · rw [Registry.teardown_run, ledger_clearMadeTable, ledger_clearMadeTable]

theorem dispose_run (c : Context σ) : (dispose.run c).2.ledger = c.ledger.tearDown.tearDown := by
  rw [dispose, run_bind, Registry.teardown_run, teardown_run]

end Context

end StorageDispatch
