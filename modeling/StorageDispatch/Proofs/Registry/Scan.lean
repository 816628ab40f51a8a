import StorageDispatch.Proofs.Registry.Ledger
import Mathlib.Data.List.Nodup

set_option autoImplicit false

/-! # What a scan finds

Loading the modules of a directory runs their entry points one after the other. What comes of it is
decided by the ledger alone, so it can be said without the context: `attempt` is one module, `scanEach`
a list of them, and `Ledger.scan` the modules that the configuration asks for. A `Scan` lists the
instances that were made, also where a later module failed, and `Ledger.enterScan` is the ledger after
it: the instances are entered as accepted, and again as torn down if the scan failed.

`loadModules_run` says that the loader does just that. Below it are the facts about a scan that do not
depend on what the modules do: no two instances are the same, and modules are in order of their names.
-/

namespace StorageDispatch

variable {σ : Type}

structure Scan (σ : Type) where
  /-- The modules that made a backend, in the order in which they were loaded. -/
  modules : List (LoadedModule σ)
  /-- Why the scan ended early. -/
  failure : Option PluginError
  /-- Number of backend instances that modules have made by then. -/
  loads : Nat

def Scan.ids (scan : Scan σ) : List InstanceId := scan.modules.map fun module => module.backend.id

/-- The outcome of a scan that follows the modules of `loaded`. -/
def Scan.resultAfter (scan : Scan σ) (loaded : List (LoadedModule σ)) :
    Except PluginError (List (LoadedModule σ)) :=
  match scan.failure with
  | none => .ok (loaded ++ scan.modules)
  | some error => .error error

namespace Loader

/-- What comes of the module under a name, and how many instances were made after it. -/
def attempt (config : Config) (host : Host σ) (dir : String) (loads : Nat) (name : String) :
    Except PluginError (LoadedModule σ) × Nat :=
  match (host.directory dir).find? name with
  | some (.library (some entryPoint)) =>
    let path := joinPath dir name
    (acceptEntry (.loaded loads) path (entryPoint { config, path } (.loaded loads)), loads + 1)
  | some (.library none) => (.error (.missingEntryPoint (joinPath dir name)), loads)
  | _ => (.error (.loadFailed (joinPath dir name) host.diagnostic), loads)

/-- What comes of the modules under several names. The first failure ends the scan. -/
def scanEach (config : Config) (host : Host σ) (dir : String) : Nat → List String → Scan σ
  | loads, [] => { modules := [], failure := none, loads }
  | loads, name :: names =>
    match attempt config host dir loads name with
    | (.ok module, loads) =>
      let rest := scanEach config host dir loads names
      { rest with modules := module :: rest.modules }
    | (.error error, loads) => { modules := [], failure := some error, loads }

def namesIn (dir : String) : PluginDirectory σ → Except PluginError (List String)
  | .missing => .error (.readDir dir (.os Errno.noEntry.code))
  | .notDirectory => .error (.readDir dir (.os Errno.notDirectory.code))
  | .files entries => .ok (((sortFiles entries).filter isModuleFile).map Prod.fst)

end Loader

namespace Ledger

/-- The ledger after a scan that follows the instances of `earlier`. -/
def enterScanAfter (l : Ledger σ) (scan : Scan σ) (earlier : List InstanceId) : Ledger σ :=
  { l with
    registry := { l.registry with loads := scan.loads }
    accepted := l.accepted ++ scan.ids
    teardowns := l.teardowns ++ if scan.failure.isSome then earlier ++ scan.ids else [] }

def enterScan (l : Ledger σ) (scan : Scan σ) : Ledger σ := l.enterScanAfter scan []

/-- The scan that an error ends before any module is loaded, or that finds nothing to load. -/
def emptyScan (l : Ledger σ) (failure : Option PluginError) : Scan σ :=
  { modules := [], failure, loads := l.registry.loads }

/-- What a scan of a directory comes to, once the modules in it were named or could not be. -/
def scanNamed (l : Ledger σ) (dir : String) : Except PluginError (List String) → Scan σ
  | .ok names => Loader.scanEach l.config l.host dir l.registry.loads names
  | .error error => l.emptyScan (some error)

def scanDir (l : Ledger σ) (dir : String) : Scan σ :=
  l.scanNamed dir (Loader.namesIn dir (l.host.directory dir))

def moduleDir (l : Ledger σ) : String := (l.config.resolvedPluginDir l.host.environment).1

def scan (l : Ledger σ) : Scan σ :=
  if l.config.loadPlugins then l.scanDir l.moduleDir else l.emptyScan none

theorem enterScan_emptyScan (l : Ledger σ) (failure : Option PluginError) :
    l.enterScan (l.emptyScan failure) = l := by
  simp [enterScan, enterScanAfter, emptyScan, Scan.ids]

end Ledger

/-! ## The loader carries a scan out -/

namespace Loader

open Context

theorem load_run (dir name : String) (c : Context σ) :
    (load dir name).run.run c =
      ((attempt c.config c.host dir c.registry.loads name).1,
        { c with registry := { c.registry with
            loads := (attempt c.config c.host dir c.registry.loads name).2 } }) := by
  unfold load attempt
  rw [run_get_bindE]
  cases (c.host.directory dir).find? name with
  | none => rfl
  | some file =>
      cases file with
      | library entryPoint => cases entryPoint <;> rfl
      | garbage | directory | dangling => rfl

theorem loadEach_nil (dir : String) (loaded : List (LoadedModule σ)) (c : Context σ) :
    (loadEach dir loaded []).run.run c = (.ok loaded, c) := rfl

theorem loadEach_cons (dir : String) (loaded : List (LoadedModule σ)) (name : String)
    (names : List String) (c : Context σ) :
    (loadEach dir loaded (name :: names)).run.run c =
      match (load dir name).run.run c with
      | (.ok module, d) =>
        (loadEach dir (loaded ++ [module]) names).run.run
          ((log (.moduleLoaded module.backend.id module.backend.name module.path)).run d).2
      | (.error error, d) => (.error error, ((drop loaded).run d).2) := by
  rw [loadEach, run_perform_bindE]
  rcases (load dir name).run.run c with ⟨outcome, d⟩
  cases outcome <;> rfl

theorem ledger_drop (loaded : List (LoadedModule σ)) (c : Context σ) :
    ((drop loaded).run c).2.ledger = { c.ledger with
      teardowns := c.ledger.teardowns ++ loaded.map fun module => module.backend.id } := by
  induction loaded generalizing c with
  | nil =>
      show c.ledger = _
      simp
  | cons module loaded ih =>
      have hlog : ((log (.moduleDropped module.backend.name)).run c).2.ledger = c.ledger :=
        ledger_log rfl c
      have h := ih ((call module.backend .teardown).run
        ((log (.moduleDropped module.backend.name)).run c).2).2
      rw [ledger_call_teardown, hlog, List.append_assoc] at h
      exact h

/-- Loading modules is the scan of their names. -/
theorem loadEach_run (dir : String) (loaded : List (LoadedModule σ)) (names : List String)
    (c : Context σ) :
    ((loadEach dir loaded names).run.run c).1 =
        (scanEach c.config c.host dir c.registry.loads names).resultAfter loaded ∧
      ((loadEach dir loaded names).run.run c).2.ledger =
        c.ledger.enterScanAfter (scanEach c.config c.host dir c.registry.loads names)
          (loaded.map fun module => module.backend.id) := by
  induction names generalizing loaded c with
  | nil => simp [loadEach_nil, scanEach, Scan.resultAfter, Ledger.enterScanAfter, Scan.ids, ledger]
  | cons name names ih =>
      rw [loadEach_cons, load_run, scanEach]
      rcases attempt c.config c.host dir c.registry.loads name with ⟨outcome, loads⟩
      cases outcome with
      | error error =>
          refine ⟨rfl, ?_⟩
          dsimp only
          rw [ledger_drop, ledger_withRegistry]
          simp [Ledger.enterScanAfter, Scan.ids, ledger]
      | ok module =>
          dsimp only
          -- The context in which the other modules are loaded.
          set d := ((log (.moduleLoaded module.backend.id module.backend.name module.path)).run
            { c with registry := { c.registry with loads } }).2 with hd
          have hledger : d.ledger = { c.ledger with
              registry := { c.registry with loads }
              accepted := c.ledger.accepted ++ [module.backend.id] } := by
            rw [hd, log, ledger_emit, ledger_withRegistry]
            simp [Event.tornDown?, Event.accepted?]
          have hconfig : d.config = c.config := congrArg Ledger.config hledger
          have hhost : d.host = c.host := congrArg Ledger.host hledger
          have hloads : d.registry.loads = loads := congrArg (·.registry.loads) hledger
          obtain ⟨hresult, hafter⟩ := ih (loaded ++ [module]) d
          rw [hconfig, hhost, hloads] at hresult hafter
          refine ⟨hresult.trans ?_, hafter.trans ?_⟩
          · simp [Scan.resultAfter]
          · rw [hledger]
            simp [Ledger.enterScanAfter, Scan.ids, ledger]

theorem moduleNames_run (dir : String) (c : Context σ) :
    ((moduleNames dir).run.run c).1 = namesIn dir (c.host.directory dir) ∧
      ((moduleNames dir).run.run c).2.ledger = c.ledger := by
  unfold moduleNames
  rw [run_get_bindE]
  cases c.host.directory dir with
  | missing | notDirectory => exact ⟨rfl, rfl⟩
  | files entries =>
      dsimp only
      rw [List.partition_eq_filter_filter]
      exact ⟨rfl, ledger_forM (fun entry d => ledger_log rfl d) c⟩

theorem loadAll_run (dir : String) (c : Context σ) :
    ((loadAll dir).run.run c).1 = (c.ledger.scanDir dir).resultAfter [] ∧
      ((loadAll dir).run.run c).2.ledger = c.ledger.enterScan (c.ledger.scanDir dir) := by
  obtain ⟨hnames, hledger⟩ := moduleNames_run dir c
  unfold loadAll
  rw [run_bindE]
  generalize (moduleNames dir).run.run c = named at hnames hledger ⊢
  rcases named with ⟨outcome, d⟩
  have hscan : c.ledger.scanDir dir = d.ledger.scanNamed dir outcome := by
    rw [Ledger.scanDir, hledger, show outcome = _ from hnames]
    rfl
  rw [hscan, ← hledger]
  cases outcome with
  | error error => exact ⟨rfl, (d.ledger.enterScan_emptyScan _).symm⟩
  | ok names => exact loadEach_run dir [] names d

end Loader

/-- **Loading the modules that the configuration asks for is a scan.** -/
theorem Registry.loadModules_run (c : Context σ) :
    (Registry.loadModules.run.run c).1 = c.ledger.scan.resultAfter [] ∧
      (Registry.loadModules.run.run c).2.ledger = c.ledger.enterScan c.ledger.scan := by
  unfold Registry.loadModules Ledger.scan
  rw [Context.run_get_bindE]
  by_cases hload : c.config.loadPlugins = true
  · have hload' : c.ledger.config.loadPlugins = true := hload
    rw [if_pos hload, if_pos hload']
    dsimp only
    rw [Context.run_perform_bindE]
    have hlog : ((Context.log (.discovering c.ledger.moduleDir
        (c.config.resolvedPluginDir c.host.environment).2)).run c).2.ledger = c.ledger :=
      Context.ledger_log rfl c
    have h := Loader.loadAll_run c.ledger.moduleDir ((Context.log (.discovering c.ledger.moduleDir
      (c.config.resolvedPluginDir c.host.environment).2)).run c).2
    rw [hlog] at h
    exact h
  · have hload' : ¬ c.ledger.config.loadPlugins = true := hload
    rw [if_neg hload, if_neg hload', c.ledger.enterScan_emptyScan]
    exact ⟨rfl, Context.ledger_log rfl c⟩

/-! ## The instances of a scan are new

An entry point may name its backend as it likes; the instance that the loader makes of it is told apart by
the number of instances before it. -/

/-- The instances of a scan are all different, and none of them was there when `before` were made. -/
structure Scan.Fresh (scan : Scan σ) (before : Nat) : Prop where
  le_loads : before ≤ scan.loads
  nodup : scan.ids.Nodup
  mem_ids : ∀ id ∈ scan.ids, ∃ k, before ≤ k ∧ k < scan.loads ∧ id = .loaded k

namespace Loader

variable {config : Config} {host : Host σ} {dir : String}

/-- What loading one module can do. -/
theorem attempt_cases (config : Config) (host : Host σ) (dir : String) (loads : Nat) (name : String) :
    (∃ module, attempt config host dir loads name = (.ok module, loads + 1) ∧
      module.backend.id = .loaded loads ∧ module.path = joinPath dir name) ∨
    ∃ error after, attempt config host dir loads name = (.error error, after) ∧ loads ≤ after := by
  unfold attempt
  split
  · dsimp only
    rename_i entryPoint _
    unfold acceptEntry
    split
    · split
      · exact .inl ⟨_, rfl, rfl, rfl⟩
      · exact .inr ⟨_, _, rfl, Nat.le_succ _⟩
      · exact .inr ⟨_, _, rfl, Nat.le_succ _⟩
    · exact .inr ⟨_, _, rfl, Nat.le_succ _⟩
  · exact .inr ⟨_, _, rfl, Nat.le_refl _⟩
  · exact .inr ⟨_, _, rfl, Nat.le_refl _⟩

theorem scanEach_fresh (loads : Nat) (names : List String) :
    (scanEach config host dir loads names).Fresh loads := by
  induction names generalizing loads with
  | nil => exact ⟨Nat.le_refl _, List.nodup_nil, nofun⟩
  | cons name names ih =>
      rcases attempt_cases config host dir loads name with
        ⟨module, hattempt, hid, -⟩ | ⟨error, after, hattempt, hle⟩
      · obtain ⟨hle, hnodup, hmem⟩ := ih (loads + 1)
        simp only [scanEach, hattempt]
        refine ⟨by dsimp only; omega, List.nodup_cons.mpr ⟨?_, hnodup⟩, ?_⟩
        · -- The first instance has a smaller number than the others.
          intro h
          obtain ⟨k, hk, -, heq⟩ := hmem _ h
          have hk' : loads = k := InstanceId.loaded.inj (hid.symm.trans heq)
          omega
        · intro id h
          rcases List.mem_cons.mp h with rfl | h
          · exact ⟨loads, Nat.le_refl _, hle, hid⟩
          · obtain ⟨k, hk, hlt, heq⟩ := hmem id h
            exact ⟨k, by omega, hlt, heq⟩
      · simp only [scanEach, hattempt]
        exact ⟨hle, List.nodup_nil, nofun⟩

/-- The modules of a scan that did not fail are those under the names, in order. -/
theorem scanEach_paths (loads : Nat) (names : List String)
    (h : (scanEach config host dir loads names).failure = none) :
    (scanEach config host dir loads names).modules.map LoadedModule.path =
      names.map (joinPath dir) := by
  induction names generalizing loads with
  | nil => rfl
  | cons name names ih =>
      rcases attempt_cases config host dir loads name with
        ⟨module, hattempt, -, hpath⟩ | ⟨error, after, hattempt, -⟩
      · simp only [scanEach, hattempt] at h ⊢
        rw [List.map_cons, List.map_cons, hpath, ih _ h]
      · simp only [scanEach, hattempt] at h
        cases h

/-! ## The order of modules -/

theorem namePrecedes_trans (a b c : String) (hab : namePrecedes a b) (hbc : namePrecedes b c) :
    namePrecedes a c := by
  simp only [namePrecedes, decide_eq_true_eq] at *
  exact List.le_trans hab hbc

theorem namePrecedes_total (a b : String) : namePrecedes a b || namePrecedes b a := by
  simp only [namePrecedes, Bool.or_eq_true, decide_eq_true_eq]
  exact List.le_total _ _

/-- The modules of a directory are named in the order of their bytes. -/
theorem namesIn_files (dir : String) (entries : List (String × PluginFile σ)) :
    ∃ names, namesIn dir (.files entries) = .ok names ∧
      names.Perm ((entries.filter isModuleFile).map Prod.fst) ∧
      names.Pairwise fun a b => namePrecedes a b := by
  refine ⟨_, rfl, ?_, ?_⟩
  · exact ((List.mergeSort_perm entries _).filter isModuleFile).map Prod.fst
  · have hsorted : (sortFiles entries).Pairwise fun a b => namePrecedes a.1 b.1 :=
      List.pairwise_mergeSort (fun a b c => namePrecedes_trans a.1 b.1 c.1)
        (fun a b => namePrecedes_total a.1 b.1) entries
    exact (hsorted.filter isModuleFile).map Prod.fst fun _ _ h => h

end Loader

namespace Ledger

theorem scan_fresh (l : Ledger σ) : l.scan.Fresh l.registry.loads := by
  unfold scan scanDir
  have hempty : ∀ failure, (l.emptyScan failure).Fresh l.registry.loads :=
    fun failure => ⟨Nat.le_refl _, List.nodup_nil, nofun⟩
  split
  · cases Loader.namesIn l.moduleDir (l.host.directory l.moduleDir) with
    | error error => exact hempty _
    | ok names => exact Loader.scanEach_fresh _ _
  · exact hempty _

/-- Modules are the ones that a scan has to find: none if no modules are asked for, and otherwise those of
the plugin directory, in the order of the bytes of their names. -/
def Finds (l : Ledger σ) (modules : List (LoadedModule σ)) : Prop :=
  (l.config.loadPlugins = false ∧ modules = []) ∨
  ∃ (entries : List (String × PluginFile σ)) (names : List String), l.config.loadPlugins = true ∧
    l.host.directory l.moduleDir = .files entries ∧
    names.Perm ((entries.filter Loader.isModuleFile).map Prod.fst) ∧
    names.Pairwise (fun a b => Loader.namePrecedes a b) ∧
    modules.map LoadedModule.path = names.map (joinPath l.moduleDir)

/-- **A scan that does not fail finds all modules.** -/
theorem finds_scan (l : Ledger σ) (h : l.scan.failure = none) : l.Finds l.scan.modules := by
  unfold Finds
  cases hload : l.config.loadPlugins with
  | false => exact .inl ⟨rfl, by simp [scan, hload, emptyScan]⟩
  | true =>
      have hscan : l.scan = l.scanDir l.moduleDir := by rw [scan, if_pos hload]
      rw [hscan] at h ⊢
      unfold scanDir at h ⊢
      cases hdir : l.host.directory l.moduleDir with
      | missing | notDirectory =>
          rw [hdir] at h
          cases h
      | files entries =>
          obtain ⟨names, hnames, hperm, hsorted⟩ := Loader.namesIn_files l.moduleDir entries
          rw [hdir, hnames] at h
          rw [hnames]
          exact .inr ⟨entries, names, rfl, rfl, hperm, hsorted, Loader.scanEach_paths _ _ h⟩

end Ledger

end StorageDispatch
