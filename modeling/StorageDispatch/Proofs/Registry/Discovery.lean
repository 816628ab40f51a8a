import StorageDispatch.Proofs.Context.Exact
import StorageDispatch.Proofs.Registry.Listing

set_option autoImplicit false

/-! # What a discovery does, exactly

A discovery is all or nothing. `Verdict` says what comes of one file, `AllLoad` of files that are loaded one
after the other, and `Discovered` lists the three ways in which a discovery can end: every file loads, and
the modules and the queue join the list; or the directory cannot be listed; or there is a first file that
fails, and all that is left of the attempt are the teardowns of the modules before it, and the failure.

That the loader does so is shown in two steps. `scanEach` says what a scan comes to, and `scanned_scanEach`
says that in terms of verdicts; the other lemmas say that the loader carries the scan out and nothing else
(`runDiscovery_does`). **The results** are `discover_discovered` and `rediscover_discovered`.
-/

namespace StorageDispatch

variable {σ : Type}

/-! ## Verdicts on files -/

/-- **What comes of the file under a name**, if it is loaded as the instance `id`, and whether an entry point
has run. -/
inductive Verdict (config : Config) (host : Host σ) (dir name : String) (id : InstanceId) :
    Except PluginError (LoadedModule σ) → Bool → Prop
  | good {entryPoint : EntryPoint σ} {backend : Backend σ}
      (hfile : (host.directory dir).find? name = some (.library (some entryPoint)))
      (habi : (entryPoint ⟨config, joinPath dir name⟩ id).abiVersion = abiVersion)
      (hbackend : (entryPoint ⟨config, joinPath dir name⟩ id).backend = some backend) :
      Verdict config host dir name id (.ok ⟨backend.identify id, joinPath dir name⟩) true
  | otherAbi {entryPoint : EntryPoint σ} {actual : Nat}
      (hfile : (host.directory dir).find? name = some (.library (some entryPoint)))
      (hactual : (entryPoint ⟨config, joinPath dir name⟩ id).abiVersion = actual)
      (habi : actual ≠ abiVersion) :
      Verdict config host dir name id (.error (.abiMismatch (joinPath dir name) abiVersion actual)) true
  | reported {entryPoint : EntryPoint σ} {source : BackendError}
      (hfile : (host.directory dir).find? name = some (.library (some entryPoint)))
      (habi : (entryPoint ⟨config, joinPath dir name⟩ id).abiVersion = abiVersion)
      (hbackend : (entryPoint ⟨config, joinPath dir name⟩ id).backend = none)
      (herror : (entryPoint ⟨config, joinPath dir name⟩ id).error = some source) :
      Verdict config host dir name id (.error (.initFailed (joinPath dir name) source)) true
  | silent {entryPoint : EntryPoint σ}
      (hfile : (host.directory dir).find? name = some (.library (some entryPoint)))
      (habi : (entryPoint ⟨config, joinPath dir name⟩ id).abiVersion = abiVersion)
      (hbackend : (entryPoint ⟨config, joinPath dir name⟩ id).backend = none)
      (herror : (entryPoint ⟨config, joinPath dir name⟩ id).error = none) :
      Verdict config host dir name id
        (.error (.initFailed (joinPath dir name)
          ⟨⟨22⟩, "entry point returned neither a backend nor an error"⟩)) true
  | noEntryPoint (hfile : (host.directory dir).find? name = some (.library none)) :
      Verdict config host dir name id (.error (.missingEntryPoint (joinPath dir name))) false
  /-- The file is no library, or there is none any more. -/
  | unloadable (hfile : ∀ entryPoint, (host.directory dir).find? name ≠ some (.library entryPoint)) :
      Verdict config host dir name id (.error (.loadFailed (joinPath dir name) host.diagnostic)) false

/-- The files under these names load, one after the other, and these are their modules. The instances are
numbered from `first` on. -/
def AllLoad (config : Config) (host : Host σ) (dir : String) (first : Nat) (names : List String)
    (modules : List (LoadedModule σ)) : Prop :=
  List.Forall₂ (fun entry module => Verdict config host dir entry.1 (.loaded entry.2) (.ok module) true)
    (names.zipIdx first) modules

/-- **How a scan of files ends**: all of them load, or one is the first that does not. -/
inductive Scanned (config : Config) (host : Host σ) (dir : String) (first : Nat) (names : List String) :
    Scan σ → Prop
  | all {modules : List (LoadedModule σ)} (hload : AllLoad config host dir first names modules) :
      Scanned config host dir first names ⟨modules, none, first + names.length⟩
  | failed {before after : List String} {name : String} {modules : List (LoadedModule σ)}
      {error : PluginError} {ran : Bool} (hsplit : names = before ++ name :: after)
      (hload : AllLoad config host dir first before modules)
      (hverdict : Verdict config host dir name (.loaded (first + before.length)) (.error error) ran) :
      Scanned config host dir first names ⟨modules, some error, first + before.length + ran.toNat⟩

namespace Loader

variable {config : Config} {host : Host σ} {dir : String}

theorem verdict_attempt (config : Config) (host : Host σ) (dir name : String) (loads : Nat) :
    ∃ ran, Verdict config host dir name (.loaded loads) (attempt config host dir loads name).1 ran ∧
      (attempt config host dir loads name).2 = loads + ran.toNat := by
  unfold attempt
  cases hfile : (host.directory dir).find? name with
  | none => exact ⟨false, .unloadable (by rw [hfile]; nofun), rfl⟩
  | some file =>
      cases file with
      | garbage | directory | dangling => exact ⟨false, .unloadable (by rw [hfile]; nofun), rfl⟩
      | library entryPoint? =>
          cases entryPoint? with
          | none => exact ⟨false, .noEntryPoint hfile, rfl⟩
          | some entryPoint =>
              refine ⟨true, ?_, rfl⟩
              dsimp only
              unfold acceptEntry BackendEntry.result?
              by_cases habi : (entryPoint ⟨config, joinPath dir name⟩ (.loaded loads)).abiVersion = abiVersion
              · rw [if_pos habi]
                cases hbackend : (entryPoint ⟨config, joinPath dir name⟩ (.loaded loads)).backend with
                | some backend => exact .good hfile habi hbackend
                | none =>
                    cases herror : (entryPoint ⟨config, joinPath dir name⟩ (.loaded loads)).error with
                    | some source => exact .reported hfile habi hbackend herror
                    | none => exact .silent hfile habi hbackend herror
              · rw [if_neg habi]
                exact .otherAbi hfile rfl habi

/-- **A scan ends with the first file that fails.** -/
theorem scanned_scanEach (first : Nat) (names : List String) :
    Scanned config host dir first names (scanEach config host dir first names) := by
  induction names generalizing first with
  | nil => exact .all .nil
  | cons name names ih =>
      obtain ⟨ran, hverdict, hloads⟩ := verdict_attempt config host dir name first
      unfold scanEach
      rcases hattempt : attempt config host dir first name with ⟨outcome, loads⟩
      rw [hattempt] at hverdict hloads
      dsimp only at hverdict hloads ⊢
      rw [hloads]
      cases outcome with
      | error error =>
          have hnone : AllLoad config host dir first [] [] := .nil
          exact .failed rfl hnone hverdict
      | ok module =>
          have hran : ran = true := by cases hverdict; rfl
          subst hran
          have hrest := ih (first + 1)
          dsimp only [Bool.toNat_true]
          generalize scanEach config host dir (first + 1) names = rest at hrest
          cases hrest with
          | all hload =>
              have hcount : first + 1 + names.length = first + (name :: names).length := by
                rw [List.length_cons]
                omega
              rw [hcount]
              exact .all (.cons hverdict hload)
          -- The first failure among the rest is the first of all, as this file has loaded.
          | @failed before after other modules error ran hsplit hload hfailed =>
              have hcount : first + 1 + before.length = first + (name :: before).length := by
                rw [List.length_cons]
                omega
              rw [hcount] at hfailed ⊢
              exact .failed (by rw [hsplit]; rfl) (.cons hverdict hload) hfailed

end Loader

/-! ## The loader carries a scan out, and nothing else -/

def dropping (modules : List (LoadedModule σ)) : List (InstanceId × String × Call) :=
  modules.map fun module => (module.backend.id, module.backend.name, .teardown)

/-- The world after modules were torn down, in that order. -/
def afterDropping (modules : List (LoadedModule σ)) (world : σ) : σ :=
  modules.foldl (fun world module => (module.backend.respond .teardown world).2) world

/-- The modules that are torn down if a scan follows the modules of `loaded`. -/
def Scan.droppedAfter (scan : Scan σ) (loaded : List (LoadedModule σ)) : List (LoadedModule σ) :=
  match scan.failure with
  | none => []
  | some _ => loaded ++ scan.modules

theorem Scan.resultAfter_cons (scan : Scan σ) (module : LoadedModule σ) (loaded : List (LoadedModule σ)) :
    Scan.resultAfter { scan with modules := module :: scan.modules } loaded =
      scan.resultAfter (loaded ++ [module]) := by
  unfold Scan.resultAfter
  cases scan.failure <;> simp

theorem Scan.droppedAfter_cons (scan : Scan σ) (module : LoadedModule σ) (loaded : List (LoadedModule σ)) :
    Scan.droppedAfter { scan with modules := module :: scan.modules } loaded =
      scan.droppedAfter (loaded ++ [module]) := by
  unfold Scan.droppedAfter
  cases scan.failure <;> simp

namespace Context

def withLoads (c : Context σ) (loads : Nat) : Context σ :=
  { c with registry := { c.registry with loads } }

def scannedAfter (c : Context σ) (scan : Scan σ) (loaded : List (LoadedModule σ)) : Context σ :=
  (c.withLoads scan.loads).inWorld (afterDropping (scan.droppedAfter loaded) c.world)

end Context

namespace Context.Does

theorem get {ε : Type} (c : Context σ) :
    Does (MonadState.get : ExceptT ε (Act σ) (Context σ)) c (.ok c) [] c := .of_run rfl

theorem forM_log {β ε : Type} (entries : List β) (line : β → LogEntry) (c : Context σ) :
    Does (perform (entries.forM fun entry => Context.log (line entry)) : ExceptT ε (Act σ) Unit) c (.ok ()) [] c := by
  induction entries generalizing c with
  | nil => exact .pure () c
  | cons entry entries ih => exact Does.perform_bind ((Does.log _ _).bind fun _ => ih _)

/-- A change of the registry is all that it leaves. -/
theorem update {ε : Type} (change : Registry σ → Registry σ) (c : Context σ) :
    Does (perform (Registry.update change) : ExceptT ε (Act σ) Unit) c (.ok ()) []
      { c with registry := change c.registry } := by
  refine ⟨[], rfl, ?_⟩
  rw [List.append_nil]
  rfl

theorem publishSize {ε : Type} (c : Context σ) :
    Does (perform Registry.publishSize : ExceptT ε (Act σ) Unit) c (.ok ()) [] c :=
  ⟨[.metric (.pluginsLoaded c.registry.size)], rfl, rfl⟩

end Context.Does

namespace Loader

open Context

theorem drop_does (modules : List (LoadedModule σ)) (c : Context σ) :
    Does (perform (drop modules) : Loading σ Unit) c (.ok ()) (dropping modules)
      (c.inWorld (afterDropping modules c.world)) := by
  induction modules generalizing c with
  | nil => exact .pure () c
  | cons module modules ih =>
      have hcall (events : List Event) := Does.call (ε := PluginError) module.backend .teardown (c.recording events)
      have hfirst : Does (perform (do
          log (.moduleDropped module.backend.name)
          call module.backend .teardown) : Loading σ Unit) c (.ok ())
          [(module.backend.id, module.backend.name, .teardown)]
          (c.inWorld (module.backend.respond .teardown c.world).2) :=
        Does.perform_bind ((Does.log _ _).bind hcall)
      exact Does.perform_bind (hfirst.bind fun events => ih _)

theorem load_does (dir name : String) (c : Context σ) :
    Does (load dir name) c (attempt c.config c.host dir c.registry.loads name).1 []
      (c.withLoads (attempt c.config c.host dir c.registry.loads name).2) := by
  refine ⟨[], rfl, ?_⟩
  rw [load_run, List.append_nil]
  rfl

/-- **Loading files is the scan of their names**, and if it fails, all modules are torn down again. -/
theorem loadEach_does (dir : String) (loaded : List (LoadedModule σ)) (names : List String) (c : Context σ) :
    Does (loadEach dir loaded names) c
      ((scanEach c.config c.host dir c.registry.loads names).resultAfter loaded)
      (dropping ((scanEach c.config c.host dir c.registry.loads names).droppedAfter loaded))
      (c.scannedAfter (scanEach c.config c.host dir c.registry.loads names) loaded) := by
  induction names generalizing loaded c with
  | nil =>
      have hnothing : (scanEach c.config c.host dir c.registry.loads []).resultAfter loaded = .ok loaded := by
        rw [scanEach, Scan.resultAfter, List.append_nil]
      rw [hnothing]
      exact .pure loaded c
  | cons name names ih =>
      have hload := (load_does dir name c).attempt (τ := PluginError)
      unfold loadEach scanEach
      rcases hattempt : attempt c.config c.host dir c.registry.loads name with ⟨outcome, loads⟩
      rw [hattempt] at hload
      cases outcome with
      | error error =>
          refine hload.bind fun events => ?_
          have hdropped := (drop_does loaded ((c.withLoads loads).recording events)).bind
            (f := fun _ => throw error) (fun later => .throw (α := List (LoadedModule σ)) error _)
          rw [List.append_nil] at hdropped
          have hloaded : (⟨[], some error, loads⟩ : Scan σ).droppedAfter loaded = loaded := List.append_nil _
          show Does _ _ (.error error) (dropping _) (c.scannedAfter ⟨[], some error, loads⟩ loaded)
          rw [scannedAfter, hloaded]
          exact hdropped
      | ok module =>
          refine hload.bind fun events => (Does.log _ _).bind fun later => ?_
          set rest := scanEach c.config c.host dir loads names
          -- What follows is a scan of the other names, behind one more module.
          have hrest := ih (loaded ++ [module]) ((c.withLoads loads).recording later)
          show Does _ _ (Scan.resultAfter { rest with modules := module :: rest.modules } loaded)
            (dropping (Scan.droppedAfter { rest with modules := module :: rest.modules } loaded))
            (c.scannedAfter { rest with modules := module :: rest.modules } loaded)
          rw [scannedAfter, Scan.resultAfter_cons, Scan.droppedAfter_cons]
          exact hrest

theorem moduleNames_does (dir : String) (c : Context σ) :
    Does (moduleNames dir) c (namesIn dir (c.host.directory dir)) [] c := by
  refine (Does.get c).bind fun events => ?_
  cases c.host.directory dir with
  | missing | notDirectory => exact .throw _ _
  | files entries =>
      dsimp only
      rw [List.partition_eq_filter_filter]
      exact (Does.forM_log _ _ _).bind fun _ => .pure _ _

theorem loadAll_does (dir : String) (c : Context σ) :
    Does (loadAll dir) c ((c.ledger.scanDir dir).resultAfter [])
      (dropping ((c.ledger.scanDir dir).droppedAfter [])) (c.scannedAfter (c.ledger.scanDir dir) []) := by
  have hnames := moduleNames_does dir c
  unfold loadAll
  have hscan : c.ledger.scanDir dir = c.ledger.scanNamed dir (namesIn dir (c.host.directory dir)) := rfl
  rw [hscan]
  cases hnamed : namesIn dir (c.host.directory dir) with
  | error error =>
      rw [hnamed] at hnames
      exact hnames.bind_error _
  | ok names =>
      rw [hnamed] at hnames
      exact hnames.bind fun events => loadEach_does dir [] names (c.recording events)

end Loader

namespace Registry

open Context

/-- Loading the modules that the configuration asks for is the scan for them. -/
theorem loadModules_does (c : Context σ) :
    Does loadModules c (c.ledger.scan.resultAfter []) (dropping (c.ledger.scan.droppedAfter []))
      (c.scannedAfter c.ledger.scan []) := by
  refine (Does.get c).bind fun events => ?_
  rw [Ledger.scan]
  by_cases hload : c.config.loadPlugins = true
  · have hload' : c.ledger.config.loadPlugins = true := hload
    rw [if_pos hload, if_pos hload']
    exact (Does.log _ _).bind fun later => Loader.loadAll_does _ (c.recording later)
  · have hload' : ¬ c.ledger.config.loadPlugins = true := hload
    rw [if_neg hload, if_neg hload']
    exact (Does.log _ _).bind fun later => .pure _ _

/-- The registry after its modules were found: they and the queue have joined the list. -/
def filled (registry : Registry σ) (modules : List (LoadedModule σ)) : Registry σ :=
  { registry with
    phase := .ready
    plugins := sortPlugins
      (registry.plugins ++ numbered registry.nextOrder (newcomers modules registry.pending))
    pending := []
    nextOrder := registry.nextOrder + (modules.length + registry.pending.length)
    version := registry.version + 1
    loads := registry.loads + modules.length }

/-- The registry after a discovery has failed, and `loads` entry points have run: no more is left of it. -/
def gaveUp (registry : Registry σ) (error : PluginError) (loads : Nat) : Registry σ :=
  { registry with phase := .failed error, loads := registry.loads + loads }

theorem afterDiscovery_eq (registry : Registry σ) (modules : List (LoadedModule σ)) :
    afterDiscovery modules { registry with loads := registry.loads + modules.length } =
      registry.filled modules := by
  have hlength : (newcomers modules registry.pending).length = _ := length_newcomers
  unfold filled
  rw [← hlength]
  rfl

theorem runDiscovery_does_ok {c d : Context σ} {modules : List (LoadedModule σ)}
    {made : List (InstanceId × String × Call)} (h : Does loadModules c (.ok modules) made d) :
    Does runDiscovery c (.ok (afterDiscovery modules d.registry).plugins) made
      { d with registry := afterDiscovery modules d.registry } := by
  rw [← List.append_nil made]
  refine (h.attempt (τ := Error)).bind fun events => ?_
  refine (Does.update _ _).bind fun events => ?_
  refine (Does.publishSize _).bind fun events => ?_
  refine (Does.get _).bind fun events => ?_
  exact (Does.log _ _).bind fun events => .pure _ _

theorem runDiscovery_does_error {c d : Context σ} {error : PluginError}
    {made : List (InstanceId × String × Call)} (h : Does loadModules c (.error error) made d) :
    Does runDiscovery c (.error (.discovery error)) made
      { d with registry := { d.registry with phase := .failed error } } := by
  rw [← List.append_nil made]
  refine (h.attempt (τ := Error)).bind fun events => ?_
  exact (Does.log _ _).bind fun events => (Does.update _ _).bind fun events => .throw _ _

end Registry

/-! ## How a discovery ends -/

/-- The files of a directory that are considered, by their names: the regular ones with the extension of
modules, in the order of the bytes of their names. -/
structure Considered (entries : List (String × PluginFile σ)) (names : List String) : Prop where
  perm : names.Perm ((entries.filter fun entry =>
    entry.2.isRegular && extension? entry.1 == some "so").map Prod.fst)
  ordered : names.Pairwise fun a b => a.toUTF8.toList ≤ b.toUTF8.toList

inductive Sought (c : Context σ) : List String → Prop
  | nothing (hload : c.config.loadPlugins = false) : Sought c []
  | modules {entries : List (String × PluginFile σ)} {names : List String}
      (hload : c.config.loadPlugins = true)
      (hdir : c.host.directory (c.config.resolvedPluginDir c.host.environment).1 = .files entries)
      (hnames : Considered entries names) : Sought c names

inductive Unlistable : PluginDirectory σ → Errno → Prop
  | missing : Unlistable .missing .noEntry
  | notDirectory : Unlistable .notDirectory .notDirectory

/-- **How a discovery ends**: with its result, the calls that it makes, and the context that it leaves. -/
inductive Discovered (c : Context σ) :
    Except Error (List (Plugin σ)) → List (InstanceId × String × Call) → Context σ → Prop
  /-- All files load. -/
  | ready {names : List String} {modules : List (LoadedModule σ)} (hnames : Sought c names)
      (hload : AllLoad c.config c.host (c.config.resolvedPluginDir c.host.environment).1 c.registry.loads names
        modules) :
      Discovered c (.ok (c.registry.filled modules).plugins) []
        { c with registry := c.registry.filled modules }
  /-- The file after those of `before` is the first that does not load. -/
  | failed {before after : List String} {name : String} {modules : List (LoadedModule σ)}
      {error : PluginError} {ran : Bool} (hnames : Sought c (before ++ name :: after))
      (hload : AllLoad c.config c.host (c.config.resolvedPluginDir c.host.environment).1 c.registry.loads before
        modules)
      (hverdict : Verdict c.config c.host (c.config.resolvedPluginDir c.host.environment).1 name
        (.loaded (c.registry.loads + before.length)) (.error error) ran) :
      Discovered c (.error (.discovery error)) (dropping modules)
        { c with
          registry := c.registry.gaveUp error (before.length + ran.toNat)
          world := afterDropping modules c.world }
  | unlistable {code : Errno} (hload : c.config.loadPlugins = true)
      (hdir : Unlistable (c.host.directory (c.config.resolvedPluginDir c.host.environment).1) code) :
      Discovered c
        (.error (.discovery (.readDir (c.config.resolvedPluginDir c.host.environment).1 (.os code.code)))) []
        { c with
          registry := c.registry.gaveUp
            (.readDir (c.config.resolvedPluginDir c.host.environment).1 (.os code.code)) 0 }

theorem AllLoad.length_eq {config : Config} {host : Host σ} {dir : String} {first : Nat}
    {names : List String} {modules : List (LoadedModule σ)}
    (h : AllLoad config host dir first names modules) : modules.length = names.length := by
  have hlength := List.Forall₂.length_eq h
  rwa [List.length_zipIdx, eq_comm] at hlength

namespace Registry

open Context

/-- A scan of files settles how the discovery ends. -/
theorem discovered_of_scanned {c : Context σ} {names : List String} (hnames : Sought c names)
    (hscan : Scanned c.config c.host (c.config.resolvedPluginDir c.host.environment).1 c.registry.loads names
      c.ledger.scan) :
    ∃ result made d, Discovered c result made d ∧ Does runDiscovery c result made d := by
  have hdoes := loadModules_does c
  generalize c.ledger.scan = scan at hscan hdoes
  cases hscan with
  | @all modules hload =>
      have hfound : Does loadModules c (.ok modules) [] (c.withLoads (c.registry.loads + names.length)) := hdoes
      rw [← hload.length_eq] at hfound
      have hrun := runDiscovery_does_ok hfound
      have hregistry : afterDiscovery modules (c.withLoads (c.registry.loads + modules.length)).registry =
          c.registry.filled modules := afterDiscovery_eq c.registry modules
      rw [hregistry] at hrun
      exact ⟨_, _, _, .ready hnames hload, hrun⟩
  | @failed before after name modules error ran hsplit hload hverdict =>
      rw [hsplit] at hnames
      refine ⟨_, _, _, .failed hnames hload hverdict, ?_⟩
      have hrun := runDiscovery_does_error hdoes
      rw [gaveUp, ← Nat.add_assoc]
      exact hrun

/-- **A discovery is all or nothing.** -/
theorem runDiscovery_discovered (c : Context σ) :
    ∃ result made d, Discovered c result made d ∧ Does runDiscovery c result made d := by
  -- A directory that cannot be listed ends the discovery before any module is looked at.
  have hunlistable (code : Errno) (hload : c.config.loadPlugins = true)
      (hdir : Unlistable (c.host.directory c.ledger.moduleDir) code)
      (hscan : c.ledger.scan = c.ledger.emptyScan (some (.readDir c.ledger.moduleDir (.os code.code)))) :
      ∃ result made d, Discovered c result made d ∧ Does runDiscovery c result made d := by
    have hdoes := loadModules_does c
    rw [hscan] at hdoes
    exact ⟨_, _, _, .unlistable hload hdir, runDiscovery_does_error hdoes⟩
  cases hload : c.config.loadPlugins with
  | false =>
      have hscan : c.ledger.scan = c.ledger.emptyScan none := by
        rw [Ledger.scan, if_neg (by rw [show c.ledger.config.loadPlugins = _ from hload]; decide)]
      refine discovered_of_scanned (.nothing hload) ?_
      rw [hscan]
      exact .all .nil
  | true =>
      have hscan : c.ledger.scan = c.ledger.scanDir c.ledger.moduleDir := by
        rw [Ledger.scan, if_pos (show c.ledger.config.loadPlugins = true from hload)]
      rw [Ledger.scanDir] at hscan
      cases hdir : c.ledger.host.directory c.ledger.moduleDir with
      | missing =>
          refine hunlistable .noEntry hload ?_ ?_
          · rw [show c.host.directory c.ledger.moduleDir = _ from hdir]
            exact .missing
          · rw [hscan, hdir]
            rfl
      | notDirectory =>
          refine hunlistable .notDirectory hload ?_ ?_
          · rw [show c.host.directory c.ledger.moduleDir = _ from hdir]
            exact .notDirectory
          · rw [hscan, hdir]
            rfl
      | files entries =>
          obtain ⟨names, hnames, hperm, hordered⟩ := Loader.namesIn_files c.ledger.moduleDir entries
          have hbytes : names.Pairwise fun a b => a.toUTF8.toList ≤ b.toUTF8.toList :=
            hordered.imp fun h => of_decide_eq_true h
          refine discovered_of_scanned (.modules hload hdir ⟨hperm, hbytes⟩) ?_
          rw [hscan, hdir, hnames]
          exact Loader.scanned_scanEach _ _

end Registry

theorem Sought.of_recording {c : Context σ} {events : List Event} {names : List String}
    (h : Sought (c.recording events) names) : Sought c names := by
  cases h with
  | nothing hload => exact .nothing hload
  | modules hload hdir hnames => exact .modules hload hdir hnames

/-- The record of events has no part in how a discovery ends. -/
theorem Discovered.of_recording {c d : Context σ} {events : List Event}
    {result : Except Error (List (Plugin σ))} {made : List (InstanceId × String × Call)}
    (h : Discovered (c.recording events) result made d) :
    ∃ e, Discovered c result made e ∧ ∀ later, d.recording later = e.recording later := by
  cases h with
  | ready hnames hload => exact ⟨_, .ready hnames.of_recording hload, fun _ => rfl⟩
  | failed hnames hload hverdict =>
      exact ⟨_, .failed hnames.of_recording hload hverdict, fun _ => rfl⟩
  | unlistable hload hdir => exact ⟨_, .unlistable hload hdir, fun _ => rfl⟩

/-- The context after a failed discovery was forgotten. -/
def Context.forgetting (c : Context σ) : Context σ :=
  { c with registry := { c.registry with phase := .uninitialized } }

namespace Registry

open Context

/-- The first call is the one that discovers. -/
theorem discover_does {c d : Context σ} {result : Except Error (List (Plugin σ))}
    {made : List (InstanceId × String × Call)} (hphase : c.registry.phase = .uninitialized)
    (h : Does runDiscovery c result made d) : Does discover c result made d := by
  have hrun : discover.run.run c = runDiscovery.run.run c := by
    unfold discover
    rw [run_get_bindE]
    dsimp only
    rw [hphase]
  unfold Does
  rw [hrun]
  exact h

/-- **The first discovery** is all or nothing. -/
theorem discover_discovered {c : Context σ} (h : c.registry.phase = .uninitialized) :
    ∃ result made d, Discovered c result made d ∧ Does discover c result made d := by
  obtain ⟨result, made, d, hdiscovered, hdoes⟩ := runDiscovery_discovered c
  exact ⟨result, made, d, hdiscovered, discover_does h hdoes⟩

/-- **A retried discovery** is all or nothing, as if none had failed before. -/
theorem rediscover_discovered {c : Context σ} {error : PluginError} (h : c.registry.phase = .failed error) :
    ∃ result made d, Discovered c.forgetting result made d ∧ Does rediscover c result made d := by
  have hforget : Does (perform forgetFailure : Engine σ Unit) c (.ok ()) [] c.forgetting := by
    have hrun : forgetFailure.run c = ((), c.forgetting.recording
        (c.events ++ [.log (.discoveryRetried error)])) := by
      unfold forgetFailure
      rw [run_get_bind, h]
      rfl
    refine ⟨[.log (.discoveryRetried error)], rfl, ?_⟩
    show (Except.ok (forgetFailure.run c).1, (forgetFailure.run c).2) = _
    rw [hrun]
  obtain ⟨events, hleft⟩ := hforget.context_eq
  have hfirst : (c.forgetting.recording events).registry.phase = .uninitialized := rfl
  obtain ⟨result, made, d, hdiscovered, hdoes⟩ := discover_discovered hfirst
  obtain ⟨e, hdiscovered, hsame⟩ := hdiscovered.of_recording
  rw [← hleft] at hdoes
  exact ⟨result, made, e, hdiscovered, (hforget.andThen hdoes).congr hsame⟩

end Registry

end StorageDispatch
