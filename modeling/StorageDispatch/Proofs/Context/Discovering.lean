import Mathlib.Data.List.Forall2
import StorageDispatch.Proofs.Context.Pairs

set_option autoImplicit false

/-! # Plugins discovered side by side

Discovery and registration, carried out in two contexts with the same configuration on the same machine. Both
sides load the same modules in the same order, and fail in the same way. What is compared besides are the
backends (`B`) and the lists of plugins (`L`).

A relation between contexts is `Discovering` if it outlasts what happens to a registry on the way: an instance
is made, the phase changes, backends join the list or wait for it. Who is torn down, and which plugin is found,
is left to the relation.
-/

namespace StorageDispatch

variable {σ : Type}

namespace Context

variable {T : Context σ → Context σ → Prop} {B : Backend σ → Backend σ → Prop}
  {L : List (Plugin σ) → List (Plugin σ) → Prop} {c c' : Context σ}

/-- The modules of a machine make backends that are related to themselves, as the instances of their loads. -/
def Makes (B : Backend σ → Backend σ → Prop) (host : Host σ) : Prop :=
  ∀ dir name entryPoint, (host.directory dir).find? name = some (.library (some entryPoint)) →
    ∀ told n backend, (entryPoint told (.loaded n)).backend = some backend →
      B (backend.identify (.loaded n)) (backend.identify (.loaded n))

/-- **Relations along which plugins are discovered.** -/
structure Discovering (T : Context σ → Context σ → Prop) (B : Backend σ → Backend σ → Prop)
    (L : List (Plugin σ) → List (Plugin σ) → Prop) : Prop extends Abreast T where
  config_eq : ∀ {c c'}, T c c' → c'.config = c.config
  host_eq : ∀ {c c'}, T c c' → c'.host = c.host
  phase_eq : ∀ {c c'}, T c c' → c'.registry.phase = c.registry.phase
  makes : ∀ {c c'}, T c c' → Makes B c.host
  listed : ∀ {c c'}, T c c' → L c.registry.plugins c'.registry.plugins
  nextInstance : Paired T (fun id id' => id' = id ∧ ∃ n, id = .loaded n) Loader.nextInstance Loader.nextInstance
  tearDown : ∀ {b b'}, B b b' → Paired T Eq (Context.call b .teardown) (Context.call b' .teardown)
  rephase : ∀ {c c'}, T c c' → ∀ phase, phase ≠ .tornDown →
    T { c with registry := { c.registry with phase } } { c' with registry := { c'.registry with phase } }
  fill : ∀ {c c'}, T c c' → ∀ modules : List (LoadedModule σ), (∀ module ∈ modules, B module.backend module.backend) →
    T { c with registry := c.registry.afterDiscovery modules }
      { c' with registry := c'.registry.afterDiscovery modules }
  queue : ∀ {c c'}, T c c' → ∀ {b b'}, B b b' →
    T { c with registry := { c.registry with pending := c.registry.pending ++ [b] } }
      { c' with registry := { c'.registry with pending := c'.registry.pending ++ [b'] } }
  enroll : ∀ {c c'}, T c c' → c.registry.phase = .ready → ∀ {b b'}, B b b' →
    T { c with registry := c.registry.enroll [(b, .static)] }
      { c' with registry := c'.registry.enroll [(b', .static)] }

/-- A backend that a module makes is the one that its entry holds, under the identity of the load. -/
theorem acceptEntry_made {entry : BackendEntry σ} {n : Nat} {path : String} {module : LoadedModule σ}
    (hentry : ∀ backend, entry.backend = some backend →
      B (backend.identify (.loaded n)) (backend.identify (.loaded n)))
    (h : Loader.acceptEntry (.loaded n) path entry = .ok module) : B module.backend module.backend := by
  unfold Loader.acceptEntry BackendEntry.result? at h
  split at h
  · cases hbackend : entry.backend with
    | none =>
        rw [hbackend] at h
        cases herror : entry.error <;> rw [herror] at h <;> cases h
    | some backend =>
        rw [hbackend] at h
        cases h
        exact hentry backend hbackend
  · cases h

namespace Discovering

variable (F : Discovering T B L)

include F

/-! ## Loading modules -/

theorem moduleNames (dir : String) : PairedE T Eq (Loader.moduleNames dir) (Loader.moduleNames dir) := by
  refine .get fun c c' h => ?_
  rw [F.host_eq h]
  cases c.host.directory dir with
  | missing | notDirectory => exact PairedE.throw _ c c' h
  | files entries =>
      refine PairedE.bindEq (.perform (.forM (List.forall₂_same.mpr fun _ _ => rfl) ?_))
        (fun _ => .pure rfl) c c' h
      exact fun entry entry' _ => F.log _ _

theorem load (dir name : String) :
    PairedE T (fun module module' => module' = module ∧ B module.backend module.backend)
      (Loader.load dir name) (Loader.load dir name) := by
  refine .get fun c c' h => ?_
  dsimp only
  rw [F.host_eq h, F.config_eq h]
  split
  · rename_i entryPoint hfile
    refine PairedE.bind F.nextInstance.perform (fun id id' hid => ?_) c c' h
    obtain ⟨rfl, n, rfl⟩ := hid
    refine .fromOutcome ?_
    generalize haccepted : Loader.acceptEntry _ _ _ = accepted
    cases accepted with
    | error error => exact .error error
    | ok module => exact .ok ⟨rfl, acceptEntry_made (F.makes h dir name entryPoint hfile _ n) haccepted⟩
  · exact PairedE.throw _ c c' h
  · exact PairedE.throw _ c c' h

theorem drop {loaded : List (LoadedModule σ)} (hloaded : ∀ module ∈ loaded, B module.backend module.backend) :
    Paired T Eq (Loader.drop loaded) (Loader.drop loaded) := by
  have hboth : List.Forall₂ (fun module module' => B module.backend module'.backend) loaded loaded :=
    List.forall₂_same.mpr hloaded
  exact .forM hboth fun _ _ hbackend => (F.log _ _).bindEq fun _ => F.tearDown hbackend

theorem loadEach (dir : String) {loaded : List (LoadedModule σ)}
    (hloaded : ∀ module ∈ loaded, B module.backend module.backend) (names : List String) :
    PairedE T (fun modules modules' => modules' = modules ∧ ∀ module ∈ modules, B module.backend module.backend)
      (Loader.loadEach dir loaded names) (Loader.loadEach dir loaded names) := by
  induction names generalizing loaded with
  | nil => exact .pure ⟨rfl, hloaded⟩
  | cons name names ih =>
      refine .bind (F.load dir name).run.perform fun result result' hresult => ?_
      cases hresult with
      | error error => exact .bindEq (F.drop hloaded).perform fun _ => .throw _
      | @ok module module' hmodule =>
          obtain ⟨rfl, hbackend⟩ := hmodule
          refine .bindEq (F.log _ _).perform fun _ => ih ?_
          exact List.forall_mem_append.mpr ⟨hloaded, List.forall_mem_singleton.mpr hbackend⟩

theorem loadModules :
    PairedE T (fun modules modules' => modules' = modules ∧ ∀ module ∈ modules, B module.backend module.backend)
      Registry.loadModules Registry.loadModules := by
  refine .get fun c c' h => ?_
  rw [F.host_eq h, F.config_eq h]
  split
  · exact PairedE.bindEq (F.log _ _).perform
      (fun _ => .bindEq (F.moduleNames _) fun names => F.loadEach _ (List.forall_mem_nil _) names) c c' h
  · exact PairedE.bindEq (F.log _ _).perform (fun _ => .pure ⟨rfl, nofun⟩) c c' h

/-! ## Discovery -/

theorem publishSize : Paired T Eq Registry.publishSize Registry.publishSize :=
  .get fun c c' h => F.measure _ _ c c' h

theorem changePhase {phase : Phase} (hphase : phase ≠ .tornDown) :
    Paired T Eq (Registry.update fun registry => { registry with phase })
      (Registry.update fun registry => { registry with phase }) :=
  fun _ _ h => ⟨rfl, F.rephase h phase hphase⟩

theorem runDiscovery : PairedE T L Registry.runDiscovery Registry.runDiscovery := by
  refine .bind F.loadModules.run.perform fun result result' hresult => ?_
  cases hresult with
  | error error =>
      refine .bindEq (F.log _ _).perform fun _ => .bindEq (F.changePhase ?_).perform fun _ => .throw _
      nofun
  | @ok modules modules' hmodules =>
      obtain ⟨rfl, hbackends⟩ := hmodules
      have hfill : Paired T Eq (Registry.update (Registry.afterDiscovery modules'))
          (Registry.update (Registry.afterDiscovery modules')) := fun _ _ h => ⟨rfl, F.fill h _ hbackends⟩
      refine .bindEq hfill.perform fun _ => .bindEq F.publishSize.perform fun _ => .get fun c c' h => ?_
      exact PairedE.bindEq (F.log _ _).perform (fun _ => .pure (F.listed h)) c c' h

/-- **The plugins are discovered side by side.** -/
theorem discover : PairedE T L Registry.discover Registry.discover := by
  refine .get fun c c' h => ?_
  dsimp only
  rw [F.phase_eq h]
  cases c.registry.phase with
  | ready | tornDown => exact PairedE.pure (F.listed h) c c' h
  | failed error => exact PairedE.throw _ c c' h
  | uninitialized => exact F.runDiscovery c c' h

theorem rediscover : PairedE T L Registry.rediscover Registry.rediscover := by
  have hforget : Paired T Eq Registry.forgetFailure Registry.forgetFailure := by
    refine .get fun c c' h => ?_
    rw [F.phase_eq h]
    cases c.registry.phase with
    | failed error =>
        refine Paired.bindEq (F.log _ _) (fun _ => F.changePhase ?_) c c' h
        nofun
    | uninitialized | ready | tornDown => exact Paired.pure rfl c c' h
  exact .bindEq hforget.perform fun _ => F.discover

/-! ## Registration -/

/-- **Backends are registered side by side.** -/
theorem register {b b' : Backend σ} (hbackend : B b b') :
    Paired T Eq (Registry.register b) (Registry.register b') := by
  have henqueue : Paired T Eq (Registry.enqueue b) (Registry.enqueue b') :=
    (F.log _ _).bindEq fun _ _ _ h => ⟨rfl, F.queue h hbackend⟩
  refine .get fun c c' h => ?_
  rw [F.phase_eq h]
  cases hphase : c.registry.phase with
  | uninitialized | failed => exact henqueue c c' h
  | tornDown => exact Paired.bindEq (F.log _ _) (fun _ => F.tearDown hbackend) c c' h
  | ready =>
      have hlogged : T ((log (.registered b.name b.priority)).run c).2
          ((log (.registered b'.name b'.priority)).run c').2 := F.note rfl rfl h
      exact F.publishSize _ _ (F.enroll hlogged hphase hbackend)

end Discovering

end Context

end StorageDispatch
