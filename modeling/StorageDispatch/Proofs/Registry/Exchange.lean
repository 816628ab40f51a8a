import StorageDispatch.Registry.Discovery
import StorageDispatch.Proofs.Registry.Order

set_option autoImplicit false

/-! # Registries with other backends

`Registry.exchange f` puts the backend `f b` in the place of every backend `b` of a registry. If `f` keeps names,
priorities and identities, then nothing that the registry does by itself tells the difference: newcomers join at
the same places, the plugins are torn down and described alike, and a name is that of plugins in the same places.
-/

namespace StorageDispatch

variable {σ : Type}

def Plugin.exchange (f : Backend σ → Backend σ) (plugin : Plugin σ) : Plugin σ :=
  { plugin with backend := f plugin.backend }

namespace Registry

/-- The backends of a registry, those that are listed and those that wait. -/
def backends (registry : Registry σ) : List (Backend σ) :=
  registry.plugins.map Plugin.backend ++ registry.pending

def exchange (f : Backend σ → Backend σ) (registry : Registry σ) : Registry σ :=
  { registry with
    plugins := registry.plugins.map (Plugin.exchange f)
    pending := registry.pending.map f }

theorem exchange_id (registry : Registry σ) : registry.exchange id = registry := by
  have hplugins : registry.plugins.map (Plugin.exchange id) = registry.plugins := List.map_id _
  have hpending : registry.pending.map id = registry.pending := List.map_id _
  rw [exchange, hplugins, hpending]

/-! ## What the registry has -/

variable {registry : Registry σ} {f : Backend σ → Backend σ}

theorem mem_backends {backend : Backend σ} : backend ∈ registry.backends ↔
    (∃ plugin ∈ registry.plugins, plugin.backend = backend) ∨ backend ∈ registry.pending := by
  rw [backends, List.mem_append, List.mem_map]

theorem backend_mem {plugin : Plugin σ} (h : plugin ∈ registry.plugins) : plugin.backend ∈ registry.backends :=
  mem_backends.mpr (.inl ⟨plugin, h, rfl⟩)

theorem backends_enroll {newcomers : List (Backend σ × PluginOrigin)} {backend : Backend σ}
    (h : backend ∈ (registry.enroll newcomers).backends) :
    backend ∈ registry.backends ∨ backend ∈ newcomers.map Prod.fst := by
  rcases mem_backends.mp h with ⟨plugin, hplugin, rfl⟩ | hpending
  · have hmem : plugin ∈ registry.plugins ++ numbered registry.nextOrder newcomers :=
      (sortPlugins_perm _).mem_iff.mp hplugin
    rcases List.mem_append.mp hmem with hold | hnew
    · exact .inl (backend_mem hold)
    · refine .inr ?_
      rw [← backend_numbered registry.nextOrder]
      exact List.mem_map_of_mem hnew
  · exact .inl (List.mem_append_right _ hpending)

theorem backends_afterDiscovery {modules : List (LoadedModule σ)} {backend : Backend σ}
    (h : backend ∈ (registry.afterDiscovery modules).backends) :
    backend ∈ registry.backends ∨ ∃ module ∈ modules, module.backend = backend := by
  rcases mem_backends.mp h with hlisted | hpending
  · -- Whoever is listed then was there, waited, or comes from a module.
    have hmem : backend ∈ (registry.enroll (modules.map (fun module => (module.backend, .module module.path)) ++
        registry.pending.map fun backend => (backend, .static))).backends := mem_backends.mpr (.inl hlisted)
    rcases backends_enroll hmem with hold | hnew
    · exact .inl hold
    · rw [List.map_append, List.mem_append, List.map_map, List.map_map] at hnew
      rcases hnew with hmodule | hwaited
      · exact .inr (List.mem_map.mp hmodule)
      · obtain ⟨waited, hthere, rfl⟩ := List.mem_map.mp hwaited
        exact .inl (List.mem_append_right _ hthere)
  · exact absurd hpending List.not_mem_nil

/-! ## Newcomers -/

theorem numbered_exchange (first : Nat) (newcomers : List (Backend σ × PluginOrigin)) :
    (numbered first newcomers).map (Plugin.exchange f) =
      numbered first (newcomers.map fun newcomer => (f newcomer.1, newcomer.2)) := by
  rw [numbered, numbered, List.map_map, List.zipIdx_map, List.map_map]
  rfl

/-- **Newcomers join at the same places.** -/
theorem enroll_exchange (hpriority : ∀ b, (f b).priority = b.priority) (registry : Registry σ)
    (newcomers : List (Backend σ × PluginOrigin)) :
    (registry.enroll newcomers).exchange f =
      (registry.exchange f).enroll (newcomers.map fun newcomer => (f newcomer.1, newcomer.2)) := by
  have hprecedes (p q : Plugin σ) : p.precedes q = (p.exchange f).precedes (q.exchange f) := by
    unfold Plugin.precedes Plugin.priority Plugin.exchange
    rw [hpriority, hpriority]
  have hplugins : (registry.enroll newcomers).plugins.map (Plugin.exchange f) =
      ((registry.exchange f).enroll (newcomers.map fun newcomer => (f newcomer.1, newcomer.2))).plugins := by
    calc (registry.enroll newcomers).plugins.map (Plugin.exchange f)
        = sortPlugins ((registry.plugins ++ numbered registry.nextOrder newcomers).map (Plugin.exchange f)) :=
          List.map_mergeSort fun p _ q _ => hprecedes p q
      _ = sortPlugins (registry.plugins.map (Plugin.exchange f) ++
            numbered registry.nextOrder (newcomers.map fun newcomer => (f newcomer.1, newcomer.2))) := by
          rw [List.map_append, numbered_exchange]
  rw [exchange, hplugins]
  unfold enroll
  rw [List.length_map]
  rfl

/-- What modules make is the same on both sides. -/
theorem afterDiscovery_exchange (hpriority : ∀ b, (f b).priority = b.priority) {modules : List (LoadedModule σ)}
    (hmodules : ∀ module ∈ modules, f module.backend = module.backend) :
    (registry.afterDiscovery modules).exchange f = (registry.exchange f).afterDiscovery modules := by
  have hloaded : (modules.map fun module => (module.backend, PluginOrigin.module module.path)).map
      (fun newcomer => (f newcomer.1, newcomer.2)) =
      modules.map fun module => (module.backend, .module module.path) := by
    rw [List.map_map]
    exact List.map_congr_left fun module hmem => congrArg (·, PluginOrigin.module module.path) (hmodules module hmem)
  have henroll := enroll_exchange hpriority registry
    (modules.map (fun module => (module.backend, .module module.path)) ++
      registry.pending.map fun backend => (backend, .static))
  rw [List.map_append, hloaded, List.map_map] at henroll
  have hwaiting : (registry.exchange f).pending.map (fun backend => (backend, PluginOrigin.static)) =
      registry.pending.map fun backend => (f backend, .static) := List.map_map
  unfold afterDiscovery
  dsimp only
  rw [hwaiting]
  exact congrArg (fun r : Registry σ => { r with phase := .ready, pending := [] }) henroll

/-! ## What is told about it -/

theorem info_exchange (hid : ∀ b, (f b).id = b.id) (hname : ∀ b, (f b).name = b.name)
    (hpriority : ∀ b, (f b).priority = b.priority) (registry : Registry σ) (plugin : Plugin σ) :
    (registry.exchange f).info (plugin.exchange f) = registry.info plugin := by
  simp only [info, Plugin.name, Plugin.priority, Plugin.id, Plugin.exchange, exchange, hid, hname, hpriority]

theorem size_exchange : (registry.exchange f).size = registry.size := List.length_map _

theorem debug_exchange : (registry.exchange f).debug = registry.debug := by
  rw [debug, debug, size_exchange]
  rfl

/-- A name is that of plugins in the same places. -/
theorem find?_exchange (hname : ∀ b, (f b).name = b.name) (plugins : List (Plugin σ)) (name : String) :
    ((plugins.map (Plugin.exchange f)).find? fun plugin => plugin.name == name) =
      (plugins.find? fun plugin => plugin.name == name).map (Plugin.exchange f) := by
  rw [List.find?_map]
  have hsame : ((fun plugin : Plugin σ => plugin.name == name) ∘ Plugin.exchange f) =
      fun plugin => plugin.name == name := by
    funext plugin
    simp only [Function.comp_apply, Plugin.name, Plugin.exchange, hname]
  rw [hsame]

end Registry

end StorageDispatch
