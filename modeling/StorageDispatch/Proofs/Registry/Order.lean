import StorageDispatch.Registry.Basic
import Mathlib.Data.List.Nodup
import Mathlib.Tactic.Common

set_option autoImplicit false

/-! # The order of plugins

Plugins of different load orders are strictly ordered by `Plugin.Before`, so there is one way to sort
them (`sortPlugins_congr`), and it does not matter whether a part was sorted before
(`sortPlugins_append`).

A registry is `Ordered` if its plugins carry the load orders that were given out, each one once, and are
sorted. Enrolling backends keeps it so, whatever they are. It is `Ranked` if load orders that were given out
may be missing, as they are after a teardown.
-/

namespace StorageDispatch

variable {σ : Type}

namespace Plugin

/-- Whether one plugin stands before another: its priority is higher, or the same and it came first. -/
def Before (a b : Plugin σ) : Prop :=
  b.priority < a.priority ∨ (a.priority = b.priority ∧ a.loadOrder < b.loadOrder)

theorem Before.asymm {a b : Plugin σ} (hab : a.Before b) (hba : b.Before a) : False := by
  unfold Before at hab hba
  omega

theorem precedes_iff {a b : Plugin σ} :
    a.precedes b = true ↔
      b.priority < a.priority ∨ (a.priority = b.priority ∧ a.loadOrder ≤ b.loadOrder) := by
  simp only [precedes, Bool.or_eq_true, Bool.and_eq_true, decide_eq_true_eq]

theorem precedes_trans (a b c : Plugin σ) (hab : a.precedes b) (hbc : b.precedes c) :
    a.precedes c := by
  rw [precedes_iff] at *
  omega

theorem precedes_total (a b : Plugin σ) : a.precedes b || b.precedes a := by
  rw [Bool.or_eq_true, precedes_iff, precedes_iff]
  omega

end Plugin

/-! ## Sorting -/

theorem sortPlugins_perm (plugins : List (Plugin σ)) : (sortPlugins plugins).Perm plugins :=
  List.mergeSort_perm plugins _

/-- Sorted plugins of different load orders are strictly ordered. -/
theorem sortPlugins_before {plugins : List (Plugin σ)}
    (h : (plugins.map Plugin.loadOrder).Nodup) : (sortPlugins plugins).Pairwise Plugin.Before := by
  have hsorted : (sortPlugins plugins).Pairwise fun a b => a.precedes b :=
    List.pairwise_mergeSort Plugin.precedes_trans Plugin.precedes_total plugins
  have hnodup : ((sortPlugins plugins).map Plugin.loadOrder).Nodup :=
    ((sortPlugins_perm plugins).map _).nodup_iff.mpr h
  have hne : (sortPlugins plugins).Pairwise fun a b => a.loadOrder ≠ b.loadOrder :=
    List.pairwise_map.mp hnodup
  refine (hsorted.and hne).imp ?_
  rintro a b ⟨hle, hab⟩
  rw [Plugin.precedes_iff] at hle
  unfold Plugin.Before
  omega

/-- There is one way to sort plugins of different load orders. -/
theorem sortPlugins_congr {as bs : List (Plugin σ)} (hperm : as.Perm bs)
    (h : (as.map Plugin.loadOrder).Nodup) : sortPlugins as = sortPlugins bs := by
  have h' : (bs.map Plugin.loadOrder).Nodup := (hperm.map _).nodup_iff.mp h
  refine List.Perm.eq_of_pairwise (fun a b _ _ hab hba => (hab.asymm hba).elim)
    (sortPlugins_before h) (sortPlugins_before h') ?_
  exact (sortPlugins_perm as).trans (hperm.trans (sortPlugins_perm bs).symm)

/-- Sorting the first plugins before others join them changes nothing. -/
theorem sortPlugins_append {as bs : List (Plugin σ)}
    (h : ((as ++ bs).map Plugin.loadOrder).Nodup) :
    sortPlugins (sortPlugins as ++ bs) = sortPlugins (as ++ bs) := by
  have hperm : (as ++ bs).Perm (sortPlugins as ++ bs) := (sortPlugins_perm as).symm.append_right bs
  exact (sortPlugins_congr hperm h).symm

/-- Sorting plugins that are in order changes nothing. -/
theorem sortPlugins_of_before {plugins : List (Plugin σ)} (h : plugins.Pairwise Plugin.Before) :
    sortPlugins plugins = plugins := by
  refine List.mergeSort_of_pairwise (h.imp fun {a b} hab => ?_)
  rw [Plugin.precedes_iff]
  unfold Plugin.Before at hab
  omega

/-- Plugins can be left out before they are sorted as well as after. -/
theorem sortPlugins_filter (keep : Plugin σ → Bool) {plugins : List (Plugin σ)}
    (h : (plugins.map Plugin.loadOrder).Nodup) :
    sortPlugins (plugins.filter keep) = (sortPlugins plugins).filter keep := by
  have hkept : ((plugins.filter keep).map Plugin.loadOrder).Nodup :=
    h.sublist (List.filter_sublist.map Plugin.loadOrder)
  refine List.Perm.eq_of_pairwise (fun a b _ _ hab hba => (hab.asymm hba).elim)
    (sortPlugins_before hkept) ((sortPlugins_before h).filter keep) ?_
  exact (sortPlugins_perm _).trans ((sortPlugins_perm plugins).filter keep).symm

/-! ## Load orders -/

namespace Registry

/-- Backends as plugins, with load orders from a number on. -/
def numbered (first : Nat) (newcomers : List (Backend σ × PluginOrigin)) : List (Plugin σ) :=
  (newcomers.zipIdx first).map fun ((backend, origin), loadOrder) => { backend, loadOrder, origin }

theorem numbered_append (first : Nat) (as bs : List (Backend σ × PluginOrigin)) :
    numbered first (as ++ bs) = numbered first as ++ numbered (first + as.length) bs := by
  simp only [numbered, List.zipIdx_append, List.map_append]

theorem loadOrder_numbered (first : Nat) (newcomers : List (Backend σ × PluginOrigin)) :
    (numbered first newcomers).map Plugin.loadOrder = List.range' first newcomers.length := by
  rw [numbered, List.map_map]
  exact List.zipIdx_map_snd first newcomers

theorem backend_numbered (first : Nat) (newcomers : List (Backend σ × PluginOrigin)) :
    (numbered first newcomers).map Plugin.backend = newcomers.map Prod.fst := by
  have h := congrArg (List.map Prod.fst) (List.zipIdx_map_fst first newcomers)
  rw [List.map_map] at h
  rw [numbered, List.map_map]
  exact h

theorem loadOrder_of_mem_numbered {first : Nat} {newcomers : List (Backend σ × PluginOrigin)}
    {plugin : Plugin σ} (h : plugin ∈ numbered first newcomers) :
    first ≤ plugin.loadOrder ∧ plugin.loadOrder < first + newcomers.length := by
  have horder := List.mem_map_of_mem (f := Plugin.loadOrder) h
  rw [loadOrder_numbered] at horder
  exact List.mem_range'_1.mp horder

theorem plugins_enroll (registry : Registry σ) (newcomers : List (Backend σ × PluginOrigin)) :
    (registry.enroll newcomers).plugins =
      sortPlugins (registry.plugins ++ numbered registry.nextOrder newcomers) := rfl

theorem nextOrder_enroll (registry : Registry σ) (newcomers : List (Backend σ × PluginOrigin)) :
    (registry.enroll newcomers).nextOrder = registry.nextOrder + newcomers.length := rfl

/-- Enrolling backends lists their instances. -/
theorem ids_enroll (registry : Registry σ) (newcomers : List (Backend σ × PluginOrigin)) :
    ((registry.enroll newcomers).plugins.map Plugin.id).Perm
      (registry.plugins.map Plugin.id ++ newcomers.map fun newcomer => newcomer.1.id) := by
  have hids : (numbered registry.nextOrder newcomers).map Plugin.id =
      newcomers.map fun newcomer => newcomer.1.id := by
    have h := congrArg (List.map Backend.id) (backend_numbered registry.nextOrder newcomers)
    rw [List.map_map, List.map_map] at h
    exact h
  have hperm := (sortPlugins_perm (registry.plugins ++ numbered registry.nextOrder newcomers)).map Plugin.id
  rwa [List.map_append, hids] at hperm

/-- The plugins carry each load order that was given out once, and are sorted. -/
structure Ordered (registry : Registry σ) : Prop where
  orders : (registry.plugins.map Plugin.loadOrder).Perm (List.range registry.nextOrder)
  sorted : registry.plugins.Pairwise Plugin.Before

namespace Ordered

variable {registry : Registry σ}

theorem size_eq (h : registry.Ordered) : registry.size = registry.nextOrder := by
  have hlength := h.orders.length_eq
  rwa [List.length_map, List.length_range] at hlength

/-- The load orders of the plugins and of the ones that join them. -/
theorem orders_append (h : registry.Ordered) (newcomers : List (Backend σ × PluginOrigin)) :
    ((registry.plugins ++ numbered registry.nextOrder newcomers).map Plugin.loadOrder).Perm
      (List.range (registry.nextOrder + newcomers.length)) := by
  have hrange : List.range (registry.nextOrder + newcomers.length) =
      List.range registry.nextOrder ++ List.range' registry.nextOrder newcomers.length := by
    rw [List.range_eq_range', List.range_eq_range', List.range'_append_1.symm, Nat.zero_add]
  rw [List.map_append, loadOrder_numbered, hrange]
  exact h.orders.append_right _

theorem nodup_append (h : registry.Ordered) (newcomers : List (Backend σ × PluginOrigin)) :
    ((registry.plugins ++ numbered registry.nextOrder newcomers).map Plugin.loadOrder).Nodup :=
  (h.orders_append newcomers).nodup_iff.mpr List.nodup_range

/-- **Enrolling backends keeps a registry ordered.** -/
theorem enroll (h : registry.Ordered) (newcomers : List (Backend σ × PluginOrigin)) :
    (registry.enroll newcomers).Ordered where
  orders := ((sortPlugins_perm _).map _).trans (h.orders_append newcomers)
  sorted := sortPlugins_before (h.nodup_append newcomers)

end Ordered

/-- The plugins carry different load orders among those given out, and are sorted. That is so in every phase,
also after a teardown, which empties the list but takes no load order back. -/
structure Ranked (registry : Registry σ) : Prop where
  nodup : (registry.plugins.map Plugin.loadOrder).Nodup
  lt : ∀ plugin ∈ registry.plugins, plugin.loadOrder < registry.nextOrder
  sorted : registry.plugins.Pairwise Plugin.Before

theorem Ordered.ranked {registry : Registry σ} (h : registry.Ordered) : registry.Ranked where
  nodup := h.orders.nodup_iff.mpr List.nodup_range
  lt _ hmem := List.mem_range.mp (h.orders.subset (List.mem_map_of_mem hmem))
  sorted := h.sorted

namespace Ranked

variable {registry : Registry σ}

theorem of_eq {other : Registry σ} (h : registry.Ranked) (hplugins : other.plugins = registry.plugins)
    (hnext : other.nextOrder = registry.nextOrder) : other.Ranked := by
  refine ⟨?_, ?_, ?_⟩ <;> rw [hplugins]
  · exact h.nodup
  · rw [hnext]
    exact h.lt
  · exact h.sorted

theorem of_nil (h : registry.plugins = []) : registry.Ranked := by
  refine ⟨?_, ?_, ?_⟩ <;> rw [h]
  · exact List.nodup_nil
  · exact nofun
  · exact .nil

theorem nodup_append (h : registry.Ranked) (newcomers : List (Backend σ × PluginOrigin)) :
    ((registry.plugins ++ numbered registry.nextOrder newcomers).map Plugin.loadOrder).Nodup := by
  rw [List.map_append, loadOrder_numbered]
  refine List.nodup_append.mpr ⟨h.nodup, List.nodup_range', fun i hi j hj heq => ?_⟩
  obtain ⟨plugin, hplugin, rfl⟩ := List.mem_map.mp hi
  have hlt := h.lt plugin hplugin
  have hle := (List.mem_range'_1.mp hj).1
  omega

theorem enroll (h : registry.Ranked) (newcomers : List (Backend σ × PluginOrigin)) :
    (registry.enroll newcomers).Ranked where
  nodup := ((sortPlugins_perm _).map _).nodup_iff.mpr (h.nodup_append newcomers)
  lt plugin hmem := by
    rw [nextOrder_enroll]
    rcases List.mem_append.mp ((sortPlugins_perm _).mem_iff.mp hmem) with hold | hnew
    · exact Nat.lt_add_right _ (h.lt plugin hold)
    · exact (loadOrder_of_mem_numbered hnew).2
  sorted := sortPlugins_before (h.nodup_append newcomers)

end Ranked

end Registry

end StorageDispatch
