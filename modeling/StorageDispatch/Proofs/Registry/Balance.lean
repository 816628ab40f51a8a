import StorageDispatch.Proofs.Registry.Lifecycle

set_option autoImplicit false

/-! # The balance of backend instances

An instance that was handed over or made by a module is `standing` in the registry until its teardown is
called. A ledger is `Balanced` if the standing instances and the ones that were torn down are together
those that ever came in (`entered`), each one once. Every move of the registry keeps the balance; a
teardown moves all that stands, in order, to what was torn down (`teardowns_tearDown`).

The balance is stated with lists up to permutation, and proved by counting: for each instance the number
of entries on both sides is the same, and it is one at most.
-/

namespace StorageDispatch

variable {σ : Type}

namespace Ledger

/-- The instances in the registry whose teardown is still to come: the plugins that were not torn down,
and the queue. -/
def standing (l : Ledger σ) : List InstanceId :=
  (l.registry.plugins.map Plugin.id).filter (fun id => id ∉ l.registry.tornDown) ++
    l.registry.pending.map Backend.id

/-- The instances that came in: those handed over, and those made by modules. -/
def entered (l : Ledger σ) (arrivals : Nat) : List InstanceId :=
  (List.range arrivals).map .registered ++ l.accepted

/-- The standing instances and those torn down are the ones that came in, each one once. -/
structure Balanced (l : Ledger σ) (arrivals : Nat) : Prop where
  perm : (l.standing ++ l.teardowns).Perm (l.entered arrivals)
  accepted_nodup : l.accepted.Nodup
  mem_accepted : ∀ id ∈ l.accepted, ∃ k < l.registry.loads, id = .loaded k
  /-- The plugins that are marked as torn down were. -/
  mem_tornDown : ∀ id ∈ l.registry.tornDown, id ∈ l.teardowns

variable {l : Ledger σ} {arrivals : Nat}

theorem count_standing (l : Ledger σ) (id : InstanceId) :
    l.standing.count id =
      (if id ∈ l.registry.tornDown then 0 else (l.registry.plugins.map Plugin.id).count id) +
        (l.registry.pending.map Backend.id).count id := by
  rw [standing, List.count_append]
  split
  · rename_i h
    have hzero : ((l.registry.plugins.map Plugin.id).filter
        fun id => id ∉ l.registry.tornDown).count id = 0 := by
      rw [List.count_eq_zero, List.mem_filter]
      simp [h]
    rw [hzero]
  · rename_i h
    rw [List.count_filter (by simpa using h)]

namespace Balanced

theorem count_eq (h : l.Balanced arrivals) (id : InstanceId) :
    l.standing.count id + l.teardowns.count id = (l.entered arrivals).count id := by
  rw [← List.count_append]
  exact List.perm_iff_count.mp h.perm id

theorem entered_nodup (h : l.Balanced arrivals) : (l.entered arrivals).Nodup := by
  refine List.nodup_append.mpr ⟨?_, h.accepted_nodup, ?_⟩
  · exact List.nodup_range.map fun _ _ => InstanceId.registered.inj
  · rintro id hid id' hid' rfl
    obtain ⟨n, -, rfl⟩ := List.mem_map.mp hid
    obtain ⟨k, -, hk⟩ := h.mem_accepted _ hid'
    cases hk

theorem count_entered_le (h : l.Balanced arrivals) (id : InstanceId) :
    (l.entered arrivals).count id ≤ 1 := List.nodup_iff_count_le_one.mp h.entered_nodup id

/-- No instance was torn down twice. -/
theorem count_teardowns_le (h : l.Balanced arrivals) (id : InstanceId) :
    l.teardowns.count id ≤ 1 := by
  have hcount := h.count_eq id
  have hle := h.count_entered_le id
  omega

/-- Where nothing stands, everything that came in was torn down once. -/
theorem count_teardowns (h : l.Balanced arrivals) (hstanding : l.standing = []) {id : InstanceId}
    (hid : id ∈ l.entered arrivals) : l.teardowns.count id = 1 := by
  have hcount := h.count_eq id
  rw [hstanding, List.count_nil, List.count_eq_one_of_mem h.entered_nodup hid] at hcount
  omega

theorem count_teardowns_pos (h : l.Balanced arrivals) {id : InstanceId}
    (hid : id ∈ l.registry.tornDown) : 0 < l.teardowns.count id :=
  List.count_pos_iff.mpr (h.mem_tornDown id hid)

/-- The next number for an arrival is free. -/
theorem not_mem_entered_registered (h : l.Balanced arrivals) :
    .registered arrivals ∉ l.entered arrivals := by
  intro hmem
  rcases List.mem_append.mp hmem with hmem | hmem
  · obtain ⟨n, hn, heq⟩ := List.mem_map.mp hmem
    cases heq
    exact absurd (List.mem_range.mp hn) (Nat.lt_irrefl _)
  · obtain ⟨k, -, hk⟩ := h.mem_accepted _ hmem
    cases hk

/-- The instances of a scan are not among those that came in before. -/
theorem not_mem_entered_of_fresh (h : l.Balanced arrivals) {scan : Scan σ}
    (hfresh : scan.Fresh l.registry.loads) {id : InstanceId} (hid : id ∈ scan.ids) :
    id ∉ l.entered arrivals := by
  obtain ⟨k, hk, -, rfl⟩ := hfresh.mem_ids id hid
  intro hmem
  rcases List.mem_append.mp hmem with hmem | hmem
  · obtain ⟨n, -, heq⟩ := List.mem_map.mp hmem
    cases heq
  · obtain ⟨j, hj, heq⟩ := h.mem_accepted _ hmem
    cases heq
    omega

end Balanced

/-! ## Discovery -/

theorem count_ids_afterDiscovery (modules : List (LoadedModule σ)) (registry : Registry σ)
    (id : InstanceId) :
    ((Registry.afterDiscovery modules registry).plugins.map Plugin.id).count id =
      (registry.plugins.map Plugin.id).count id +
        (modules.map fun module => module.backend.id).count id +
          (registry.pending.map Backend.id).count id := by
  have hperm := registry.ids_enroll
    (modules.map (fun module => (module.backend, PluginOrigin.module module.path)) ++
      registry.pending.map fun backend => (backend, PluginOrigin.static))
  have hcount := List.perm_iff_count.mp hperm id
  rw [List.count_append, List.map_append, List.count_append, List.map_map, List.map_map] at hcount
  rw [Nat.add_assoc]
  exact hcount

/-- The instances of a scan that did not fail are plugins after it. -/
theorem ids_subset_settle (l : Ledger σ) (h : l.scan.failure = none) :
    l.scan.ids ⊆ (l.settle l.scan).registry.plugins.map Plugin.id := by
  intro id hid
  have hids := count_ids_afterDiscovery l.scan.modules (l.enterScan l.scan).registry id
  have hpos : 0 < (l.scan.modules.map fun module => module.backend.id).count id :=
    List.count_pos_iff.mpr hid
  rw [settle_of_ok l h]
  exact List.count_pos_iff.mp (by dsimp only; omega)

namespace Balanced

theorem accepted_enterScan (h : l.Balanced arrivals) {scan : Scan σ}
    (hfresh : scan.Fresh l.registry.loads) :
    (l.accepted ++ scan.ids).Nodup ∧
      ∀ id ∈ l.accepted ++ scan.ids, ∃ k < scan.loads, id = .loaded k := by
  refine ⟨List.nodup_append.mpr ⟨h.accepted_nodup, hfresh.nodup, ?_⟩, ?_⟩
  · rintro id hid id' hid' rfl
    exact h.not_mem_entered_of_fresh hfresh hid' (List.mem_append_right _ hid)
  · intro id hid
    rcases List.mem_append.mp hid with hid | hid
    · obtain ⟨k, hk, rfl⟩ := h.mem_accepted id hid
      exact ⟨k, Nat.lt_of_lt_of_le hk hfresh.le_loads, rfl⟩
    · obtain ⟨k, -, hk, rfl⟩ := hfresh.mem_ids id hid
      exact ⟨k, hk, rfl⟩

/-- The modules of a scan join the registry, and the queue becomes part of the list. -/
theorem settle_of_ok (h : l.Balanced arrivals) {scan : Scan σ}
    (hfresh : scan.Fresh l.registry.loads) (hfailure : scan.failure = none) :
    (l.settle scan).Balanced arrivals := by
  obtain ⟨hnodup, hmem⟩ := h.accepted_enterScan hfresh
  rw [l.settle_of_ok hfailure]
  have hteardowns : (l.enterScan scan).teardowns = l.teardowns := by
    simp [enterScan, enterScanAfter, hfailure]
  refine ⟨List.perm_iff_count.mpr fun id => ?_, hnodup, hmem, ?_⟩
  · have hcount := h.count_eq id
    have hle := h.count_entered_le id
    have hids := count_ids_afterDiscovery scan.modules (l.enterScan scan).registry id
    rw [count_standing, entered, List.count_append] at hcount
    rw [entered, List.count_append] at hle
    rw [List.count_append, count_standing, entered, List.count_append]
    dsimp only
    rw [hids, hteardowns]
    show (if id ∈ l.registry.tornDown then 0 else
        (l.registry.plugins.map Plugin.id).count id + scan.ids.count id +
          (l.registry.pending.map Backend.id).count id) + 0 + l.teardowns.count id =
      ((List.range arrivals).map InstanceId.registered).count id + (l.accepted ++ scan.ids).count id
    rw [List.count_append]
    by_cases htorn : id ∈ l.registry.tornDown
    · -- What was torn down before neither waits in the queue nor comes in again.
      have hpos := h.count_teardowns_pos htorn
      have hnew : scan.ids.count id = 0 := by
        refine List.count_eq_zero.mpr fun hid => h.not_mem_entered_of_fresh hfresh hid ?_
        exact h.perm.subset (List.mem_append_right _ (h.mem_tornDown id htorn))
      rw [if_pos htorn] at hcount ⊢
      omega
    · rw [if_neg htorn] at hcount ⊢
      omega
  · intro id hid
    dsimp only
    rw [hteardowns]
    exact h.mem_tornDown id hid

/-- The modules of a failed scan are torn down at once. -/
theorem settle_of_failure (h : l.Balanced arrivals) {scan : Scan σ}
    (hfresh : scan.Fresh l.registry.loads) {error : PluginError} (hfailure : scan.failure = some error) :
    (l.settle scan).Balanced arrivals := by
  obtain ⟨hnodup, hmem⟩ := h.accepted_enterScan hfresh
  rw [l.settle_of_failure hfailure]
  have hteardowns : (l.enterScan scan).teardowns = l.teardowns ++ scan.ids := by
    simp [enterScan, enterScanAfter, hfailure]
  refine ⟨?_, hnodup, hmem, ?_⟩
  · show (l.standing ++ (l.enterScan scan).teardowns).Perm
      ((List.range arrivals).map InstanceId.registered ++ (l.accepted ++ scan.ids))
    rw [hteardowns, ← List.append_assoc, ← List.append_assoc]
    exact h.perm.append_right _
  · intro id hid
    dsimp only
    rw [hteardowns]
    exact List.mem_append_left _ (h.mem_tornDown id hid)

/-- **A discovery keeps the balance.** -/
theorem discover (h : l.Balanced arrivals) : l.discover.Balanced arrivals := by
  by_cases hphase : l.registry.phase = .uninitialized
  · rw [discover_of_eq hphase]
    cases hfailure : l.scan.failure with
    | none => exact h.settle_of_ok l.scan_fresh hfailure
    | some error => exact h.settle_of_failure l.scan_fresh hfailure
  · rwa [discover_of_ne hphase]

theorem forget (h : l.Balanced arrivals) : l.forget.Balanced arrivals := by
  unfold Ledger.forget
  split
  · exact ⟨h.perm, h.accepted_nodup, h.mem_accepted, h.mem_tornDown⟩
  · exact h

/-! ## Registration -/

/-- A ledger in which one more instance stands or was torn down, and nothing else has changed. -/
theorem arrive (h : l.Balanced arrivals) {l' : Ledger σ} (haccepted : l'.accepted = l.accepted)
    (hloads : l'.registry.loads = l.registry.loads)
    (htornDown : l'.registry.tornDown = l.registry.tornDown) (hteardowns : l.teardowns ⊆ l'.teardowns)
    (hcount : ∀ id, l'.standing.count id + l'.teardowns.count id =
      l.standing.count id + l.teardowns.count id + [InstanceId.registered arrivals].count id) :
    l'.Balanced (arrivals + 1) := by
  refine ⟨List.perm_iff_count.mpr fun id => ?_, ?_, ?_, ?_⟩
  · rw [List.count_append, hcount, h.count_eq, entered, entered, haccepted, List.range_succ,
      List.map_append, List.count_append, List.count_append, List.count_append, List.map_singleton]
    omega
  · rw [haccepted]
    exact h.accepted_nodup
  · rw [haccepted, hloads]
    exact h.mem_accepted
  · rw [htornDown]
    exact fun id hid => hteardowns (h.mem_tornDown id hid)

/-- **Registration keeps the balance**: the backend waits, joins the list or is torn down. -/
theorem register (h : l.Balanced arrivals) {backend : Backend σ}
    (hid : backend.id = .registered arrivals) : (l.register backend).Balanced (arrivals + 1) := by
  have hqueued : ({ l with registry := { l.registry with
      pending := l.registry.pending ++ [backend] } } : Ledger σ).Balanced (arrivals + 1) := by
    refine h.arrive rfl rfl rfl (List.Subset.refl _) fun id => ?_
    rw [count_standing, count_standing, List.map_append, List.count_append, List.map_singleton, hid]
    dsimp only
    omega
  unfold Ledger.register
  split
  · -- Before a discovery has succeeded the backend waits in the queue.
    exact hqueued
  · exact hqueued
  · refine h.arrive rfl rfl rfl (List.subset_append_left _ _) fun id => ?_
    rw [List.count_append, hid]
    show l.standing.count id + _ = _
    omega
  · refine h.arrive rfl rfl rfl (List.Subset.refl _) fun id => ?_
    have hids := List.perm_iff_count.mp (l.registry.ids_enroll [(backend, .static)]) id
    rw [List.count_append, List.map_singleton, hid] at hids
    rw [count_standing, count_standing]
    show (if id ∈ l.registry.tornDown then 0 else
        ((l.registry.enroll [(backend, .static)]).plugins.map Plugin.id).count id) +
        (l.registry.pending.map Backend.id).count id + l.teardowns.count id = _
    rw [hids]
    by_cases htorn : id ∈ l.registry.tornDown
    · -- What was torn down before does not arrive.
      have hnew : [InstanceId.registered arrivals].count id = 0 := by
        refine List.count_eq_zero.mpr fun hmem => h.not_mem_entered_registered ?_
        rw [← List.mem_singleton.mp hmem]
        exact h.perm.subset (List.mem_append_right _ (h.mem_tornDown id htorn))
      rw [if_pos htorn, if_pos htorn, hnew]
      omega
    · rw [if_neg htorn, if_neg htorn]
      omega

/-! ## Teardown -/

/-- **Tearing a plugin of the registry down keeps the balance.** -/
theorem tearDownPlugin (h : l.Balanced arrivals) {plugin : Plugin σ}
    (hplugin : plugin.id ∈ l.registry.tornDown ∨ plugin.id ∈ l.registry.plugins.map Plugin.id) :
    (l.tearDownPlugin plugin).Balanced arrivals := by
  unfold Ledger.tearDownPlugin
  split
  · exact h
  · rename_i hup
    have hmem := hplugin.resolve_left hup
    refine ⟨List.perm_iff_count.mpr fun id => ?_, h.accepted_nodup, h.mem_accepted, ?_⟩
    · have hcount := h.count_eq id
      have hle := h.count_entered_le id
      rw [count_standing] at hcount
      rw [List.count_append, count_standing]
      show (if id ∈ plugin.id :: l.registry.tornDown then 0 else
          (l.registry.plugins.map Plugin.id).count id) + (l.registry.pending.map Backend.id).count id +
          (l.teardowns ++ [plugin.id]).count id = (l.entered arrivals).count id
      rw [List.count_append]
      by_cases heq : id = plugin.id
      · -- It stood once, and now it was torn down once.
        subst heq
        have hpos : 0 < (l.registry.plugins.map Plugin.id).count plugin.id :=
          List.count_pos_iff.mpr hmem
        rw [if_neg hup] at hcount
        rw [if_pos List.mem_cons_self, List.count_singleton_self]
        omega
      · have hother : [plugin.id].count id = 0 :=
          List.count_eq_zero.mpr fun hid => heq (List.mem_singleton.mp hid)
        rw [hother]
        simp only [List.mem_cons, heq, false_or]
        omega
    · intro id hid
      rcases List.mem_cons.mp hid with rfl | hid
      · exact List.mem_append_right _ (List.mem_singleton.mpr rfl)
      · exact List.mem_append_left _ (h.mem_tornDown id hid)

end Balanced

/-- Tearing plugins down one after the other calls the teardown of each that was still up. -/
theorem teardowns_foldl (plugins : List (Plugin σ)) (l : Ledger σ)
    (h : ((plugins.map Plugin.id).filter fun id => id ∉ l.registry.tornDown).Nodup) :
    (plugins.foldl tearDownPlugin l).teardowns =
      l.teardowns ++ (plugins.map Plugin.id).filter fun id => id ∉ l.registry.tornDown := by
  induction plugins generalizing l with
  | nil => simp
  | cons plugin plugins ih =>
      rw [List.foldl_cons]
      rw [List.map_cons] at h ⊢
      by_cases htorn : plugin.id ∈ l.registry.tornDown
      · have hskip : l.tearDownPlugin plugin = l := if_pos htorn
        have hfilter : (plugin.id :: plugins.map Plugin.id).filter (fun id => id ∉ l.registry.tornDown) =
            (plugins.map Plugin.id).filter fun id => id ∉ l.registry.tornDown :=
          List.filter_cons_of_neg (by simpa using htorn)
        rw [hfilter] at h ⊢
        rw [hskip]
        exact ih l h
      · have hdone : l.tearDownPlugin plugin = _ := if_neg htorn
        have hfilter : (plugin.id :: plugins.map Plugin.id).filter (fun id => id ∉ l.registry.tornDown) =
            plugin.id :: (plugins.map Plugin.id).filter fun id => id ∉ l.registry.tornDown :=
          List.filter_cons_of_pos (by simpa using htorn)
        rw [hfilter] at h ⊢
        obtain ⟨hnew, hrest⟩ := List.nodup_cons.mp h
        -- No plugin after this one is the same instance, so marking it changes nothing for them.
        have hsame : (plugins.map Plugin.id).filter (fun id => id ∉ plugin.id :: l.registry.tornDown) =
            (plugins.map Plugin.id).filter fun id => id ∉ l.registry.tornDown := by
          refine List.filter_congr fun id hid => ?_
          by_cases heq : id = plugin.id
          · subst heq
            exact absurd (List.mem_filter.mpr ⟨hid, by simpa using htorn⟩) hnew
          · simp [heq]
        rw [hdone, ih _ (by dsimp only; rwa [hsame])]
        dsimp only
        rw [hsame, List.append_assoc, List.singleton_append]

theorem prefix_tearDownPlugin (l : Ledger σ) (plugin : Plugin σ) :
    l.teardowns <+: (l.tearDownPlugin plugin).teardowns := by
  unfold tearDownPlugin
  split
  · exact List.prefix_refl _
  · exact List.prefix_append _ _

theorem mem_tornDown_foldl (plugins : List (Plugin σ)) (l : Ledger σ) (id : InstanceId) :
    id ∈ (plugins.foldl tearDownPlugin l).registry.tornDown ↔
      id ∈ plugins.map Plugin.id ∨ id ∈ l.registry.tornDown := by
  induction plugins generalizing l with
  | nil => simp
  | cons plugin plugins ih =>
      have hmem : id ∈ (l.tearDownPlugin plugin).registry.tornDown ↔
          id = plugin.id ∨ id ∈ l.registry.tornDown := by
        unfold tearDownPlugin
        split
        · rename_i h
          refine ⟨.inr, ?_⟩
          rintro (rfl | hid)
          · exact h
          · exact hid
        · exact List.mem_cons
      rw [List.foldl_cons, ih, hmem, List.map_cons, List.mem_cons]
      tauto

theorem accepted_foldl (plugins : List (Plugin σ)) (l : Ledger σ) :
    (plugins.foldl tearDownPlugin l).accepted = l.accepted := by
  induction plugins generalizing l with
  | nil => rfl
  | cons plugin plugins ih =>
      rw [List.foldl_cons, ih]
      unfold tearDownPlugin
      split <;> rfl

theorem standing_of_empty (hplugins : l.registry.plugins = []) (hpending : l.registry.pending = []) :
    l.standing = [] := by
  rw [standing, hplugins, hpending]
  rfl

/-- **Tearing everything down** calls the teardown of what stands, in order. -/
theorem teardowns_tearDown (h : l.Balanced arrivals) (hconsistent : l.registry.Consistent) :
    l.tearDown.teardowns = l.teardowns ++ l.standing := by
  have hnodup : (l.standing ++ l.teardowns).Nodup := h.perm.nodup_iff.mpr h.entered_nodup
  unfold tearDown
  split
  · rename_i hdown
    obtain ⟨hplugins, hpending⟩ := hconsistent.empty_of_tornDown hdown.1
    rw [standing_of_empty hplugins hpending, List.append_nil]
  · dsimp only
    rw [teardowns_foldl, standing, List.append_assoc]
    · rfl
    · exact (List.nodup_append.mp (List.nodup_append.mp hnodup).1).1

theorem mem_tornDown_iff (hconsistent : l.registry.Consistent) (id : InstanceId) :
    id ∈ l.tearDown.registry.tornDown ↔
      id ∈ l.registry.plugins.map Plugin.id ∨ id ∈ l.registry.tornDown := by
  unfold tearDown
  split
  · rename_i hdown
    rw [(hconsistent.empty_of_tornDown hdown.1).1]
    simp
  · exact mem_tornDown_foldl _ _ _

theorem accepted_tearDown (l : Ledger σ) :
    l.tearDown.accepted = l.accepted ∧ l.tearDown.registry.loads = l.registry.loads := by
  unfold tearDown
  split
  · exact ⟨rfl, rfl⟩
  · dsimp only
    rw [accepted_foldl, registry_foldl_tearDownPlugin]
    exact ⟨rfl, rfl⟩

/-- **Tearing everything down keeps the balance**, and leaves nothing standing. -/
theorem Balanced.tearDown (h : l.Balanced arrivals) (hconsistent : l.registry.Consistent) :
    l.tearDown.Balanced arrivals ∧ l.tearDown.standing = [] := by
  obtain ⟨-, hplugins, hpending⟩ := registry_tearDown hconsistent
  obtain ⟨haccepted, hloads⟩ := accepted_tearDown l
  have hstanding := standing_of_empty hplugins hpending
  have hteardowns := teardowns_tearDown h hconsistent
  refine ⟨⟨?_, ?_, ?_, ?_⟩, hstanding⟩
  · rw [hstanding, hteardowns, entered, haccepted, List.nil_append]
    exact List.perm_append_comm.trans h.perm
  · rw [haccepted]
    exact h.accepted_nodup
  · rw [haccepted, hloads]
    exact h.mem_accepted
  · intro id hid
    rw [hteardowns]
    by_cases htorn : id ∈ l.registry.tornDown
    · exact List.mem_append_left _ (h.mem_tornDown id htorn)
    · have hplugin := ((mem_tornDown_iff hconsistent id).mp hid).resolve_right htorn
      refine List.mem_append_right _ (List.mem_append_left _ ?_)
      exact List.mem_filter.mpr ⟨hplugin, by simpa using htorn⟩

/-! ## Instances that the registry knows -/

/-- An instance is known if it is in the list of plugins, or was there and torn down. -/
def Knows (l : Ledger σ) (id : InstanceId) : Prop :=
  id ∈ l.registry.tornDown ∨ id ∈ l.registry.plugins.map Plugin.id

variable {id : InstanceId}

theorem Knows.enroll (h : l.Knows id) (newcomers : List (Backend σ × PluginOrigin)) :
    id ∈ l.registry.tornDown ∨ id ∈ (l.registry.enroll newcomers).plugins.map Plugin.id :=
  h.imp_right fun hid => (l.registry.ids_enroll newcomers).symm.subset (List.mem_append_left _ hid)

theorem Knows.discover (h : l.Knows id) : l.discover.Knows id := by
  by_cases hphase : l.registry.phase = .uninitialized
  · rw [discover_of_eq hphase]
    cases hfailure : l.scan.failure with
    | none =>
        rw [settle_of_ok l hfailure]
        exact Knows.enroll (l := l.enterScan l.scan) h _
    | some error =>
        rw [settle_of_failure l hfailure]
        exact h
  · rwa [discover_of_ne hphase]

theorem Knows.forget (h : l.Knows id) : l.forget.Knows id := by
  unfold Ledger.forget
  split <;> exact h

theorem Knows.register (h : l.Knows id) (backend : Backend σ) : (l.register backend).Knows id := by
  unfold Ledger.register
  split
  · exact h
  · exact h
  · exact h
  · exact h.enroll _

theorem Knows.tearDownPlugin (h : l.Knows id) (plugin : Plugin σ) :
    (l.tearDownPlugin plugin).Knows id := by
  unfold Ledger.tearDownPlugin
  split
  · exact h
  · exact h.imp_left (List.mem_cons_of_mem _)

theorem Knows.tearDown (h : l.Knows id) (hconsistent : l.registry.Consistent) :
    l.tearDown.Knows id := .inl ((mem_tornDown_iff hconsistent id).mpr h.symm)

end Ledger

end StorageDispatch
