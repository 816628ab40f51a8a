import Mathlib.Data.List.Nodup
import Mathlib.Tactic.Common
import StorageDispatch.Descriptor.Table

set_option autoImplicit false

/-! # The shape of descriptor tables

A descriptor table keeps three views of the same thing: the slots, the stack of vacant slots, and the
number of live entries. `WellFormed` says that they agree, and every operation keeps it
(`WellFormed.insert`, `WellFormed.release`, `WellFormed.clear`).

What an operation does to a slot is said through `entryAt` and `generationAt` alone: an insertion fills
the slot `nextSlot` and leaves all generations as they are, and only a release moves a generation.
-/

namespace StorageDispatch.DescriptorTable

variable {α : Type}

def new (name : String) (limit : Nat) : DescriptorTable α := { name, limit }

def entryAt (table : DescriptorTable α) (i : Nat) : Option α :=
  match table.slots[i]? with
  | some slot => slot.entry
  | none => none

def nextSlot (table : DescriptorTable α) : Nat := table.free.headD table.slots.size

/-- **The representation invariant**: the stack has each vacant slot once, and the count is that of the
occupied slots. -/
structure WellFormed (table : DescriptorTable α) : Prop where
  free_nodup : table.free.Nodup
  mem_free : ∀ i, i ∈ table.free ↔ i < table.slots.size ∧ table.entryAt i = none
  live_eq : table.live = table.occupied.length
  size_le : table.slots.size ≤ DescriptorKey.slotCapacity

/-! ## Slots -/

theorem entryAt_of_size_le {table : DescriptorTable α} {i : Nat} (h : table.slots.size ≤ i) :
    table.entryAt i = none := by
  simp [entryAt, Array.getElem?_eq_none h]

theorem lt_size_of_entryAt {table : DescriptorTable α} {i : Nat} {a : α}
    (h : table.entryAt i = some a) : i < table.slots.size := by
  by_contra hi
  rw [entryAt_of_size_le (by omega)] at h
  exact absurd h (by simp)

theorem mem_occupied {table : DescriptorTable α} {i : Nat} :
    i ∈ table.occupied ↔ (table.entryAt i).isSome := by
  simp only [occupied, List.mem_filter, List.mem_range, entryAt]
  by_cases hi : i < table.slots.size
  · simp [hi]
  · simp [hi]

theorem occupied_nodup (table : DescriptorTable α) : table.occupied.Nodup :=
  List.nodup_range.filter _

/-- The entry that a key finds, by its two parts. -/
theorem find?_eq (table : DescriptorTable α) {key : DescriptorKey} {i : Nat}
    (hi : key.index? = some i) :
    table.find? key = if table.generationAt i = key.generation then table.entryAt i else none := by
  have hf : table.find? key = table.slots[i]?.bind fun slot =>
      if slot.generation = key.generation then slot.entry else none := by
    unfold find?
    rw [hi]
    rfl
  rw [hf, generationAt, entryAt]
  cases table.slots[i]? with
  | none => simp
  | some slot => rfl

/-! ## A new table -/

theorem new_wellFormed (name : String) (limit : Nat) :
    (new name limit : DescriptorTable α).WellFormed where
  free_nodup := List.nodup_nil
  mem_free i := by simp [new]
  live_eq := rfl
  size_le := Nat.zero_le _

/-! ## Insertion -/

theorem nextSlot_of_free {table : DescriptorTable α} {i : Nat} {free : List Nat}
    (h : table.free = i :: free) : table.nextSlot = i := by
  simp [nextSlot, h]

theorem nextSlot_of_full {table : DescriptorTable α} (h : table.free = []) :
    table.nextSlot = table.slots.size := by
  simp [nextSlot, h]

/-- What a successful insertion does: it fills `nextSlot` and hands out the key of that slot. -/
structure Inserted (table : DescriptorTable α) (a : α) (key : DescriptorKey)
    (after : DescriptorTable α) : Prop where
  nextSlot_lt : table.nextSlot < DescriptorKey.slotCapacity
  vacant : table.entryAt table.nextSlot = none
  key_eq : key = .pack table.nextSlot.toUInt32 (table.generationAt table.nextSlot)
  entryAt_eq : ∀ j, after.entryAt j = if j = table.nextSlot then some a else table.entryAt j
  generationAt_eq : ∀ j, after.generationAt j = table.generationAt j
  free_eq : after.free = table.free.tail
  size_eq : after.slots.size = max table.slots.size (table.nextSlot + 1)
  live_eq : after.live = table.live + 1

theorem inserted_of_free {table : DescriptorTable α} (hw : table.WellFormed) {i : Nat}
    {free : List Nat} (hf : table.free = i :: free) (a : α) :
    table.Inserted a (.pack i.toUInt32 (table.generationAt i))
      { table with slots := table.slots.modify i (·.occupy a), free, live := table.live + 1 } := by
  have hn := nextSlot_of_free hf
  obtain ⟨hlt, hvacant⟩ := (hw.mem_free i).mp (by simp [hf])
  have hsize := hw.size_le
  refine ⟨by omega, by rw [hn]; exact hvacant, by rw [hn], fun j => ?_, fun j => ?_, by simp [hf],
    ?_, rfl⟩
  · by_cases hj : j = i
    · subst hj
      simp [entryAt, hn, Array.getElem?_modify, Array.getElem?_eq_getElem hlt, Slot.occupy]
    · simp [entryAt, hn, Array.getElem?_modify, Ne.symm hj, hj]
  · by_cases hj : j = i
    · subst hj
      simp [generationAt, Array.getElem?_modify, Array.getElem?_eq_getElem hlt, Slot.occupy]
    · simp [generationAt, Array.getElem?_modify, Ne.symm hj]
  · simp only [Array.size_modify, hn]
    omega

theorem inserted_of_full {table : DescriptorTable α} (hf : table.free = [])
    (hsize : table.slots.size < DescriptorKey.slotCapacity) (a : α) :
    table.Inserted a (.pack table.slots.size.toUInt32 0)
      { table with slots := table.slots.push { entry := some a }, live := table.live + 1 } := by
  have hn := nextSlot_of_full hf
  have hgen : table.generationAt table.slots.size = 0 := by simp [generationAt]
  refine ⟨by omega, by rw [hn]; exact entryAt_of_size_le (Nat.le_refl _), by rw [hn, hgen],
    fun j => ?_, fun j => ?_, by simp [hf], ?_, rfl⟩
  · by_cases hj : j = table.slots.size
    · simp [entryAt, hn, hj]
    · simp [entryAt, hn, hj, Array.getElem?_push]
  · by_cases hj : j = table.slots.size
    · simp [generationAt, hj]
    · simp [generationAt, hj, Array.getElem?_push]
  · simp only [Array.size_push, hn]
    omega

/-- An insertion that succeeds fills a vacant slot, the last one released or else a new one. -/
theorem inserted_of_insert {table after : DescriptorTable α} (hw : table.WellFormed) {a : α}
    {key : DescriptorKey} (h : table.insert a = .ok (key, after)) : table.Inserted a key after := by
  unfold insert at h
  by_cases hfull : table.limit ≤ table.live
  · simp [hfull] at h
  · rw [if_neg hfull] at h
    cases hf : table.free with
    | cons i free =>
        simp only [hf, Except.ok.injEq, Prod.mk.injEq] at h
        obtain ⟨rfl, rfl⟩ := h
        exact inserted_of_free hw hf a
    | nil =>
        by_cases hsize : table.slots.size < DescriptorKey.slotCapacity
        · simp only [hf, hsize, ↓reduceIte, Except.ok.injEq, Prod.mk.injEq] at h
          obtain ⟨rfl, rfl⟩ := h
          simpa only [hf] using inserted_of_full hf hsize a
        · simp [hf, hsize] at h

theorem insert_fields {table after : DescriptorTable α} {a : α} {key : DescriptorKey}
    (h : table.insert a = .ok (key, after)) : after.name = table.name ∧ after.limit = table.limit := by
  unfold insert at h
  by_cases hlimit : table.limit ≤ table.live
  · simp [hlimit] at h
  · rw [if_neg hlimit] at h
    cases hfree : table.free with
    | cons i free =>
        simp only [hfree, Except.ok.injEq, Prod.mk.injEq] at h
        rw [← h.2]
        exact ⟨rfl, rfl⟩
    | nil =>
        by_cases hsize : table.slots.size < DescriptorKey.slotCapacity
        · simp only [hfree, hsize, ↓reduceIte, Except.ok.injEq, Prod.mk.injEq] at h
          rw [← h.2]
          exact ⟨rfl, rfl⟩
        · simp [hfree, hsize] at h

theorem Inserted.mem_occupied {table after : DescriptorTable α} {a : α} {key : DescriptorKey}
    (h : table.Inserted a key after) (j : Nat) :
    j ∈ after.occupied ↔ j ∈ table.nextSlot :: table.occupied := by
  rw [DescriptorTable.mem_occupied, List.mem_cons, DescriptorTable.mem_occupied, h.entryAt_eq]
  by_cases hj : j = table.nextSlot <;> simp [hj]

theorem Inserted.occupied_perm {table after : DescriptorTable α} {a : α} {key : DescriptorKey}
    (h : table.Inserted a key after) : after.occupied.Perm (table.nextSlot :: table.occupied) := by
  have hnot : table.nextSlot ∉ table.occupied := by
    rw [DescriptorTable.mem_occupied, h.vacant]
    simp
  exact (List.perm_ext_iff_of_nodup after.occupied_nodup
    (List.nodup_cons.mpr ⟨hnot, table.occupied_nodup⟩)).mpr h.mem_occupied

theorem Inserted.toNat_nextSlot {table after : DescriptorTable α} {a : α} {key : DescriptorKey}
    (h : table.Inserted a key after) : table.nextSlot.toUInt32.toNat = table.nextSlot :=
  DescriptorKey.toNat_slot h.nextSlot_lt

theorem Inserted.index?_key {table after : DescriptorTable α} {a : α} {key : DescriptorKey}
    (h : table.Inserted a key after) : key.index? = some table.nextSlot := by
  have hnat := h.toNat_nextSlot
  rw [h.key_eq, DescriptorKey.index?_pack (by rw [hnat]; exact h.nextSlot_lt), hnat]

theorem Inserted.generation_key {table after : DescriptorTable α} {a : α} {key : DescriptorKey}
    (h : table.Inserted a key after) : key.generation = table.generationAt table.nextSlot := by
  rw [h.key_eq, DescriptorKey.generation_pack (by rw [h.toNat_nextSlot]; exact h.nextSlot_lt)]

/-- The vacant slots after an insertion are those before it, less the one that was filled. -/
theorem WellFormed.mem_tail_free {table : DescriptorTable α} (hw : table.WellFormed) (j : Nat) :
    j ∈ table.free.tail ↔ j ∈ table.free ∧ j ≠ table.nextSlot := by
  have hnodup := hw.free_nodup
  cases hf : table.free with
  | nil => simp
  | cons i free =>
      rw [hf, List.nodup_cons] at hnodup
      rw [nextSlot_of_free hf, List.tail_cons, List.mem_cons]
      constructor
      · intro hj
        exact ⟨Or.inr hj, fun he => hnodup.1 (he ▸ hj)⟩
      · rintro ⟨rfl | hj, hne⟩
        · exact absurd rfl hne
        · exact hj

theorem WellFormed.nextSlot_le {table : DescriptorTable α} (hw : table.WellFormed) :
    table.nextSlot ≤ table.slots.size := by
  cases hf : table.free with
  | nil => exact Nat.le_of_eq (nextSlot_of_full hf)
  | cons i free =>
      rw [nextSlot_of_free hf]
      exact Nat.le_of_lt ((hw.mem_free i).mp (by simp [hf])).1

theorem WellFormed.insert {table after : DescriptorTable α} (hw : table.WellFormed) {a : α}
    {key : DescriptorKey} (h : table.insert a = .ok (key, after)) : after.WellFormed := by
  have hins := inserted_of_insert hw h
  have hle := hw.nextSlot_le
  have hlt := hins.nextSlot_lt
  have hsize := hw.size_le
  refine ⟨?_, fun j => ?_, ?_, ?_⟩
  · rw [hins.free_eq]
    exact hw.free_nodup.tail
  · rw [hins.free_eq, hw.mem_tail_free, hw.mem_free, hins.entryAt_eq, hins.size_eq]
    by_cases hj : j = table.nextSlot
    · simp [hj]
    · simp only [hj, not_false_eq_true, and_true, ↓reduceIte, ne_eq, and_congr_left_iff]
      intro _
      omega
  · rw [hins.live_eq, hins.occupied_perm.length_eq, hw.live_eq, List.length_cons]
  · rw [hins.size_eq]
    omega

/-! ## Release -/

theorem entryAt_release {table : DescriptorTable α} {i : Nat} {a : α}
    (h : table.entryAt i = some a) (j : Nat) :
    (table.release i).entryAt j = if j = i then none else table.entryAt j := by
  have hlt := lt_size_of_entryAt h
  by_cases hj : j = i
  · subst hj
    rw [entryAt, Array.getElem?_eq_getElem hlt] at h
    simp only at h
    simp [entryAt, release, Array.getElem?_modify, Array.getElem?_eq_getElem hlt, Slot.vacate, h]
  · simp [entryAt, release, Array.getElem?_modify, Ne.symm hj, hj]

theorem generationAt_release {table : DescriptorTable α} {i : Nat} {a : α}
    (h : table.entryAt i = some a) (j : Nat) :
    (table.release i).generationAt j =
      if j = i then table.generationAt j + 1 else table.generationAt j := by
  have hlt := lt_size_of_entryAt h
  by_cases hj : j = i
  · subst hj
    rw [entryAt, Array.getElem?_eq_getElem hlt] at h
    simp only at h
    simp [generationAt, release, Array.getElem?_modify, Array.getElem?_eq_getElem hlt, Slot.vacate, h]
  · simp [generationAt, release, Array.getElem?_modify, Ne.symm hj, hj]

theorem occupied_release_perm {table : DescriptorTable α} {i : Nat} {a : α}
    (h : table.entryAt i = some a) : table.occupied.Perm (i :: (table.release i).occupied) := by
  have hnot : i ∉ (table.release i).occupied := by
    rw [mem_occupied, entryAt_release h]
    simp
  refine (List.perm_ext_iff_of_nodup table.occupied_nodup
    (List.nodup_cons.mpr ⟨hnot, (table.release i).occupied_nodup⟩)).mpr fun j => ?_
  rw [List.mem_cons, mem_occupied, mem_occupied, entryAt_release h]
  by_cases hj : j = i <;> simp [hj, h]

theorem WellFormed.release {table : DescriptorTable α} (hw : table.WellFormed) {i : Nat} {a : α}
    (h : table.entryAt i = some a) : (table.release i).WellFormed := by
  have hnot : i ∉ table.free := fun hi => by
    rw [((hw.mem_free i).mp hi).2] at h
    exact absurd h (by simp)
  have hlt := lt_size_of_entryAt h
  have hsize : (table.release i).slots.size = table.slots.size := by
    simp [DescriptorTable.release]
  refine ⟨List.nodup_cons.mpr ⟨hnot, hw.free_nodup⟩, fun j => ?_, ?_, by rw [hsize]; exact hw.size_le⟩
  · show j ∈ i :: table.free ↔ _
    rw [List.mem_cons, hw.mem_free, entryAt_release h, hsize]
    by_cases hj : j = i <;> simp [hj, hlt]
  · have hlen := (occupied_release_perm h).length_eq
    rw [List.length_cons] at hlen
    show table.live - 1 = _
    rw [hw.live_eq, hlen]
    omega

/-- A removal that succeeds releases the slot that its key names. -/
theorem release_of_remove {table after : DescriptorTable α} {key : DescriptorKey} {a : α}
    (h : table.remove key = .ok (a, after)) :
    ∃ i, key.index? = some i ∧ table.generationAt i = key.generation ∧ table.entryAt i = some a ∧
      after = table.release i := by
  unfold remove at h
  cases hi : key.index? with
  | none => simp [find?, hi] at h
  | some i =>
      rw [find?_eq table hi, hi] at h
      by_cases hg : table.generationAt i = key.generation
      · rw [if_pos hg] at h
        cases he : table.entryAt i with
        | none => simp [he] at h
        | some b =>
            simp only [he, Except.ok.injEq, Prod.mk.injEq] at h
            obtain ⟨rfl, rfl⟩ := h
            exact ⟨i, rfl, hg, he, rfl⟩
      · simp [hg] at h

/-! ## Clearing -/

theorem entryAt_clear (table : DescriptorTable α) (j : Nat) : table.clear.entryAt j = none := by
  rw [entryAt, clear, Array.getElem?_map]
  cases table.slots[j]? with
  | none => rfl
  | some slot =>
      simp only [Option.map_some, Slot.vacate]
      cases he : slot.entry <;> simp [he]

theorem occupied_clear (table : DescriptorTable α) : table.clear.occupied = [] := by
  refine List.eq_nil_iff_forall_not_mem.mpr fun j hj => ?_
  rw [mem_occupied, entryAt_clear] at hj
  exact absurd hj (by simp)

theorem WellFormed.clear {table : DescriptorTable α} (hw : table.WellFormed) :
    table.clear.WellFormed := by
  have hsize : table.clear.slots.size = table.slots.size := by simp [DescriptorTable.clear]
  refine ⟨?_, fun j => ?_, by rw [occupied_clear]; rfl, by rw [hsize]; exact hw.size_le⟩
  · show (table.occupied.reverse ++ table.free).Nodup
    refine List.nodup_append.mpr
      ⟨List.nodup_reverse.mpr table.occupied_nodup, hw.free_nodup, fun i hi j hj he => ?_⟩
    subst he
    rw [List.mem_reverse, mem_occupied, ((hw.mem_free i).mp hj).2] at hi
    exact absurd hi (by simp)
  · show j ∈ table.occupied.reverse ++ table.free ↔ _
    rw [List.mem_append, List.mem_reverse, mem_occupied, hw.mem_free, entryAt_clear, hsize]
    cases he : table.entryAt j with
    | none => simp
    | some a => simp [lt_size_of_entryAt he]

end StorageDispatch.DescriptorTable
