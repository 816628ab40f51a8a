import StorageDispatch.Proofs.Descriptor.Shape

set_option autoImplicit false

/-! # The entries of a descriptor table

A descriptor table is a partial map from keys, and `find?` is all that its users see of it. This module
says what the operations do to that map: an insertion adds one key (`find?_insert`), a removal takes one
away (`find?_remove`), and clearing takes all away (`find?_clear`). That works because a key is no more
than its slot and its generation (`DescriptorKey.eq_of_parts`).

An insertion succeeds if and only if the table has room (`insert_of_hasRoom`, `insert_of_full`).

A table of numbers is `Bounded` if they are all below a bound, which the operations keep so.
-/

namespace StorageDispatch.DescriptorTable

variable {α : Type} {table after : DescriptorTable α} {a b : α} {key : DescriptorKey}

/-- What finds an entry is a key of the slot where the entry is. -/
theorem slot_of_find? (h : table.find? key = some a) :
    ∃ i, key.index? = some i ∧ table.generationAt i = key.generation ∧ table.entryAt i = some a := by
  cases hi : key.index? with
  | none => simp [find?, hi] at h
  | some i =>
      rw [find?_eq table hi] at h
      by_cases hg : table.generationAt i = key.generation
      · rw [if_pos hg] at h
        exact ⟨i, rfl, hg, h⟩
      · rw [if_neg hg] at h
        cases h

/-- A key of a vacant slot finds nothing. -/
theorem find?_of_vacant {i : Nat} (hi : key.index? = some i) (h : table.entryAt i = none) :
    table.find? key = none := by
  rw [find?_eq table hi, h]
  exact ite_self none

/-- Tables that agree on a slot agree on its keys. -/
theorem find?_congr (h : ∀ i, key.index? = some i →
    after.entryAt i = table.entryAt i ∧ after.generationAt i = table.generationAt i) :
    after.find? key = table.find? key := by
  cases hi : key.index? with
  | none => simp [find?, hi]
  | some i =>
      obtain ⟨hentry, hgeneration⟩ := h i hi
      rw [find?_eq after hi, find?_eq table hi, hentry, hgeneration]

/-- A new table has no entries. -/
theorem find?_new (name : String) (limit : Nat) (key : DescriptorKey) :
    (new name limit : DescriptorTable α).find? key = none := by
  cases hi : key.index? with
  | none => simp [find?, hi]
  | some i => exact find?_of_vacant hi (entryAt_of_size_le (Nat.zero_le i))

/-! ## Insertion -/

/-- **An insertion adds one key**, which found nothing before. -/
theorem find?_insert (hw : table.WellFormed) (h : table.insert a = .ok (key, after)) (k : DescriptorKey) :
    after.find? k = if k = key then some a else table.find? k := by
  have hins := inserted_of_insert hw h
  by_cases hk : k = key
  · rw [if_pos hk, hk, find?_eq after hins.index?_key, hins.generationAt_eq, hins.generation_key,
      if_pos rfl, hins.entryAt_eq, if_pos rfl]
  · rw [if_neg hk]
    by_cases hslot : k.index? = some table.nextSlot
    · -- Another key of the slot that is filled is for another generation.
      have hgeneration : table.generationAt table.nextSlot ≠ k.generation := fun hg =>
        hk (DescriptorKey.eq_of_parts hslot hins.index?_key (hg.symm.trans hins.generation_key.symm))
      rw [find?_of_vacant hslot hins.vacant, find?_eq after hslot, hins.generationAt_eq,
        if_neg hgeneration]
    · refine find?_congr fun i hi => ⟨?_, hins.generationAt_eq i⟩
      have hne : i ≠ table.nextSlot := fun heq => hslot (hi.trans (congrArg some heq))
      rw [hins.entryAt_eq, if_neg hne]

theorem find?_key_of_insert (hw : table.WellFormed) (h : table.insert a = .ok (key, after)) :
    table.find? key = none := by
  have hins := inserted_of_insert hw h
  exact find?_of_vacant hins.index?_key hins.vacant

/-! ## Removal -/

/-- What is removed is what the key finds. -/
theorem remove_of_find? (h : table.find? key = some a) :
    ∃ after, table.remove key = .ok (a, after) := by
  obtain ⟨i, hi, -, -⟩ := slot_of_find? h
  exact ⟨table.release i, by rw [remove, h, hi]⟩

theorem find?_of_remove (h : table.remove key = .ok (a, after)) : table.find? key = some a := by
  obtain ⟨i, hi, hgeneration, hentry, -⟩ := release_of_remove h
  rw [find?_eq table hi, if_pos hgeneration, hentry]

/-- **A removal takes one key away.** -/
theorem find?_remove (h : table.remove key = .ok (a, after)) (k : DescriptorKey) :
    after.find? k = if k = key then none else table.find? k := by
  obtain ⟨i, hi, hgeneration, hentry, rfl⟩ := release_of_remove h
  have hreleased : (table.release i).entryAt i = none := by
    rw [entryAt_release hentry, if_pos rfl]
  by_cases hk : k = key
  · rw [if_pos hk, hk]
    exact find?_of_vacant hi hreleased
  · rw [if_neg hk]
    by_cases hslot : k.index? = some i
    · have hother : table.generationAt i ≠ k.generation := fun hg =>
        hk (DescriptorKey.eq_of_parts hslot hi (hg.symm.trans hgeneration))
      rw [find?_of_vacant hslot hreleased, find?_eq table hslot, if_neg hother]
    · refine find?_congr fun j hj => ?_
      have hne : j ≠ i := fun heq => hslot (hj.trans (congrArg some heq))
      rw [entryAt_release hentry, generationAt_release hentry, if_neg hne, if_neg hne]
      exact ⟨rfl, rfl⟩

theorem WellFormed.remove (hw : table.WellFormed) (h : table.remove key = .ok (a, after)) :
    after.WellFormed := by
  obtain ⟨i, -, -, hentry, rfl⟩ := release_of_remove h
  exact hw.release hentry

/-- **Clearing takes all keys away.** -/
theorem find?_clear (table : DescriptorTable α) (k : DescriptorKey) : table.clear.find? k = none := by
  cases hi : k.index? with
  | none => simp [find?, hi]
  | some i => exact find?_of_vacant hi (entryAt_clear table i)

/-! ## Room -/

def HasRoom (table : DescriptorTable α) : Prop := table.live < min table.limit DescriptorKey.slotCapacity

instance (table : DescriptorTable α) : Decidable table.HasRoom :=
  inferInstanceAs (Decidable (table.live < min table.limit DescriptorKey.slotCapacity))

/-- The slots are those that are occupied and those that are vacant. -/
theorem WellFormed.live_add_free (hw : table.WellFormed) :
    table.live + table.free.length = table.slots.size := by
  have hperm : (table.occupied ++ table.free).Perm (List.range table.slots.size) := by
    have hdisjoint : ∀ i ∈ table.occupied, ∀ j ∈ table.free, i ≠ j := by
      intro i hi j hj heq
      rw [mem_occupied, heq, ((hw.mem_free j).mp hj).2] at hi
      cases hi
    refine (List.perm_ext_iff_of_nodup (List.nodup_append.mpr ⟨table.occupied_nodup, hw.free_nodup, hdisjoint⟩)
      List.nodup_range).mpr fun i => ?_
    rw [List.mem_append, mem_occupied, hw.mem_free, List.mem_range]
    cases hentry : table.entryAt i with
    | none => simp
    | some a => simp [lt_size_of_entryAt hentry]
  have hlength := hperm.length_eq
  rw [List.length_append, List.length_range] at hlength
  rw [hw.live_eq, hlength]

/-- **With room, an insertion succeeds.** -/
theorem insert_of_hasRoom (hw : table.WellFormed) (hroom : table.HasRoom) (a : α) :
    ∃ key after, table.insert a = .ok (key, after) := by
  have hslots := hw.live_add_free
  have hbelow : table.live < min table.limit DescriptorKey.slotCapacity := hroom
  have hlimit : ¬ table.limit ≤ table.live := by omega
  unfold insert
  rw [if_neg hlimit]
  cases hfree : table.free with
  | cons i free => exact ⟨_, _, rfl⟩
  | nil =>
      rw [hfree, List.length_nil] at hslots
      have hsize : table.slots.size < DescriptorKey.slotCapacity := by omega
      rw [if_pos hsize]
      exact ⟨_, _, rfl⟩

/-- **Without room, an insertion fails**, and for want of room. -/
theorem insert_of_full (hw : table.WellFormed) (hfull : ¬ table.HasRoom) (a : α) :
    table.insert a = .error .tooManyOpenFiles := by
  have hslots := hw.live_add_free
  have hsize := hw.size_le
  have hbelow : ¬ table.live < min table.limit DescriptorKey.slotCapacity := hfull
  unfold insert
  by_cases hlimit : table.limit ≤ table.live
  · rw [if_pos hlimit]
  · rw [if_neg hlimit]
    cases hfree : table.free with
    | cons i free =>
        -- All slots that there can be are occupied, so none is vacant.
        rw [hfree, List.length_cons] at hslots
        omega
    | nil =>
        rw [hfree, List.length_nil] at hslots
        have hcapacity : ¬ table.slots.size < DescriptorKey.slotCapacity := by omega
        rw [if_neg hcapacity]

/-! ## Entries below a bound -/

structure Bounded (table : DescriptorTable Nat) (bound : Nat) : Prop where
  wellFormed : table.WellFormed
  lt : ∀ key n, table.find? key = some n → n < bound

namespace Bounded

variable {table after : DescriptorTable Nat} {bound n : Nat} {key : DescriptorKey}

theorem of_new (name : String) (limit bound : Nat) : (new name limit).Bounded bound where
  wellFormed := new_wellFormed name limit
  lt k m h := by
    rw [find?_new] at h
    cases h

theorem mono (h : table.Bounded bound) {greater : Nat} (hle : bound ≤ greater) : table.Bounded greater where
  wellFormed := h.wellFormed
  lt k m hm := Nat.lt_of_lt_of_le (h.lt k m hm) hle

theorem insert (h : table.Bounded bound) (hn : n < bound) (hinsert : table.insert n = .ok (key, after)) :
    after.Bounded bound where
  wellFormed := h.wellFormed.insert hinsert
  lt k m hm := by
    rw [find?_insert h.wellFormed hinsert] at hm
    split at hm
    · rwa [← Option.some.inj hm]
    · exact h.lt k m hm

theorem remove (h : table.Bounded bound) (hremove : table.remove key = .ok (n, after)) :
    after.Bounded bound where
  wellFormed := h.wellFormed.remove hremove
  lt k m hm := by
    rw [find?_remove hremove] at hm
    split at hm
    · cases hm
    · exact h.lt k m hm

theorem clear (h : table.Bounded bound) : table.clear.Bounded bound where
  wellFormed := h.wellFormed.clear
  lt k m hm := by
    rw [find?_clear] at hm
    cases hm

end Bounded

end StorageDispatch.DescriptorTable
