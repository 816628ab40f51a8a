import StorageDispatch.Descriptor.Bulk
import StorageDispatch.Proofs.Descriptor.Entries
import StorageDispatch.Proofs.Descriptor.Run

set_option autoImplicit false

/-! # How many slots a table has

A slot is added only when none is vacant, and none is ever given up. So a table has as many slots as it has had live
entries at once (`size_run`), which `peak` follows through a run. A table that keeps to its limit (`WithinLimit`)
is full when it is at it, or when keys can tell no more slots apart.

Before an operation changes a slot it has made sure that the slot is there (`grounded`).

**The result** is `slots_accounted`, what the slots, the stack of the vacant ones and the count have to do with each
other in every table that operations lead to.
-/

namespace StorageDispatch.DescriptorTable

variable {α : Type} {table : DescriptorTable α}

/-! ## The greatest number of live entries -/

/-- The most entries that are live at once in the course of some operations. -/
def peak : List (Op α) → DescriptorTable α → Nat
  | [], table => table.live
  | op :: ops, table => max table.live (peak ops (op.serve table).2)

theorem live_le_peak (ops : List (Op α)) (table : DescriptorTable α) : table.live ≤ peak ops table := by
  cases ops with
  | nil => exact Nat.le_refl _
  | cons op ops => exact Nat.le_max_left _ _

theorem WellFormed.live_le_size (hw : table.WellFormed) : table.live ≤ table.slots.size := by
  have hslots := hw.live_add_free
  omega

/-- One operation adds a slot only if there are as many live entries then. -/
theorem size_serve (hw : table.WellFormed) (op : Op α) :
    (op.serve table).2.slots.size = max table.slots.size (op.serve table).2.live := by
  have hlive := hw.live_le_size
  have he := effect_serve op table
  generalize (op.serve table).2 = after at he ⊢
  generalize op.released table = freed at he
  cases he with
  | inserted h =>
      have hins := inserted_of_insert hw h
      have hslots := hw.live_add_free
      rw [hins.size_eq, hins.live_eq]
      cases hfree : table.free with
      | nil =>
          rw [hfree, List.length_nil] at hslots
          rw [nextSlot_of_full hfree]
          omega
      | cons i free =>
          -- The slot is one that was vacant.
          have hlt : i < table.slots.size := ((hw.mem_free i).mp (by simp [hfree])).1
          rw [hfree, List.length_cons] at hslots
          rw [nextSlot_of_free hfree]
          omega
  | @released _ i _ _ _ =>
      have hsize : (table.release i).slots.size = table.slots.size := Array.size_modify
      have hless : (table.release i).live = table.live - 1 := rfl
      rw [hsize, hless]
      omega
  | cleared =>
      have hsize : table.clear.slots.size = table.slots.size := Array.size_map
      have hnone : table.clear.live = 0 := rfl
      rw [hsize, hnone]
      omega
  | unchanged => omega

/-- **A run has as many slots as it has had live entries**, or as there were to begin with. -/
theorem size_run (hw : table.WellFormed) (ops : List (Op α)) :
    (run ops table).slots.size = max table.slots.size (peak ops table) := by
  induction ops generalizing table with
  | nil => exact (Nat.max_eq_left hw.live_le_size).symm
  | cons op ops ih =>
      -- What is live after the first operation is counted by the peak of the others.
      have hlive := hw.live_le_size
      have hpeak := live_le_peak ops (op.serve table).2
      rw [run, ih (hw.serve op), size_serve hw op, peak]
      omega

/-! ## The limit -/

structure WithinLimit (table : DescriptorTable α) (limit : Nat) : Prop where
  limit_eq : table.limit = limit
  live_le : table.live ≤ limit

theorem WithinLimit.serve {limit : Nat} (h : table.WithinLimit limit) (hw : table.WellFormed) (op : Op α) :
    (op.serve table).2.WithinLimit limit := by
  have he := effect_serve op table
  generalize (op.serve table).2 = after at he ⊢
  generalize op.released table = freed at he
  cases he with
  | @inserted a key after hinsert =>
      have hroom : table.HasRoom := by
        by_contra hfull
        rw [insert_of_full hw hfull] at hinsert
        cases hinsert
      have hbelow : table.live < min table.limit DescriptorKey.slotCapacity := hroom
      have hlimit := h.limit_eq
      refine ⟨(insert_fields hinsert).2.trans h.limit_eq, ?_⟩
      rw [(inserted_of_insert hw hinsert).live_eq]
      omega
  | released => exact ⟨h.limit_eq, Nat.le_trans (Nat.sub_le _ _) h.live_le⟩
  | cleared => exact ⟨h.limit_eq, Nat.zero_le _⟩
  | unchanged => exact h

theorem WithinLimit.run {limit : Nat} (h : table.WithinLimit limit) (hw : table.WellFormed) (ops : List (Op α)) :
    (run ops table).WithinLimit limit := by
  induction ops generalizing table with
  | nil => exact h
  | cons op ops ih => exact ih (h.serve hw op) (hw.serve op)

/-- Within its limit a table is full just when it has as many entries as it can have. -/
theorem WithinLimit.hasRoom_iff {limit : Nat} (h : table.WithinLimit limit) (hw : table.WellFormed) :
    table.HasRoom ↔ table.live ≠ min limit DescriptorKey.slotCapacity := by
  have hlive := h.live_le
  have hsize := Nat.le_trans hw.live_le_size hw.size_le
  rw [HasRoom, h.limit_eq]
  omega

/-- **A table takes entries one after the other for as long as it has room.** If there is room for all of them, each
gets a key; otherwise the table is filled up, and it is told that it is full. -/
theorem insertMany_eq {limit : Nat} (h : table.WithinLimit limit) (hw : table.WellFormed) (a : α) (count : Nat) :
    (table.live + count ≤ min limit DescriptorKey.slotCapacity → ∃ keys after,
      table.insertMany a count = (.ok keys, after) ∧ keys.length = count ∧ after.live = table.live + count) ∧
    (min limit DescriptorKey.slotCapacity < table.live + count → ∃ after,
      table.insertMany a count = (.error .tooManyOpenFiles, after) ∧
        after.live = min limit DescriptorKey.slotCapacity) := by
  induction count generalizing table with
  | zero =>
      have hlive := h.live_le
      have hsize := Nat.le_trans hw.live_le_size hw.size_le
      refine ⟨fun _ => ⟨[], table, rfl, rfl, rfl⟩, fun hfull => ?_⟩
      omega
  | succ count ih =>
      rw [insertMany]
      -- With room for one entry the rest is by induction; without, the first insertion is the last.
      by_cases hroom : table.HasRoom
      · obtain ⟨key, after, hinsert⟩ := insert_of_hasRoom hw hroom a
        have hserve : ((Op.insert a).serve table).2 = after := by
          rw [Op.serve, hinsert]
        have hwithin := h.serve hw (.insert a)
        rw [hserve] at hwithin
        have hlive : after.live = table.live + 1 := (inserted_of_insert hw hinsert).live_eq
        obtain ⟨hfits, hfills⟩ := ih hwithin (hw.insert hinsert)
        rw [hinsert]
        dsimp only
        refine ⟨fun hle => ?_, fun hlt => ?_⟩
        · obtain ⟨keys, last, hmany, hlength, hlast⟩ := hfits (by omega)
          rw [hmany]
          exact ⟨key :: keys, last, rfl, congrArg (· + 1) hlength, by omega⟩
        · obtain ⟨last, hmany, hlast⟩ := hfills (by omega)
          rw [hmany]
          exact ⟨last, rfl, hlast⟩
      · have hfull : table.live = min limit DescriptorKey.slotCapacity :=
          Decidable.not_not.mp fun hne => hroom ((h.hasRoom_iff hw).mpr hne)
        rw [insert_of_full hw hroom]
        exact ⟨fun hle => absurd hle (by omega), fun _ => ⟨table, rfl, hfull⟩⟩

/-! ## What an operation reaches for -/

/-- **What an operation reaches for is there**: the slot that an insertion fills, which may be a new one, and the slot
that a removal empties, with an entry to count off. -/
def Op.Grounded : Op α → DescriptorTable α → Prop
  | .insert a, table => ∀ key after, table.insert a = .ok (key, after) → table.nextSlot < after.slots.size
  | .remove key, table => ∀ a after, table.remove key = .ok (a, after) →
      ∃ i, key.index? = some i ∧ i < table.slots.size ∧ 0 < table.live
  | _, _ => True

theorem grounded (hw : table.WellFormed) (op : Op α) : op.Grounded table := by
  cases op with
  | insert a =>
      intro key after hinsert
      rw [(inserted_of_insert hw hinsert).size_eq]
      omega
  | remove key =>
      intro a after hremove
      obtain ⟨i, hi, -, hentry, -⟩ := release_of_remove hremove
      refine ⟨i, hi, lt_size_of_entryAt hentry, ?_⟩
      rw [hw.live_eq]
      exact List.length_pos_of_mem (mem_occupied.mpr (by rw [hentry]; rfl))
  | get | getRaw | size | clear => trivial

/-! ## Every table -/

/-- **The slots of a table, accounted for.** Whatever its limit and whatever is done with it from the start, the table
is well formed: its stack has each vacant slot once, its count is that of the occupied slots, and there are no more
slots than keys can tell apart. There are as many as have been occupied at once, the count keeps to the limit, and no
operation reaches for what is not there. An insertion fails just when the count is as great as it can be, for want
of room, and leaves the table as it is. -/
theorem slots_accounted (name : String) (limit : Nat) (ops : List (Op α)) :
    let table := run ops (new name limit)
    table.WellFormed ∧ table.live + table.free.length = table.slots.size ∧
      table.slots.size = peak ops (new name limit) ∧ table.live ≤ limit ∧ (∀ op : Op α, op.Grounded table) ∧
      (∀ a, table.live = min limit DescriptorKey.slotCapacity →
        (Op.insert a).serve table = (.error .tooManyOpenFiles, table)) ∧
      ∀ a, table.live ≠ min limit DescriptorKey.slotCapacity → ∃ key after, table.insert a = .ok (key, after) := by
  intro table
  have hw : table.WellFormed := (new_wellFormed name limit).run ops
  have hlimit : table.WithinLimit limit := WithinLimit.run ⟨rfl, Nat.zero_le _⟩ (new_wellFormed name limit) ops
  have hroom := hlimit.hasRoom_iff hw
  refine ⟨hw, hw.live_add_free, ?_, hlimit.live_le, grounded hw, fun a hfull => ?_, fun a hbelow => ?_⟩
  · exact (size_run (new_wellFormed name limit) ops).trans (Nat.max_eq_right (Nat.zero_le _))
  · have hinsert : table.insert a = .error .tooManyOpenFiles := insert_of_full hw (fun h => hroom.mp h hfull) a
    rw [Op.serve, hinsert]
  · exact insert_of_hasRoom hw (hroom.mpr hbelow) a

end StorageDispatch.DescriptorTable
