import Mathlib.Data.Finmap
import StorageDispatch.Proofs.Descriptor.Entries
import StorageDispatch.Proofs.Descriptor.Run

set_option autoImplicit false

/-! # Descriptor tables as finite maps

To its users a descriptor table is a finite map from keys to entries, its `Bindings`. `Bindings.Step` says
what each operation does to such a map, without slots, generations or vacant places: an insertion adds one
binding for a key that has none, a removal takes one away, clearing takes all, and everything else only
looks.

`Denotes` ties a table to the map that it stands for. One operation on the table is one step of the map
(`step_serve`), and so a sequence of operations is a run of the map (`trace_run`).

**The result** is `refines_bindings`. It starts from a new table, and adds what the map cannot say, that a
word naming no slot is no key.
-/

namespace StorageDispatch.DescriptorTable

variable {α : Type} {name : String} {limit : Nat}

/-! ## The abstract map -/

/-- What a descriptor table stands for: entries by key. -/
abbrev Bindings (α : Type) := Finmap fun _ : DescriptorKey => α

namespace Bindings

def size (map : Bindings α) : Nat := map.keys.card

def unbound (name : String) (key : DescriptorKey) : Error :=
  .badFileDescriptor s!"no open {name} with descriptor {key.display}"

/-- **What one operation does to the map**, and what it returns. A map of this limit is full when it has so
many bindings, or one for each slot that keys can tell apart. -/
inductive Step (name : String) (limit : Nat) :
    Op α → Bindings α → Except Error (Answer α) → Bindings α → Prop
  | full (a : α) (map : Bindings α) (h : min limit DescriptorKey.slotCapacity ≤ map.size) :
      Step name limit (.insert a) map (.error .tooManyOpenFiles) map
  | added (a : α) (map : Bindings α) (key : DescriptorKey)
      (h : map.size < min limit DescriptorKey.slotCapacity) (hfresh : key ∉ map) :
      Step name limit (.insert a) map (.ok (.key key)) (map.insert key a)
  | got (key : DescriptorKey) (a : α) (map : Bindings α) (h : map.lookup key = some a) :
      Step name limit (.get key) map (.ok (.entry a)) map
  | notGot (key : DescriptorKey) (map : Bindings α) (h : key ∉ map) :
      Step name limit (.get key) map (.error (unbound name key)) map
  | zero (map : Bindings α) :
      Step name limit (.getRaw 0) map (.error (.invalidArgument s!"{name} descriptor 0")) map
  | raw (key : DescriptorKey) (map : Bindings α) (result : Except Error (Answer α))
      (h : Step name limit (.get key) map result map) : Step name limit (.getRaw key.raw) map result map
  | removed (key : DescriptorKey) (a : α) (map : Bindings α) (h : map.lookup key = some a) :
      Step name limit (.remove key) map (.ok (.entry a)) (map.erase key)
  | notRemoved (key : DescriptorKey) (map : Bindings α) (h : key ∉ map) :
      Step name limit (.remove key) map (.error (unbound name key)) map
  | counted (map : Bindings α) : Step name limit .size map (.ok (.count map.size)) map
  | cleared (map : Bindings α) : Step name limit .clear map (.ok (.count map.size)) ∅

inductive Trace (name : String) (limit : Nat) :
    Bindings α → List (Op α × Except Error (Answer α)) → Bindings α → Prop
  | nil (map : Bindings α) : Trace name limit map [] map
  | cons {op : Op α} {map next last : Bindings α} {result : Except Error (Answer α)}
      {rest : List (Op α × Except Error (Answer α))} (head : Step name limit op map result next)
      (tail : Trace name limit next rest last) : Trace name limit map ((op, result) :: rest) last

theorem size_insert {map : Bindings α} {key : DescriptorKey} (h : key ∉ map) (a : α) :
    Bindings.size (map.insert key a) = map.size + 1 := by
  have hkeys : (map.insert key a).keys = Insert.insert key map.keys := by
    ext k
    rw [Finset.mem_insert, Finmap.mem_keys, Finmap.mem_keys, Finmap.mem_insert]
  rw [size, hkeys, Finset.card_insert_of_notMem (by rwa [Finmap.mem_keys]), size]

theorem size_erase {map : Bindings α} {key : DescriptorKey} (h : key ∈ map) :
    Bindings.size (map.erase key) = map.size - 1 := by
  rw [size, Finmap.keys_erase, Finset.card_erase_of_mem (by rwa [Finmap.mem_keys]), size]

end Bindings

/-! ## What a table stands for -/

/-- **The simulation relation**: a well-formed table of this name and limit, and the map with the same
entries under the same keys. -/
structure Denotes (name : String) (limit : Nat) (table : DescriptorTable α) (map : Bindings α) : Prop where
  wellFormed : table.WellFormed
  name_eq : table.name = name
  limit_eq : table.limit = limit
  find?_eq : ∀ key, table.find? key = map.lookup key
  live_eq : table.live = map.size

def outcomes : List (Op α) → DescriptorTable α → List (Op α × Except Error (Answer α))
  | [], _ => []
  | op :: ops, table => (op, (op.serve table).1) :: outcomes ops (op.serve table).2

namespace Denotes

variable {table after : DescriptorTable α} {map : Bindings α} {key : DescriptorKey} {a : α}

theorem new (name : String) (limit : Nat) :
    Denotes name limit (DescriptorTable.new name limit : DescriptorTable α) ∅ where
  wellFormed := new_wellFormed name limit
  name_eq := rfl
  limit_eq := rfl
  find?_eq key := find?_new name limit key
  live_eq := rfl

theorem badKey_eq (h : Denotes name limit table map) (key : DescriptorKey) :
    table.badKey key = Bindings.unbound name key := by
  rw [badKey, h.name_eq, Bindings.unbound]

theorem hasRoom_iff (h : Denotes name limit table map) :
    table.HasRoom ↔ map.size < min limit DescriptorKey.slotCapacity := by
  rw [HasRoom, h.live_eq, h.limit_eq]

theorem notMem (h : Denotes name limit table map) (hfind : table.find? key = none) : key ∉ map :=
  Finmap.lookup_eq_none.mp ((h.find?_eq key).symm.trans hfind)

theorem insert (h : Denotes name limit table map) (hinsert : table.insert a = .ok (key, after)) :
    Denotes name limit after (map.insert key a) where
  wellFormed := h.wellFormed.insert hinsert
  name_eq := (insert_fields hinsert).1.trans h.name_eq
  limit_eq := (insert_fields hinsert).2.trans h.limit_eq
  find?_eq k := by
    rw [find?_insert h.wellFormed hinsert]
    by_cases hk : k = key
    · rw [if_pos hk, hk, Finmap.lookup_insert]
    · rw [if_neg hk, Finmap.lookup_insert_of_ne _ hk, h.find?_eq]
  live_eq := by
    have hfresh := h.notMem (find?_key_of_insert h.wellFormed hinsert)
    rw [(inserted_of_insert h.wellFormed hinsert).live_eq, h.live_eq, Bindings.size_insert hfresh]

theorem remove (h : Denotes name limit table map) (hremove : table.remove key = .ok (a, after)) :
    Denotes name limit after (map.erase key) where
  wellFormed := h.wellFormed.remove hremove
  name_eq := by
    obtain ⟨i, -, -, -, rfl⟩ := release_of_remove hremove
    exact h.name_eq
  limit_eq := by
    obtain ⟨i, -, -, -, rfl⟩ := release_of_remove hremove
    exact h.limit_eq
  find?_eq k := by
    rw [find?_remove hremove]
    by_cases hk : k = key
    · rw [if_pos hk, hk, Finmap.lookup_erase]
    · rw [if_neg hk, Finmap.lookup_erase_ne hk, h.find?_eq]
  live_eq := by
    have hlookup : map.lookup key = some a := (h.find?_eq key).symm.trans (find?_of_remove hremove)
    rw [Bindings.size_erase (Finmap.mem_of_lookup_eq_some hlookup), ← h.live_eq]
    obtain ⟨i, -, -, -, rfl⟩ := release_of_remove hremove
    rfl

theorem clear (h : Denotes name limit table map) : Denotes name limit table.clear ∅ where
  wellFormed := h.wellFormed.clear
  name_eq := h.name_eq
  limit_eq := h.limit_eq
  find?_eq k := find?_clear table k
  live_eq := rfl

/-! ## Steps -/

theorem step_get (h : Denotes name limit table map) (key : DescriptorKey) :
    Bindings.Step name limit (.get key) map (Answer.entry <$> table.get key) map := by
  cases hfind : table.find? key with
  | some a =>
      have hget : table.get key = .ok a := by rw [get, hfind]
      rw [hget]
      exact .got key a map ((h.find?_eq key).symm.trans hfind)
  | none =>
      have hget : table.get key = .error (Bindings.unbound name key) := by rw [get, hfind, h.badKey_eq]
      rw [hget]
      exact .notGot key map (h.notMem hfind)

/-- **One operation on a table is one step of the map**, to what the table stands for afterwards. -/
theorem step_serve (h : Denotes name limit table map) (op : Op α) :
    ∃ next, Bindings.Step name limit op map (op.serve table).1 next ∧
      Denotes name limit (op.serve table).2 next := by
  cases op with
  | insert a =>
      by_cases hroom : table.HasRoom
      · obtain ⟨key, after, hinsert⟩ := insert_of_hasRoom h.wellFormed hroom a
        have hfresh := h.notMem (find?_key_of_insert h.wellFormed hinsert)
        simp only [Op.serve, hinsert]
        exact ⟨_, .added a map key (h.hasRoom_iff.mp hroom) hfresh, h.insert hinsert⟩
      · have hsize : min limit DescriptorKey.slotCapacity ≤ map.size :=
          Nat.le_of_not_lt (h.hasRoom_iff.not.mp hroom)
        simp only [Op.serve, insert_of_full h.wellFormed hroom a]
        exact ⟨map, .full a map hsize, h⟩
  | get key => exact ⟨map, h.step_get key, h⟩
  | getRaw raw =>
      refine ⟨map, ?_, h⟩
      -- A word that is zero is refused before anything is looked up.
      by_cases hzero : raw = 0
      · have hnone : DescriptorKey.ofRaw? raw = none := dif_pos hzero
        simp only [Op.serve, getRaw, hnone, h.name_eq]
        rw [hzero]
        exact .zero map
      · have hkey : DescriptorKey.ofRaw? raw = some ⟨raw, hzero⟩ := dif_neg hzero
        simp only [Op.serve, getRaw, hkey]
        exact .raw ⟨raw, hzero⟩ map _ (h.step_get _)
  | remove key =>
      cases hfind : table.find? key with
      | some a =>
          obtain ⟨after, hremove⟩ := remove_of_find? hfind
          simp only [Op.serve, hremove]
          exact ⟨_, .removed key a map ((h.find?_eq key).symm.trans hfind), h.remove hremove⟩
      | none =>
          have hremove : table.remove key = .error (Bindings.unbound name key) := by
            rw [DescriptorTable.remove, hfind, h.badKey_eq]
          simp only [Op.serve, hremove]
          exact ⟨map, .notRemoved key map (h.notMem hfind), h⟩
  | size =>
      refine ⟨map, ?_, h⟩
      simp only [Op.serve, h.live_eq]
      exact .counted map
  | clear =>
      refine ⟨∅, ?_, h.clear⟩
      simp only [Op.serve, h.live_eq]
      exact .cleared map

/-- **A sequence of operations on a table is a run of the map.** -/
theorem trace_run (h : Denotes name limit table map) (ops : List (Op α)) :
    ∃ last, Bindings.Trace name limit map (outcomes ops table) last ∧
      Denotes name limit (run ops table) last := by
  induction ops generalizing table map with
  | nil => exact ⟨map, .nil map, h⟩
  | cons op ops ih =>
      obtain ⟨next, hstep, hnext⟩ := h.step_serve op
      obtain ⟨last, htrace, hlast⟩ := ih hnext
      exact ⟨last, .cons hstep htrace, hlast⟩

end Denotes

/-! ## Words that name no slot -/

/-- A word that names no slot of the table: its low half is zero, or past the slots. -/
def Slotless (table : DescriptorTable α) (raw : UInt64) : Prop :=
  raw.toUInt32 = 0 ∨ table.slots.size < raw.toUInt32.toNat

theorem find?_of_slotless {table : DescriptorTable α} {key : DescriptorKey} (h : table.Slotless key.raw) :
    table.find? key = none := by
  cases hi : key.index? with
  | none => simp [find?, hi]
  | some i =>
      have hlow : key.raw.toUInt32.toNat = i + 1 := DescriptorKey.index?_eq_some_iff.mp hi
      have hpast : table.slots.size ≤ i := by
        rcases h with hzero | hpast
        · rw [hzero] at hlow
          cases hlow
        · omega
      exact find?_of_vacant hi (entryAt_of_size_le hpast)

/-- **A descriptor table behaves as a finite map.** Whatever its limit and whatever is done with it from the
start, the outcomes are those of a run of the map, which the table then stands for; and each nonzero word
that names no slot is bound to nothing, and is refused for that. -/
theorem refines_bindings (name : String) (limit : Nat) (ops : List (Op α)) :
    ∃ map : Bindings α, Bindings.Trace name limit ∅ (outcomes ops (new name limit)) map ∧
      Denotes name limit (run ops (new name limit)) map ∧
      ∀ key, (run ops (new name limit)).Slotless key.raw → key ∉ map ∧
        (run ops (new name limit)).getRaw key.raw = .error (Bindings.unbound name key) := by
  obtain ⟨map, htrace, hmap⟩ := (Denotes.new name limit).trace_run ops
  refine ⟨map, htrace, hmap, fun key hslotless => ?_⟩
  have hfind := find?_of_slotless hslotless
  refine ⟨hmap.notMem hfind, ?_⟩
  rw [getRaw, DescriptorKey.ofRaw?_raw]
  simp only [get, hfind, hmap.badKey_eq]

end StorageDispatch.DescriptorTable
