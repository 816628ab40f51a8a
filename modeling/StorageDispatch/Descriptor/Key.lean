set_option autoImplicit false

/-! # Descriptor keys

A caller names an open handle by a `DescriptorKey`: a 64-bit word, never zero, that packs the slot of
a descriptor table and the generation of that slot.

```text
 key = generation << 32 | (index + 1)
```

`DescriptorKey.toNat_raw_pack` gives the word as a number and `index?_pack`, `generation_pack` read the
two parts back. A word is no more than its halves (`toNat_raw`), and so a key is no more than its parts
(`eq_of_parts`).
-/

namespace StorageDispatch

/-- The name of an open handle. Zero is no key. -/
structure DescriptorKey where
  raw : UInt64
  raw_ne_zero : raw ≠ 0
  deriving DecidableEq, Repr

namespace DescriptorKey

theorem toNat_succ_index (index : UInt32) : (index.toUInt64 + 1).toNat = index.toNat + 1 := by
  have h := index.toNat_lt
  rw [UInt64.toNat_add, UInt32.toNat_toUInt64, Nat.mod_eq_of_lt] <;> simp <;> omega

theorem or_ne_zero (high : UInt64) (index : UInt32) : high ||| (index.toUInt64 + 1) ≠ 0 := by
  intro h
  have hn := congrArg UInt64.toNat h
  rw [UInt64.toNat_or, toNat_succ_index] at hn
  have hle : index.toNat + 1 ≤ high.toNat ||| (index.toNat + 1) := Nat.right_le_or
  simp only [UInt64.toNat_zero] at hn
  omega

/-- The key of a slot in one of its generations. -/
def pack (index generation : UInt32) : DescriptorKey :=
  ⟨generation.toUInt64 <<< 32 ||| (index.toUInt64 + 1), or_ne_zero _ index⟩

/-- The key with a given word, if it is one. -/
def ofRaw? (raw : UInt64) : Option DescriptorKey :=
  if h : raw = 0 then none else some ⟨raw, h⟩

/-- The slot that a key names. A word whose low half is zero names none. -/
def index? (key : DescriptorKey) : Option Nat :=
  match key.raw.toUInt32.toNat with
  | 0 => none
  | index + 1 => some index

def generation (key : DescriptorKey) : UInt32 := (key.raw >>> 32).toUInt32

def display (key : DescriptorKey) : String := toString key.raw.toNat

theorem ofRaw?_raw (key : DescriptorKey) : ofRaw? key.raw = some key := by
  simp [ofRaw?, key.raw_ne_zero]

/-- The slots that keys can tell apart: the low half of a word holds `index + 1`. -/
def slotCapacity : Nat := UInt32.size - 1

theorem toNat_raw_pack {index : UInt32} (h : index.toNat < slotCapacity) (generation : UInt32) :
    (pack index generation).raw.toNat = generation.toNat * UInt32.size + (index.toNat + 1) := by
  have hg := generation.toNat_lt
  have hi : index.toNat + 1 < 2 ^ 32 := by simp only [slotCapacity, UInt32.size] at h; omega
  have hs : (generation.toUInt64 <<< 32).toNat = generation.toNat * 2 ^ 32 := by
    rw [UInt64.toNat_shiftLeft, UInt32.toNat_toUInt64, Nat.shiftLeft_eq, Nat.mod_eq_of_lt] <;>
      simp <;> omega
  calc (pack index generation).raw.toNat
      = generation.toNat * 2 ^ 32 ||| (index.toNat + 1) := by
        change (generation.toUInt64 <<< 32 ||| (index.toUInt64 + 1)).toNat = _
        rw [UInt64.toNat_or, toNat_succ_index, hs]
    _ = 2 ^ 32 * generation.toNat ||| (index.toNat + 1) := by rw [Nat.mul_comm]
    _ = 2 ^ 32 * generation.toNat + (index.toNat + 1) := (Nat.two_pow_add_eq_or_of_lt hi _).symm
    _ = generation.toNat * UInt32.size + (index.toNat + 1) := by
        simp only [UInt32.size]
        omega

theorem index?_pack {index : UInt32} (h : index.toNat < slotCapacity) (generation : UInt32) :
    (pack index generation).index? = some index.toNat := by
  have hi : index.toNat + 1 < 2 ^ 32 := by simp only [slotCapacity, UInt32.size] at h; omega
  have hm : (pack index generation).raw.toUInt32.toNat = index.toNat + 1 := by
    rw [UInt64.toNat_toUInt32, toNat_raw_pack h, UInt32.size]
    omega
  simp only [index?, hm]

theorem generation_pack {index : UInt32} (h : index.toNat < slotCapacity) (generation : UInt32) :
    (pack index generation).generation = generation := by
  have hg := generation.toNat_lt
  have hi : index.toNat + 1 < 2 ^ 32 := by simp only [slotCapacity, UInt32.size] at h; omega
  apply UInt32.toNat_inj.mp
  rw [DescriptorKey.generation, UInt64.toNat_toUInt32, UInt64.toNat_shiftRight, toNat_raw_pack h,
    Nat.shiftRight_eq_div_pow, UInt32.size]
  simp only [UInt64.reduceToNat, Nat.reduceMod, Nat.reducePow] at hg hi ⊢
  omega

/-! ## The halves of a word -/

section Halves

variable {key other : DescriptorKey} {i : Nat}

/-- A word is made of its two halves. -/
theorem toNat_raw (key : DescriptorKey) :
    key.raw.toNat = key.generation.toNat * UInt32.size + key.raw.toUInt32.toNat := by
  have hlt := key.raw.toNat_lt
  have hhigh : key.generation.toNat = key.raw.toNat / 2 ^ 32 := by
    have hquotient : key.raw.toNat / 2 ^ 32 < 2 ^ 32 := by omega
    rw [generation, UInt64.toNat_toUInt32, UInt64.toNat_shiftRight, Nat.shiftRight_eq_div_pow]
    exact Nat.mod_eq_of_lt hquotient
  rw [hhigh, UInt64.toNat_toUInt32, UInt32.size]
  omega

theorem index?_eq_some_iff : key.index? = some i ↔ key.raw.toUInt32.toNat = i + 1 := by
  unfold index?
  split
  · rename_i hzero
    rw [hzero]
    exact iff_of_false nofun (Nat.succ_ne_zero i).symm
  · rename_i n hsucc
    rw [hsucc, Option.some.injEq, Nat.succ_inj]

theorem index?_eq_none_iff : key.index? = none ↔ key.raw.toUInt32 = 0 := by
  rw [← UInt32.toNat_inj]
  unfold index?
  split
  · rename_i hzero
    exact iff_of_true rfl hzero
  · rename_i n hsucc
    rw [hsucc]
    exact iff_of_false nofun (Nat.succ_ne_zero n)

theorem index_lt (h : key.index? = some i) : i < slotCapacity := by
  have hlow := key.raw.toUInt32.toNat_lt
  rw [index?_eq_some_iff.mp h] at hlow
  simp only [slotCapacity, UInt32.size]
  omega

/-- Two keys of one slot and one generation are the same. -/
theorem eq_of_parts (hkey : key.index? = some i) (hother : other.index? = some i)
    (hgeneration : key.generation = other.generation) : key = other := by
  have hraw : key.raw = other.raw := by
    rw [← UInt64.toNat_inj, toNat_raw key, toNat_raw other, hgeneration, index?_eq_some_iff.mp hkey,
      index?_eq_some_iff.mp hother]
  cases key
  cases other
  congr

/-- The slots that keys can tell apart are words. -/
theorem toNat_slot (h : i < slotCapacity) : i.toUInt32.toNat = i := by
  simp only [slotCapacity, UInt32.size] at h
  rw [Nat.toUInt32_eq, UInt32.toNat_ofNat', Nat.mod_eq_of_lt (by omega)]

end Halves

end DescriptorKey

end StorageDispatch
