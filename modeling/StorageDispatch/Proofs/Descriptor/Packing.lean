import Mathlib.Data.Set.Function
import Mathlib.Logic.ExistsUnique
import StorageDispatch.Proofs.Descriptor.Run

set_option autoImplicit false

/-! # Keys and their parts

A key that names a slot is the packing of its two parts (`pack_parts`) and of no others (`pack_injOn`), and the keys
that a table hands out are packings (`DescriptorTable.issued_pack`).

**The result** is `pack_unpack`: packing is a bijection from slots and generations to the words with a nonzero low
half. It takes slots below `slotCapacity`, and no table has others.
-/

namespace StorageDispatch

namespace DescriptorKey

/-- **A key that names a slot is the packing of its parts.** -/
theorem pack_parts {key : DescriptorKey} {i : Nat} (h : key.index? = some i) :
    pack i.toUInt32 key.generation = key := by
  have hslot := toNat_slot (index_lt h)
  have hlt : i.toUInt32.toNat < slotCapacity := by
    rw [hslot]
    exact index_lt h
  refine eq_of_parts ?_ h (generation_pack hlt _)
  rw [index?_pack hlt, hslot]

/-- The parts of a packing are those that it was made from. -/
theorem pack_injOn :
    Set.InjOn (fun parts : UInt32 × UInt32 => pack parts.1 parts.2) {parts | parts.1.toNat < slotCapacity} := by
  rintro ⟨index, generation⟩ hindex ⟨index', generation'⟩ hindex' heq
  have hgeneration : generation = generation' :=
    (generation_pack hindex generation).symm.trans
      ((congrArg DescriptorKey.generation heq).trans (generation_pack hindex' generation'))
  have hslot : some index.toNat = some index'.toNat :=
    (index?_pack hindex generation).symm.trans
      ((congrArg DescriptorKey.index? heq).trans (index?_pack hindex' generation'))
  rw [hgeneration, UInt32.toNat_inj.mp (Option.some.inj hslot)]

/-- The one index past the slots that can be told apart: its increment carries into the generation. -/
theorem index?_pack_last (generation : UInt32) : (pack 0xFFFFFFFF generation).index? = none := by
  rw [index?_eq_none_iff]
  show (generation.toUInt64 <<< 32 ||| ((0xFFFFFFFF : UInt32).toUInt64 + 1)).toUInt32 = 0
  have hhigh : (generation.toUInt64 <<< 32).toUInt32 = 0 := by
    have hg := generation.toNat_lt
    rw [← UInt32.toNat_inj, UInt64.toNat_toUInt32, UInt64.toNat_shiftLeft, UInt32.toNat_toUInt64, Nat.shiftLeft_eq]
    simp only [UInt64.reduceToNat, Nat.reduceMod, UInt32.reduceToNat]
    omega
  have hcarry : ((0xFFFFFFFF : UInt32).toUInt64 + 1).toUInt32 = 0 := by decide
  rw [UInt64.toUInt32_or, hhigh, hcarry]
  rfl

end DescriptorKey

/-- The keys that a table hands out are packed from slots that can be told apart. -/
theorem DescriptorTable.issued_pack {α : Type} {name : String} {limit : Nat} {ops : List (Op α)} {key : DescriptorKey}
    (h : key ∈ issues ops (new name limit)) :
    ∃ index generation : UInt32, index.toNat < DescriptorKey.slotCapacity ∧ key = .pack index generation := by
  obtain ⟨before, a, after, issued, -, hinsert⟩ := insert_of_mem_issues h
  have hinserted := inserted_of_insert ((new_wellFormed name limit).run before) hinsert
  refine ⟨_, _, ?_, hinserted.key_eq⟩
  rw [hinserted.toNat_nextSlot]
  exact hinserted.nextSlot_lt

namespace DescriptorKey

/-- **Packing is a bijection** from the slots that keys can tell apart and the generations to the words with a
nonzero low half, and a packing is read back part by part. The increment of the slot stays in the low half. A word
with a zero low half names no slot, and it takes the index that no table ever packs to get one. -/
theorem pack_unpack :
    (∀ index generation : UInt32, index.toNat < slotCapacity →
      (pack index generation).raw ≠ 0 ∧ (pack index generation).index? = some index.toNat ∧
        (pack index generation).generation = generation ∧ index.toNat + 1 < UInt32.size ∧
        (pack index generation).raw.toNat = generation.toNat * UInt32.size + (index.toNat + 1)) ∧
    Set.InjOn (fun parts : UInt32 × UInt32 => pack parts.1 parts.2) {parts | parts.1.toNat < slotCapacity} ∧
    (∀ key, ofRaw? key.raw = some key) ∧
    (∀ raw : UInt64, raw.toUInt32 ≠ 0 →
      ∃! parts : UInt32 × UInt32, parts.1.toNat < slotCapacity ∧ ofRaw? raw = some (pack parts.1 parts.2)) ∧
    (∀ key : DescriptorKey, key.index? = none ↔ key.raw.toUInt32 = 0) ∧
    (∀ generation, (pack 0xFFFFFFFF generation).index? = none) ∧
    ∀ (α : Type) (name : String) (limit : Nat) (ops : List (DescriptorTable.Op α)),
      ∀ key ∈ DescriptorTable.issues ops (.new name limit),
        ∃ index generation : UInt32, index.toNat < slotCapacity ∧ key = pack index generation := by
  refine ⟨fun index generation hindex => ?_, pack_injOn, ofRaw?_raw, fun raw hlow => ?_,
    fun key => index?_eq_none_iff, index?_pack_last,
    fun α name limit ops key hkey => DescriptorTable.issued_pack hkey⟩
  · refine ⟨(pack index generation).raw_ne_zero, index?_pack hindex generation, generation_pack hindex generation, ?_,
      toNat_raw_pack hindex generation⟩
    simp only [slotCapacity, UInt32.size] at hindex ⊢
    omega
  · have hraw : raw ≠ 0 := by
      rintro rfl
      exact hlow rfl
    have hkey : ofRaw? raw = some ⟨raw, hraw⟩ := dif_neg hraw
    -- As its low half is not zero the word names a slot, and its two parts pack to it.
    obtain ⟨i, hi⟩ : ∃ i, (⟨raw, hraw⟩ : DescriptorKey).index? = some i :=
      Option.ne_none_iff_exists'.mp (index?_eq_none_iff.not.mpr hlow)
    have hlt : i.toUInt32.toNat < slotCapacity := by
      rw [toNat_slot (index_lt hi)]
      exact index_lt hi
    refine ⟨(i.toUInt32, generation ⟨raw, hraw⟩), ⟨hlt, ?_⟩, ?_⟩
    · rw [hkey, pack_parts hi]
    · rintro parts ⟨hparts, hsame⟩
      refine pack_injOn hparts hlt ?_
      rw [hkey, Option.some.injEq] at hsame
      show pack parts.1 parts.2 = pack i.toUInt32 (generation ⟨raw, hraw⟩)
      rw [pack_parts hi, hsame]

end DescriptorKey

end StorageDispatch
