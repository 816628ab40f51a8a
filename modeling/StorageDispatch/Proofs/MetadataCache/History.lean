import Mathlib.Algebra.Group.Nat.Defs
import Mathlib.Data.List.Induction
import StorageDispatch.MetadataCache

set_option autoImplicit false

/-! # A metadata cache and its history

What a cache answers depends on all that was done to it: other keys may have flushed the key that is asked for.
A history records the uses of a cache, with what was seen of them; the era of a key is the part of it since the
key was last flushed or removed (`era`).

**The result** is `references_of_history`: in a history with fewer than `2 ^ 64` additions, the references of a
key are the additions in its era without the values that were taken in it, and a value that is taken is the one
that was added last. What carries it is the invariant `Remembers`, which every use keeps (`Remembers.step`).
-/

namespace StorageDispatch

namespace MetadataCache

variable {α : Type}

/-! ## Lookups -/

section Lookups

variable {cache : MetadataCache α} {key k : String} {value : α} {entry : CacheEntry α}

theorem contains_eq : cache.contains key = cache.entries[key]?.isSome := Std.HashMap.contains_eq_isSome_getElem?

theorem references_eq : cache.references key = cache.entries[key]?.elim 0 CacheEntry.references := by
  unfold references
  cases cache.entries[key]? <;> rfl

/-- A cache is flushed for absent keys only. -/
theorem none_of_flushesFor (h : cache.flushesFor key = true) : cache.entries[key]? = none := by
  rw [flushesFor, Bool.and_eq_true] at h
  exact Option.isNone_iff_eq_none.mp h.1

/-- The library asks whether the key that is changed is the one that is looked up, and here it is the other way
round. -/
theorem ite_key {β : Type} (a b : β) : (if (key == k) = true then a else b) = if k = key then a else b :=
  if_congr (beq_iff_eq.trans eq_comm) rfl rfl

/-- Unless the cache is flushed, an addition is about its own key. -/
theorem getElem?_add :
    (cache.add key value).entries[k]? =
      if k = key then some ⟨min (cache.references key + 1) maxReferences, value⟩
      else if cache.flushesFor key then none else cache.entries[k]? := by
  unfold add
  rw [Std.HashMap.getElem?_insert, ite_key]
  congr 1
  split
  · exact Std.HashMap.getElem?_empty
  · rfl

theorem getElem?_erase :
    (cache.erase key).entries[k]? = if k = key then none else cache.entries[k]? := by
  unfold erase
  rw [Std.HashMap.getElem?_erase, ite_key]

def used (entry : CacheEntry α) : Option (CacheEntry α) :=
  if entry.references ≤ 1 then none else some { entry with references := entry.references - 1 }

def spend (cache : MetadataCache α) (key : String) (entry : CacheEntry α) : MetadataCache α :=
  { cache with
    entries :=
      if entry.references ≤ 1 then cache.entries.erase key
      else cache.entries.insert key { entry with references := entry.references - 1 } }

/-- What is taken is the value that is there. -/
theorem takeOne_of_some (h : cache.entries[key]? = some entry) :
    cache.takeOne key = .ok (entry.value, cache.spend key entry) := by
  rw [takeOne, takeOne?, h]
  rfl

theorem takeOne_of_none (h : cache.entries[key]? = none) : cache.takeOne key = .error (.notFound key) := by
  rw [takeOne, takeOne?, h]
  rfl

theorem getElem?_spend :
    (cache.spend key entry).entries[k]? = if k = key then used entry else cache.entries[k]? := by
  unfold spend used
  by_cases hlast : entry.references ≤ 1
  · rw [if_pos hlast, if_pos hlast]
    exact getElem?_erase
  · rw [if_neg hlast, if_neg hlast, Std.HashMap.getElem?_insert, ite_key]

theorem size_spend_le (h : cache.entries[key]? = some entry) : (cache.spend key entry).size ≤ cache.size := by
  unfold spend size
  split
  · exact Std.HashMap.size_erase_le
  · have hmem : key ∈ cache.entries := by
      rw [Std.HashMap.mem_iff_contains, Std.HashMap.contains_eq_isSome_getElem?, h]
      rfl
    exact Nat.le_of_eq (Std.HashMap.size_insert.trans (if_pos hmem))

/-- There is room for what is added: a full cache is flushed for a new key. -/
theorem size_add_le (hroom : 1 ≤ cache.capacity) (hsize : cache.size ≤ cache.capacity) :
    (cache.add key value).size ≤ cache.capacity := by
  unfold add size
  by_cases hflush : cache.flushesFor key = true
  · rw [if_pos hflush]
    exact Nat.le_trans Std.HashMap.size_insert_le hroom
  · rw [if_neg hflush]
    have hkept : key ∉ cache.entries → cache.size + 1 ≤ cache.capacity := by
      intro hmem
      have hnone : cache.entries[key]? = none := Std.HashMap.getElem?_eq_none hmem
      have hbelow : cache.size < cache.capacity := by simpa [flushesFor, hnone] using hflush
      exact hbelow
    rw [Std.HashMap.size_insert]
    split
    · exact hsize
    · rename_i hmem
      exact hkept hmem

end Lookups

/-! ## Uses and histories -/

inductive Use (α : Type)
  | add (key : String) (value : α)
  | take (key : String)
  | remove (key : String)

namespace Use

def key : Use α → String
  | add key _ | take key | remove key => key

def isAdd : Use α → Bool
  | add .. => true
  | _ => false

def added? (k : String) : Use α → Option α
  | add key value => if key = k then some value else none
  | _ => none

def apply (use : Use α) (cache : MetadataCache α) : Option α × MetadataCache α :=
  match use with
  | add key value => (none, cache.add key value)
  | take key =>
    match cache.takeOne key with
    | .ok (value, after) => (some value, after)
    | .error _ => (none, cache)
  | remove key => (none, cache.erase key)

/-- Whether a use flushes a cache of a capacity: it adds an absent key when there is no room for another one. -/
def flushes (capacity : Nat) (cache : MetadataCache α) : Use α → Bool
  | add key _ => !cache.contains key && cache.size == max capacity 1
  | _ => false

end Use

theorem apply_take_of_none {cache : MetadataCache α} {key : String} (h : cache.entries[key]? = none) :
    (Use.take key).apply cache = (none, cache) := by
  rw [Use.apply, takeOne_of_none h]

theorem apply_take_of_some {cache : MetadataCache α} {key : String} {entry : CacheEntry α}
    (h : cache.entries[key]? = some entry) :
    (Use.take key).apply cache = (some entry.value, cache.spend key entry) := by
  rw [Use.apply, takeOne_of_some h]

/-- A use of a cache, with what was seen of it. -/
structure Past (α : Type) where
  use : Use α
  /-- The cache was flushed. -/
  flushed : Bool
  /-- The value that was taken. -/
  taken : Option α

def record (capacity : Nat) (state : List (Past α) × MetadataCache α) (use : Use α) :
    List (Past α) × MetadataCache α :=
  (state.1 ++ [⟨use, use.flushes capacity state.2, (use.apply state.2).1⟩], (use.apply state.2).2)

/-- The uses of a new cache, one after the other: their history, and the cache after them. -/
def run (capacity : Nat) (uses : List (Use α)) : List (Past α) × MetadataCache α :=
  uses.foldl (record capacity) ([], ofCapacity capacity)

/-- Whether an era of a key begins: the cache is flushed, or the key is removed. -/
def Past.begins (key : String) (past : Past α) : Bool :=
  past.flushed || match past.use with
    | .remove k => k == key
    | _ => false

/-- **The era of a key**: what happened since the cache was last flushed, or the key was removed. The addition
for which the cache was flushed belongs to it. -/
def era (key : String) (history : List (Past α)) : List (Past α) :=
  history.foldl (fun era past => if past.begins key then [past] else era ++ [past]) []

def adds (key : String) (history : List (Past α)) : Nat :=
  history.countP fun past => (past.use.added? key).isSome

def takes (key : String) (history : List (Past α)) : Nat :=
  history.countP fun past => past.use.key == key && past.taken.isSome

def latest (key : String) (uses : List (Use α)) : Option α := (uses.filterMap (Use.added? key)).getLast?

section History

variable {history : List (Past α)} {past : Past α} {key : String}

theorem era_append :
    era key (history ++ [past]) = if past.begins key then [past] else era key history ++ [past] := by
  rw [era, List.foldl_append]
  rfl

/-- What is counted in an era goes on with the era, or begins anew. -/
theorem countP_era_append (p : Past α → Bool) : (era key (history ++ [past])).countP p =
    (if past.begins key then 0 else (era key history).countP p) + [past].countP p := by
  rw [era_append]
  split
  · rw [Nat.zero_add]
  · exact List.countP_append

theorem adds_era_append : adds key (era key (history ++ [past])) =
    (if past.begins key then 0 else adds key (era key history)) + adds key [past] := countP_era_append _

theorem takes_era_append : takes key (era key (history ++ [past])) =
    (if past.begins key then 0 else takes key (era key history)) + takes key [past] := countP_era_append _

theorem adds_of_none (h : past.use.added? key = none) : adds key [past] = 0 := by simp [adds, h]

theorem adds_of_some {value : α} (h : past.use.added? key = some value) : adds key [past] = 1 := by
  simp [adds, h]

theorem takes_of_none (h : past.taken = none) : takes key [past] = 0 := by simp [takes, h]

theorem takes_of_some {value : α} (hkey : past.use.key = key) (h : past.taken = some value) :
    takes key [past] = 1 := by simp [takes, hkey, h]

theorem takes_of_ne (h : past.use.key ≠ key) : takes key [past] = 0 := by simp [takes, h]

theorem latest_append (uses : List (Use α)) (use : Use α) :
    latest key (uses ++ [use]) = (use.added? key).or (latest key uses) := by
  unfold latest
  rw [List.filterMap_append]
  cases hadded : use.added? key <;> simp [hadded]

/-- What is added in an era is added in the history. -/
theorem adds_era_le (key : String) (history : List (Past α)) :
    adds key (era key history) ≤ history.countP fun past => past.use.isAdd := by
  induction history using List.reverseRecOn with
  | nil => exact Nat.le_refl 0
  | append_singleton history past ih =>
      have hone : adds key [past] ≤ [past].countP fun past => past.use.isAdd := by
        refine List.countP_mono_left fun other _ hadded => ?_
        cases huse : other.use with
        | add => rfl
        | take | remove => simp [huse, Use.added?] at hadded
      rw [adds_era_append, List.countP_append]
      split <;> omega

end History

/-! ## What a cache remembers -/

/-- **What a history says of the entry of a key**: it has a reference for every addition in the era whose value
was not taken, and holds what was added last. -/
inductive Recalled (key : String) (history : List (Past α)) : Option (CacheEntry α) → Prop
  | absent (hspent : adds key (era key history) = takes key (era key history)) : Recalled key history none
  | present {entry : CacheEntry α} (hpos : 0 < entry.references)
      (hleft : adds key (era key history) = entry.references + takes key (era key history))
      (hlatest : latest key (history.map Past.use) = some entry.value) : Recalled key history (some entry)

namespace Recalled

variable {history : List (Past α)} {past : Past α} {key : String} {entry : CacheEntry α}
  {stored : Option (CacheEntry α)} {value : α}

theorem left (h : Recalled key history stored) : adds key (era key history) =
    stored.elim 0 CacheEntry.references + takes key (era key history) := by
  cases h with
  | absent hspent => exact hspent.trans (Nat.zero_add _).symm
  | present _ hleft => exact hleft

/-- What is not about a key leaves its entry as it was. -/
theorem idle (h : Recalled key history stored) (hbegins : past.begins key = false)
    (hadded : past.use.added? key = none) (htaken : takes key [past] = 0) :
    Recalled key (history ++ [past]) stored := by
  have hadds : adds key (era key (history ++ [past])) = adds key (era key history) := by
    rw [adds_era_append, hbegins, adds_of_none hadded]
    rfl
  have htakes : takes key (era key (history ++ [past])) = takes key (era key history) := by
    rw [takes_era_append, hbegins, htaken]
    rfl
  cases h with
  | absent hspent => exact .absent (by rw [hadds, htakes, hspent])
  | present hpos hleft hlatest =>
      refine .present hpos (by rw [hadds, htakes, hleft]) ?_
      rw [List.map_append, List.map_singleton, latest_append, hadded]
      exact hlatest

/-- An era of a key begins without it, unless it is added. -/
theorem begun (hbegins : past.begins key = true) (hadded : past.use.added? key = none)
    (htaken : takes key [past] = 0) : Recalled key (history ++ [past]) none := by
  refine .absent ?_
  rw [adds_era_append, takes_era_append, hbegins, htaken, adds_of_none hadded]
  rfl

/-- An addition brings a reference, which is the first one of an era that begins with it. -/
theorem added (h : Recalled key history stored) (hnew : past.begins key = true → stored = none)
    (hadded : past.use.added? key = some value) (htaken : takes key [past] = 0) :
    Recalled key (history ++ [past]) (some ⟨stored.elim 0 CacheEntry.references + 1, value⟩) := by
  refine .present (Nat.succ_pos _) ?_ ?_
  · rw [adds_era_append, takes_era_append, htaken, adds_of_some hadded]
    -- If an era begins here there was no entry, and otherwise the account of the old one goes on.
    cases hbegins : past.begins key with
    | true =>
        rw [hnew hbegins]
        rfl
    | false =>
        have hleft := h.left
        simp only [Bool.false_eq_true, if_false]
        omega
  · rw [List.map_append, List.map_singleton, latest_append, hadded]
    rfl

/-- A value that is taken uses a reference up. -/
theorem took (h : Recalled key history (some entry)) (hbegins : past.begins key = false)
    (hadded : past.use.added? key = none) (htaken : takes key [past] = 1) :
    Recalled key (history ++ [past]) (used entry) := by
  have hadds : adds key (era key (history ++ [past])) = entry.references + takes key (era key history) := by
    rw [adds_era_append, hbegins, adds_of_none hadded]
    exact h.left
  have htakes : takes key (era key (history ++ [past])) = takes key (era key history) + 1 := by
    rw [takes_era_append, hbegins, htaken]
    rfl
  cases h with
  | present hpos _ hlatest =>
      unfold used
      split
      · rename_i hlast
        refine .absent ?_
        omega
      · rename_i hmore
        refine .present ?_ ?_ ?_
        · show 0 < entry.references - 1
          omega
        · show _ = entry.references - 1 + _
          omega
        · rw [List.map_append, List.map_singleton, latest_append, hadded]
          exact hlatest

end Recalled

/-- **What a cache remembers of its history**: the entry of every key, and no more keys than it may have. -/
structure Remembers (capacity : Nat) (history : List (Past α)) (cache : MetadataCache α) : Prop where
  capacity_eq : cache.capacity = max capacity 1
  size_le : cache.size ≤ cache.capacity
  recalled : ∀ key, Recalled key history cache.entries[key]?

namespace Remembers

variable {capacity : Nat} {history : List (Past α)} {cache : MetadataCache α} {key : String} {value : α}

theorem start (capacity : Nat) : Remembers capacity [] (ofCapacity capacity : MetadataCache α) where
  capacity_eq := rfl
  size_le := Nat.zero_le _
  recalled key := by
    rw [show (ofCapacity capacity : MetadataCache α).entries[key]? = none from Std.HashMap.getElem?_empty]
    exact .absent rfl

/-- A cache flushes for a key if that is absent, and there is no room for another one. -/
theorem flushesFor_eq (h : Remembers capacity history cache) (key : String) (value : α) :
    cache.flushesFor key = (Use.add key value).flushes capacity cache := by
  have hfull : cache.capacity ≤ cache.size ↔ cache.size = max capacity 1 := by
    rw [← h.capacity_eq]
    exact ⟨fun hle => Nat.le_antisymm h.size_le hle, fun heq => Nat.le_of_eq heq.symm⟩
  rw [flushesFor, Use.flushes, contains_eq, decide_eq_decide.mpr hfull]
  cases cache.entries[key]? <;> rfl

/-- The references of a key are no more than the additions so far. -/
theorem references_le (h : Remembers capacity history cache) (key : String) :
    cache.references key ≤ history.countP fun past => past.use.isAdd := by
  have hleft := (h.recalled key).left
  have hadds := adds_era_le key history
  rw [references_eq]
  omega

/-- An addition of a key, perhaps to a cache that is flushed. -/
theorem add (h : Remembers capacity history cache) (key : String) (value : α)
    (hfew : (history.countP fun past => past.use.isAdd) + 1 < 2 ^ 64) :
    Remembers capacity (history ++ [⟨.add key value, (Use.add key value).flushes capacity cache, none⟩])
      (cache.add key value) where
  capacity_eq := h.capacity_eq
  size_le := size_add_le (by rw [h.capacity_eq]; exact Nat.le_max_right _ _) h.size_le
  recalled k := by
    rw [getElem?_add, h.flushesFor_eq key value]
    by_cases hk : k = key
    · -- There were too few additions for the bound on references to matter.
      have hcounted : min (cache.references key + 1) maxReferences = cache.references key + 1 := by
        have hle := h.references_le key
        refine Nat.min_eq_left ?_
        show _ ≤ 2 ^ 64 - 1
        omega
      rw [if_pos hk, hcounted, references_eq, hk]
      refine (h.recalled key).added (fun hbegins => ?_) (if_pos rfl) (takes_of_none rfl)
      have hflush : cache.flushesFor key = true := by
        rw [h.flushesFor_eq key value]
        simpa [Past.begins] using hbegins
      exact none_of_flushesFor hflush
    · rw [if_neg hk]
      have hadded : (Use.add key value).added? k = none := if_neg (Ne.symm hk)
      cases hflush : (Use.add key value).flushes capacity cache with
      | true => exact Recalled.begun rfl hadded (takes_of_none rfl)
      | false => exact (h.recalled k).idle rfl hadded (takes_of_none rfl)

/-- A value of a key that is there is taken. -/
theorem take (h : Remembers capacity history cache) {entry : CacheEntry α}
    (hentry : cache.entries[key]? = some entry) :
    Remembers capacity (history ++ [⟨.take key, false, some entry.value⟩]) (cache.spend key entry) where
  capacity_eq := h.capacity_eq
  size_le := Nat.le_trans (size_spend_le hentry) h.size_le
  recalled k := by
    rw [getElem?_spend]
    by_cases hk : k = key
    · have hold := h.recalled key
      rw [hentry] at hold
      rw [if_pos hk, hk]
      exact hold.took rfl rfl (takes_of_some rfl rfl)
    · rw [if_neg hk]
      exact (h.recalled k).idle rfl rfl (takes_of_ne (Ne.symm hk))

/-- Taking from a key that is absent changes nothing. -/
theorem miss (h : Remembers capacity history cache) (key : String) :
    Remembers capacity (history ++ [⟨.take key, false, none⟩]) cache where
  capacity_eq := h.capacity_eq
  size_le := h.size_le
  recalled k := (h.recalled k).idle rfl rfl (takes_of_none rfl)

theorem erase (h : Remembers capacity history cache) (key : String) :
    Remembers capacity (history ++ [⟨.remove key, false, none⟩]) (cache.erase key) where
  capacity_eq := h.capacity_eq
  size_le := Nat.le_trans Std.HashMap.size_erase_le h.size_le
  recalled k := by
    rw [getElem?_erase]
    by_cases hk : k = key
    · rw [if_pos hk]
      exact Recalled.begun (beq_iff_eq.mpr hk.symm) rfl (takes_of_none rfl)
    · rw [if_neg hk]
      exact (h.recalled k).idle (beq_eq_false_iff_ne.mpr (Ne.symm hk)) rfl (takes_of_none rfl)

/-- **Every use keeps what a cache remembers**, as long as its references can be counted. -/
theorem step (h : Remembers capacity history cache) (use : Use α)
    (hfew : (history.countP fun past => past.use.isAdd) + use.isAdd.toNat < 2 ^ 64) :
    Remembers capacity (record capacity (history, cache) use).1 (record capacity (history, cache) use).2 := by
  cases use with
  | add key value => exact h.add key value hfew
  | take key =>
      cases hentry : cache.entries[key]? with
      | none =>
          rw [record, apply_take_of_none hentry]
          exact h.miss key
      | some entry =>
          rw [record, apply_take_of_some hentry]
          exact h.take hentry
  | remove key => exact h.erase key

end Remembers

/-! ## Runs -/

section Runs

variable {capacity : Nat} {uses : List (Use α)}

theorem run_append (uses : List (Use α)) (use : Use α) :
    run capacity (uses ++ [use]) = record capacity (run capacity uses) use := by
  rw [run, List.foldl_append]
  rfl

/-- The history tells the uses in order. -/
theorem history_uses (capacity : Nat) (uses : List (Use α)) : (run capacity uses).1.map Past.use = uses := by
  induction uses using List.reverseRecOn with
  | nil => rfl
  | append_singleton uses use ih =>
      rw [run_append, record, List.map_append, ih]
      rfl

/-- **After every run with few enough additions, a cache remembers its history.** -/
theorem remembers_run (h : uses.countP Use.isAdd < 2 ^ 64) :
    Remembers capacity (run capacity uses).1 (run capacity uses).2 := by
  induction uses using List.reverseRecOn with
  | nil => exact .start capacity
  | append_singleton uses use ih =>
      rw [List.countP_append] at h
      rw [run_append]
      refine (ih (by omega)).step use ?_
      have hcount : ((run capacity uses).1.countP fun past => past.use.isAdd) = uses.countP Use.isAdd := by
        conv_rhs => rw [← history_uses capacity uses]
        exact (List.countP_map (p := Use.isAdd)).symm
      have hone : use.isAdd.toNat = [use].countP Use.isAdd := by cases use <;> rfl
      rw [hcount, hone]
      exact h

/-- An entry changes by uses of its key and by flushes only. -/
theorem Remembers.getElem?_apply {history : List (Past α)} {cache : MetadataCache α}
    (h : Remembers capacity history cache)
    {use : Use α} (hkept : use.flushes capacity cache = false) {k : String} (hk : k ≠ use.key) :
    (use.apply cache).2.entries[k]? = cache.entries[k]? := by
  cases use with
  | add key value =>
      rw [← h.flushesFor_eq] at hkept
      refine getElem?_add.trans ((if_neg hk).trans ?_)
      rw [hkept]
      rfl
  | take key =>
      cases hentry : cache.entries[key]? with
      | none => rw [apply_take_of_none hentry]
      | some entry =>
          rw [apply_take_of_some hentry]
          exact getElem?_spend.trans (if_neg hk)
  | remove key => exact getElem?_erase.trans (if_neg hk)

/-- Removing a key that is absent changes nothing. -/
theorem erase_of_absent {cache : MetadataCache α} {key : String} (h : cache.contains key = false) :
    (∀ k : String, (cache.erase key).entries[k]? = cache.entries[k]?) ∧ (cache.erase key).size = cache.size := by
  constructor
  · intro k
    rw [getElem?_erase]
    split
    · rename_i hk
      rw [contains_eq, Option.isSome_eq_false_iff, Option.isNone_iff_eq_none] at h
      rw [hk, h]
    · rfl
  · have hmem : key ∉ cache.entries := by
      rw [Std.HashMap.mem_iff_contains]
      exact Bool.eq_false_iff.mp h
    exact Std.HashMap.size_erase.trans (if_neg hmem)

/-- **A metadata cache and its history.** After every run with fewer than `2 ^ 64` additions: the references of
a key are its additions in its era without the values that were taken in it; a value can be taken if and only if
there is one left, and is the one that was added last; taking in vain, and removing what is absent, changes
nothing; a use that does not flush leaves the entries of other keys alone; and there are no more keys than the
capacity, which is one at least, each with a reference. -/
theorem references_of_history (capacity : Nat) (uses : List (Use α)) (h : uses.countP Use.isAdd < 2 ^ 64) :
    let history := (run capacity uses).1
    let cache := (run capacity uses).2
    (∀ key, cache.references key + takes key (era key history) = adds key (era key history)) ∧
    (∀ key, takes key (era key history) < adds key (era key history) →
      ∃ value after, cache.takeOne key = .ok (value, after) ∧ latest key uses = some value) ∧
    (∀ key, takes key (era key history) = adds key (era key history) →
      cache.takeOne key = .error (.notFound key) ∧ (Use.take key).apply cache = (none, cache)) ∧
    (∀ key, cache.contains key = false →
      (∀ k : String, (cache.erase key).entries[k]? = cache.entries[k]?) ∧ (cache.erase key).size = cache.size) ∧
    (∀ use : Use α, use.flushes capacity cache = false → ∀ k : String, k ≠ use.key →
      (use.apply cache).2.entries[k]? = cache.entries[k]?) ∧
    cache.size ≤ max capacity 1 ∧ ∀ key, cache.contains key = true → 0 < cache.references key := by
  intro history cache
  have hremembers : Remembers capacity history cache := remembers_run h
  have hreferences (key : String) :
      cache.references key + takes key (era key history) = adds key (era key history) := by
    rw [references_eq]
    exact (hremembers.recalled key).left.symm
  -- An entry is there just where a reference is left, and then it holds the latest value.
  have hentries (key : String) : (cache.entries[key]? = none ∧ cache.references key = 0) ∨
      ∃ entry, cache.entries[key]? = some entry ∧ 0 < cache.references key ∧
        latest key uses = some entry.value := by
    have hrecalled := hremembers.recalled key
    rw [references_eq]
    cases hentry : cache.entries[key]? with
    | none => exact .inl ⟨rfl, rfl⟩
    | some entry =>
        rw [hentry] at hrecalled
        rw [← history_uses capacity uses]
        cases hrecalled with
        | present hpos _ hlatest => exact .inr ⟨entry, rfl, hpos, hlatest⟩
  refine ⟨hreferences, fun key hleft => ?_, fun key hspent => ?_, fun key => erase_of_absent,
    fun use hkept k => hremembers.getElem?_apply hkept, ?_, fun key hcontains => ?_⟩
  · have hsum := hreferences key
    rcases hentries key with ⟨-, hzero⟩ | ⟨entry, hentry, -, hlatest⟩
    · omega
    · exact ⟨entry.value, cache.spend key entry, takeOne_of_some hentry, hlatest⟩
  · have hsum := hreferences key
    rcases hentries key with ⟨hentry, -⟩ | ⟨entry, -, hpos, -⟩
    · exact ⟨takeOne_of_none hentry, apply_take_of_none hentry⟩
    · omega
  · rw [← hremembers.capacity_eq]
    exact hremembers.size_le
  · rcases hentries key with ⟨hentry, -⟩ | ⟨entry, -, hpos, -⟩
    · rw [contains_eq, hentry] at hcontains
      cases hcontains
    · exact hpos

/-- A second key comes to a cache that has room for one, and both are asked for. -/
def contested : List (Use Nat) := [.add "a" 1, .add "b" 2, .add "b" 3, .take "a", .take "b"]

theorem history_contested : (run 1 contested).1 =
    [⟨.add "a" 1, false, none⟩, ⟨.add "b" 2, true, none⟩, ⟨.add "b" 3, false, none⟩, ⟨.take "a", false, none⟩,
      ⟨.take "b", false, some 3⟩] := by
  simp [run, contested, record, Use.apply, Use.flushes, add, takeOne, takeOne?, flushesFor, size, references,
    contains, ofCapacity, maxReferences, UInt64.size, Std.HashMap.size_insert]

/-- The second key has flushed the first one, was added twice, and taken once. -/
theorem references_contested :
    contested.countP Use.isAdd < 2 ^ 64 ∧ (run 1 contested).2.references "b" = 1 ∧
      (run 1 contested).2.references "a" = 0 ∧ (run 1 contested).2.size ≤ 1 := by
  have hfew : contested.countP Use.isAdd < 2 ^ 64 := by decide
  obtain ⟨hreferences, -, -, -, -, hsize, -⟩ := references_of_history 1 contested hfew
  have hfirst := hreferences "a"
  have hsecond := hreferences "b"
  rw [history_contested] at hfirst hsecond
  exact ⟨hfew, Nat.add_right_cancel hsecond, hfirst, hsize⟩

end Runs

end MetadataCache

end StorageDispatch
