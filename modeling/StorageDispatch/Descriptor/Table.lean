import StorageDispatch.Descriptor.Key
import StorageDispatch.Error
import StorageDispatch.Text.Debug

set_option autoImplicit false

/-! # Descriptor tables

A `DescriptorTable α` hands out keys for entries of type `α`. It is a slot map: an array of slots, a
stack of vacant slots to reuse, and a count of live entries. Each slot carries a generation that goes
up by one, modulo 2^32, whenever its entry is released, and a key is good only in the generation that
it was issued in.

```text
 slots: [ g0 | a ] [ g3 | - ] [ g1 | b ] ...
 free:  [ 1 ]
```

`find?` is the table seen as a partial map from keys.
-/

namespace StorageDispatch

/-- One slot: its present generation and its entry, if it is occupied. -/
structure Slot (α : Type) where
  generation : UInt32 := 0
  entry : Option α := none
  deriving Repr

namespace Slot

variable {α : Type}

def occupy (slot : Slot α) (a : α) : Slot α := { slot with entry := some a }

/-- The slot after its entry is released. A vacant slot has nothing to release. -/
def vacate (slot : Slot α) : Slot α :=
  match slot.entry with
  | some _ => { generation := slot.generation + 1, entry := none }
  | none => slot

end Slot

/-- Open handles by key. -/
structure DescriptorTable (α : Type) where
  /-- What the table holds, for error texts. -/
  name : String
  /-- The most entries that may be live. -/
  limit : Nat
  slots : Array (Slot α) := #[]
  /-- Vacant slots, the next one to reuse first. -/
  free : List Nat := []
  /-- Number of occupied slots. -/
  live : Nat := 0
  deriving Repr

namespace DescriptorTable

variable {α : Type}

def badKey (table : DescriptorTable α) (key : DescriptorKey) : Error :=
  .badFileDescriptor s!"no open {table.name} with descriptor {key.display}"

def find? (table : DescriptorTable α) (key : DescriptorKey) : Option α := do
  let index ← key.index?
  let slot ← table.slots[index]?
  if slot.generation = key.generation then slot.entry else none

/-- The entry with a key, or the reason why there is none. -/
def get (table : DescriptorTable α) (key : DescriptorKey) : Except Error α :=
  match table.find? key with
  | some a => .ok a
  | none => .error (table.badKey key)

/-- The entry with the key that is a given word. -/
def getRaw (table : DescriptorTable α) (raw : UInt64) : Except Error α :=
  match DescriptorKey.ofRaw? raw with
  | some key => table.get key
  | none => .error (.invalidArgument s!"{table.name} descriptor 0")

def generationAt (table : DescriptorTable α) (index : Nat) : UInt32 :=
  match table.slots[index]? with
  | some slot => slot.generation
  | none => 0

/-- Add an entry and issue its key. The slot released last is reused first, and a new slot is added
only when none is vacant. -/
def insert (table : DescriptorTable α) (a : α) :
    Except Error (DescriptorKey × DescriptorTable α) :=
  if table.limit ≤ table.live then .error .tooManyOpenFiles
  else
    match table.free with
    | index :: free =>
      .ok (.pack index.toUInt32 (table.generationAt index),
        { table with slots := table.slots.modify index (·.occupy a), free, live := table.live + 1 })
    | [] =>
      if table.slots.size < DescriptorKey.slotCapacity then
        .ok (.pack table.slots.size.toUInt32 0,
          { table with slots := table.slots.push { entry := some a }, live := table.live + 1 })
      else .error .tooManyOpenFiles

def release (table : DescriptorTable α) (index : Nat) : DescriptorTable α :=
  { table with
    slots := table.slots.modify index Slot.vacate
    free := index :: table.free
    live := table.live - 1 }

def remove (table : DescriptorTable α) (key : DescriptorKey) :
    Except Error (α × DescriptorTable α) :=
  match table.find? key, key.index? with
  | some a, some index => .ok (a, table.release index)
  | _, _ => .error (table.badKey key)

def occupied (table : DescriptorTable α) : List Nat :=
  (List.range table.slots.size).filter fun index =>
    match table.slots[index]? with
    | some slot => slot.entry.isSome
    | none => false

/-- The table after every entry is released, in the order of the slots. -/
def clear (table : DescriptorTable α) : DescriptorTable α :=
  { table with
    slots := table.slots.map Slot.vacate
    free := table.occupied.reverse ++ table.free
    live := 0 }

def isEmpty (table : DescriptorTable α) : Bool := table.live == 0

def debug (table : DescriptorTable α) : String :=
  Text.record "DescriptorTable"
    [("name", Text.quoted table.name), ("live", toString table.live), ("limit", toString table.limit)]

end DescriptorTable

end StorageDispatch
