import Std.Data.HashMap
import StorageDispatch.Error
import StorageDispatch.Text.Debug

set_option autoImplicit false

/-! # Metadata cache

A backend that learns metadata for free, from a directory listing say, keeps it here for the stat that
is likely to follow. An entry lives as long as it has references: every `add` brings one and every
`takeOne?` uses one up. A full cache is flushed to make room for a new key.
-/

namespace StorageDispatch

/-- The most references that an entry counts. Further ones are not counted. -/
def maxReferences : Nat := UInt64.size - 1

structure CacheEntry (α : Type) where
  references : Nat
  value : α

/-- Values by key, with reference counts. -/
structure MetadataCache (α : Type) where
  /-- The most keys. -/
  capacity : Nat
  entries : Std.HashMap String (CacheEntry α) := ∅

namespace MetadataCache

variable {α : Type}

/-- An empty cache. It has room for one key at least. -/
def ofCapacity (capacity : Nat) : MetadataCache α := { capacity := max capacity 1 }

def size (cache : MetadataCache α) : Nat := cache.entries.size

def isEmpty (cache : MetadataCache α) : Bool := cache.size == 0

/-- Outstanding references of a key, zero when it is absent. -/
def references (cache : MetadataCache α) (key : String) : Nat :=
  match cache.entries[key]? with
  | some entry => entry.references
  | none => 0

/-- Whether adding `key` flushes the cache first: it is full and `key` is new. -/
def flushesFor (cache : MetadataCache α) (key : String) : Bool :=
  cache.entries[key]?.isNone && decide (cache.capacity ≤ cache.size)

/-- Add one reference to `key` and store `value` as its value. -/
def add (cache : MetadataCache α) (key : String) (value : α) : MetadataCache α :=
  let entries := if cache.flushesFor key then ∅ else cache.entries
  let references := min (cache.references key + 1) maxReferences
  { cache with entries := entries.insert key { references, value } }

/-- The value of `key`, and the cache with one reference less. The last reference takes the entry
with it. -/
def takeOne? (cache : MetadataCache α) (key : String) : Option (α × MetadataCache α) :=
  cache.entries[key]?.map fun entry =>
    let entries :=
      if entry.references ≤ 1 then cache.entries.erase key
      else cache.entries.insert key { entry with references := entry.references - 1 }
    (entry.value, { cache with entries })

/-- The value of `key` and the cache with one reference less, or the reason why there is none. -/
def takeOne (cache : MetadataCache α) (key : String) : Except Error (α × MetadataCache α) :=
  match cache.takeOne? key with
  | some taken => .ok taken
  | none => .error (.notFound key)

def contains (cache : MetadataCache α) (key : String) : Bool := cache.entries.contains key

/-- The cache without `key`, however many references it has. -/
def erase (cache : MetadataCache α) (key : String) : MetadataCache α :=
  { cache with entries := cache.entries.erase key }

def debug (cache : MetadataCache α) : String :=
  Text.record "MetadataCache"
    [("len", toString cache.size), ("capacity", toString cache.capacity)]

end MetadataCache

end StorageDispatch
