import StorageDispatch.Text.Debug

set_option autoImplicit false

/-! # Open handles

A backend answers an open with a `FileHandle`: who owns it, the URL it was opened with, the last known
position, and a `Payload` by which the backend finds the file again. Once the dispatcher has taken it
in, the handle has an identity of its own, and `OpenHandle` is what a backend is shown of it in later
calls.
-/

namespace StorageDispatch

/-- What a backend keeps in a handle, or attaches to it. -/
inductive Payload
  /-- Nothing. -/
  | none
  /-- A number. -/
  | number (value : Nat)
  /-- A text. -/
  | text (value : String)
  /-- An open file of the in-memory storage. -/
  | openFile (index : Nat)
  /-- An open directory of the in-memory storage. -/
  | openListing (index : Nat)
  deriving DecidableEq, Repr, Inhabited

namespace Payload

def number? : Payload → Option Nat
  | number value => some value
  | _ => Option.none

def text? : Payload → Option String
  | text value => some value
  | _ => Option.none

end Payload

/-- The greatest position in a file. Positions saturate there. -/
def maxOffset : Nat := UInt64.size - 1

/-- An open file or directory, bound to the backend that opened it. -/
structure FileHandle where
  /-- Name of the backend; later calls find the backend by it. -/
  owner : String
  /-- URL that the handle was opened with, if known. -/
  path : Option String := none
  /-- Last known position. -/
  offset : Nat := 0
  /-- By what the backend finds the file again. -/
  payload : Payload := .none
  /-- Data attached to the handle. -/
  userData : Option Payload := none
  deriving DecidableEq, Repr, Inhabited

namespace FileHandle

def withPath (handle : FileHandle) (path : String) : FileHandle := { handle with path := some path }

/-- Record the URL, unless one is known. -/
def setPathIfMissing (handle : FileHandle) (path : String) : FileHandle :=
  match handle.path with
  | some _ => handle
  | none => handle.withPath path

def setOffset (handle : FileHandle) (offset : Nat) : FileHandle := { handle with offset }

def advance (handle : FileHandle) (count : Nat) : FileHandle :=
  handle.setOffset (min (handle.offset + count) maxOffset)

def debug (handle : FileHandle) : String :=
  Text.record "FileHandle"
    [("owner", Text.quoted handle.owner),
     ("path", Text.optional Text.quoted handle.path),
     ("offset", toString handle.offset),
     ("user_data", toString handle.userData.isSome)]

end FileHandle

abbrev HandleId := Nat

/-- A handle as a backend is shown it: its identity and its present contents. -/
structure OpenHandle where
  id : HandleId
  handle : FileHandle
  deriving DecidableEq, Repr, Inhabited

end StorageDispatch
