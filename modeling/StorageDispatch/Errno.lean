set_option autoImplicit false

/-! # Error numbers

A backend names the cause of a failure by a Linux error number. `Errno` is such a number, and the
constants below are the ones that the dispatcher and the in-memory storage produce themselves.
-/

namespace StorageDispatch

/-- A Linux error number, from 1 to 4095. -/
structure Errno where
  code : Nat
  deriving DecidableEq, Repr, Inhabited

namespace Errno

def noEntry : Errno := ⟨2⟩
def io : Errno := ⟨5⟩
def badDescriptor : Errno := ⟨9⟩
def fileExists : Errno := ⟨17⟩
def crossDevice : Errno := ⟨18⟩
def notDirectory : Errno := ⟨20⟩
def invalid : Errno := ⟨22⟩
def tooManyOpen : Errno := ⟨24⟩
def notImplemented : Errno := ⟨38⟩
def noData : Errno := ⟨61⟩
def overflow : Errno := ⟨75⟩
def protocolNotSupported : Errno := ⟨93⟩

end Errno

end StorageDispatch
