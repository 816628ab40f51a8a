import StorageDispatch.Context.Directories
import StorageDispatch.Context.Staging

set_option autoImplicit false

/-! # The end of a context

Tearing a context down releases the handles that are still open, without closing them, and tears every
backend down.
-/

namespace StorageDispatch

namespace Context

variable {σ : Type}

/-- Release every open handle and tear the backends down. Doing it again is harmless. -/
def teardown : Act σ Unit := do
  let files ← clearMadeTable .file
  let directories ← clearMadeTable .directory
  if files + directories > 0 then
    log (.handlesReleased files directories)
  Registry.teardown

/-- The end of a context: what is left to tear down is torn down. -/
def dispose : Act σ Unit := do
  teardown
  Registry.teardown

end Context

end StorageDispatch
