import StorageDispatch.Context.Namespace

set_option autoImplicit false

/-! # Files

Opening, reading, writing, seeking and closing. A backend without positioned transfers of its own gets
them emulated: a seek, and then a plain transfer if the seek landed where it should.

Every handle keeps the last position that the backend made known: a plain transfer moves it by the
reported count, a seek and an emulated transfer set it, and a transfer that the backend positions itself
leaves it alone.
-/

namespace StorageDispatch

namespace Context

variable {σ : Type}

/-! ## Opening -/

def closingCall (resource : Resource) (opened : OpenHandle) : Call :=
  match resource with
  | .file => .close opened
  | .directory => .closedir opened

def closingReply (resource : Resource) (opened : OpenHandle) :
    (closingCall resource opened).Answer → Reply Unit :=
  match resource with
  | .file => id
  | .directory => id

/-- Close a handle with the plugin that opened it, as part of an operation. -/
def closeWithOwner (operation : Operation) (resource : Resource) (id : HandleId) : Engine σ Unit :=
  dispatchHandle operation id fun plugin => do
    let opened ← perform (openHandle id)
    let answer ← perform (call plugin.backend (closingCall resource opened))
    fromReply operation (closingReply resource opened answer)

/-- Close a handle for which the table had no room. That this may fail changes nothing for the caller. -/
def closeRejected (operation : Operation) (resource : Resource) (id : HandleId) (reason : Error) :
    Act σ Unit := do
  log (.noRoom operation reason)
  match ← (closeWithOwner operation resource id).run with
  | .ok () => return
  | .error error => log (.rejectedCloseFailed operation error)

/-- Put a handle that was taken in into its table. If there is no room, it is closed again. -/
def storeAdopted (operation : Operation) (resource : Resource) (id : HandleId) : Engine σ DescriptorKey := do
  match ← perform (insertHandle resource id).run with
  | .ok key => return key
  | .error error =>
    perform (closeRejected operation resource id error)
    throw error

/-- Take in a handle that a backend just opened, and put it into its table. -/
def storeHandle (operation : Operation) (resource : Resource) (url : String) (handle : FileHandle) :
    Engine σ DescriptorKey := do
  storeAdopted operation resource (← perform (adopt (handle.setPathIfMissing url)))

def openFile (url : String) (flags : UInt32) (mode : Mode) : Engine σ DescriptorKey := do
  storeHandle .openFile .file url (← dispatchUrl (.openFile url flags mode))

/-! ## Plain transfers -/

/-- Read at the present position into a buffer. Returns the reported count and the buffer. -/
def read (key : DescriptorKey) (buffer : Bytes) : Engine σ (Nat × Bytes) := do
  if buffer.isEmpty then
    counted .read (throw .emptyBuffer)
  else
    let id ← lookupHandle .read .file key
    dispatchHandle .read id fun plugin => do
      let file ← perform (openHandle id)
      let answer ← perform (call plugin.backend (.read file buffer.length))
      let received ← fromReply .read answer
      perform (updateHandle id fun handle => handle.advance received.count)
      return (received.count, received.data.overlay buffer)

def write (key : DescriptorKey) (data : Bytes) : Engine σ Nat := do
  if data.isEmpty then
    counted .write (throw .emptyBuffer)
  else
    let id ← lookupHandle .write .file key
    dispatchHandle .write id fun plugin => do
      let file ← perform (openHandle id)
      let answer ← perform (call plugin.backend (.write file data))
      let count ← fromReply .write answer
      perform (updateHandle id fun handle => handle.advance count)
      return count

def lseek (key : DescriptorKey) (target : SeekTarget) : Engine σ Nat := do
  let id ← lookupHandle .lseek .file key
  dispatchHandle .lseek id fun plugin => do
    let file ← perform (openHandle id)
    let answer ← perform (call plugin.backend (.lseek file target))
    let offset ← fromReply .lseek answer
    perform (updateHandle id fun handle => handle.setOffset offset)
    return offset

/-! ## Positioned transfers -/

/-- Serve a positioned transfer by a seek and a plain transfer. If the seek lands elsewhere, nothing is
transferred. `count` tells how many bytes a transfer reports. -/
def emulate {α : Type} (operation : Operation) (plugin : Plugin σ) (id : HandleId)
    (offset size : Nat) (transfer : OpenHandle → Act σ (Reply α)) (count : α → Nat) : Engine σ α := do
  let file ← perform (openHandle id)
  perform (log (.emulatingTransfer operation file.handle.owner offset size))
  perform (measure (.emulated operation))
  let answer ← perform (call plugin.backend (.lseek file (.start offset)))
  let landed ← fromReply operation answer
  if landed = offset then
    let a ← fromReply operation (← perform (transfer file))
    perform (updateHandle id fun handle => handle.setOffset (min (offset + count a) maxOffset))
    return a
  else
    throw (.overflow operation.name offset landed)

/-- Read at a given position into a buffer. Returns the reported count and the buffer. -/
def pread (key : DescriptorKey) (buffer : Bytes) (offset : Nat) : Engine σ (Nat × Bytes) := do
  let id ← lookupHandle .pread .file key
  dispatchHandle .pread id fun plugin => do
    let file ← perform (openHandle id)
    let received ←
      match ← perform (call plugin.backend (.pread file buffer.length offset)) with
      | some reply => fromReply .pread reply
      | none =>
        emulate .pread plugin id offset buffer.length
          (fun file => call plugin.backend (.read file buffer.length)) Received.count
    return (received.count, received.data.overlay buffer)

/-- Write at a given position. Returns the reported count. -/
def pwrite (key : DescriptorKey) (data : Bytes) (offset : Nat) : Engine σ Nat := do
  let id ← lookupHandle .pwrite .file key
  dispatchHandle .pwrite id fun plugin => do
    let file ← perform (openHandle id)
    match ← perform (call plugin.backend (.pwrite file data offset)) with
    | some reply => fromReply .pwrite reply
    | none =>
      emulate .pwrite plugin id offset data.length
        (fun file => call plugin.backend (.write file data)) (fun count => count)

/-! ## Closing -/

/-- Close what is open under a key. If the backend fails, the key stays good. -/
def closeKey (operation : Operation) (resource : Resource) (key : DescriptorKey) : Engine σ Unit := do
  let id ← lookupHandle operation resource key
  closeWithOwner operation resource id
  discard (counted operation (removeHandle resource key))

def close (key : DescriptorKey) : Engine σ Unit := closeKey .close .file key

end Context

end StorageDispatch
