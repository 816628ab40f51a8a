import StorageDispatch.Context.Files
import StorageDispatch.Url

set_option autoImplicit false

/-! # Directories

Opening, listing and closing. A backend whose listing does not come with metadata gets that emulated:
the next entry is listed, and its URL is dispatched as a stat of its own.
-/

namespace StorageDispatch

namespace Context

variable {σ : Type}

def opendir (url : String) : Engine σ DescriptorKey := do
  storeHandle .opendir .directory url (← dispatchUrl (.opendir url))

/-- The next entry from the plugin that opened a directory, as part of an operation. -/
def nextEntry (operation : Operation) (id : HandleId) : Engine σ (Option DirEntry) :=
  dispatchHandle operation id fun plugin => do
    let dir ← perform (openHandle id)
    let answer ← perform (call plugin.backend (.readdir dir))
    fromReply operation answer

def readdir (key : DescriptorKey) : Engine σ (Option DirEntry) := do
  nextEntry .readdir (← lookupHandle .readdir .directory key)

/-- An entry with its metadata, which is found by a stat of its own. -/
def withMetadata (id : HandleId) (entry : DirEntry) : Engine σ (DirEntry × FileStat) := do
  let handle := (← perform (openHandle id)).handle
  match handle.path with
  | none => throw (.directoryWithoutUrl handle.owner)
  | some dir =>
    let url := childUrl dir entry.name
    perform (log (.emulatingListing url))
    let metadata ← stat url
    return (entry, metadata)

/-- The next entry of a directory with its metadata, as the plugin itself lists it; nothing if it leaves that
to the dispatcher. -/
def nativeListing (id : HandleId) : Engine σ (Option (Option (DirEntry × FileStat))) :=
  dispatchHandle .readdirPlus id fun plugin => do
    let dir ← perform (openHandle id)
    match ← perform (call plugin.backend (.readdirPlus dir)) with
    | some reply => some <$> fromReply .readdirPlus reply
    | none => return none

/-- The next entry with its metadata, by a listing and a stat. -/
def emulateReaddirPlus (id : HandleId) : Engine σ (Option (DirEntry × FileStat)) := do
  match ← nextEntry .readdirPlus id with
  | none => return none
  | some entry => some <$> withMetadata id entry

/-- The next entry of a directory with its metadata; nothing at its end. -/
def readdirPlus (key : DescriptorKey) : Engine σ (Option (DirEntry × FileStat)) := do
  let id ← lookupHandle .readdirPlus .directory key
  match ← nativeListing id with
  | some entry => return entry
  | none => emulateReaddirPlus id

def closedir (key : DescriptorKey) : Engine σ Unit := closeKey .closedir .directory key

end Context

end StorageDispatch
