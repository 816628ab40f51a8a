import Std.Data.HashMap
import StorageDispatch.Backend.Basic
import StorageDispatch.Memory.Store

set_option autoImplicit false

/-! # The in-memory backend

`Memory.backend id spec` is a backend whose files are in memory. A `Memory.Spec` says which URLs it
claims, which of the optional actions it has, and which store it works on; several backends may share a
store. `Memory.State` is the world of such backends: the stores, what is open in them, and how often
some actions were called.
-/

namespace StorageDispatch.Memory

structure OpenFile where
  url : String
  position : Nat := 0
  deriving DecidableEq, Repr, Inhabited

/-- An open directory: the names it had when it was opened, and how many were listed. -/
structure OpenListing where
  names : List String
  next : Nat := 0
  deriving DecidableEq, Repr, Inhabited

/-- How often some actions of a backend were called. -/
structure Tally where
  teardowns : Nat := 0
  preads : Nat := 0
  closes : Nat := 0
  deriving DecidableEq, Repr, Inhabited

/-- The world of in-memory backends. -/
structure State where
  /-- Stores by label. -/
  stores : Std.TreeMap String Store := ∅
  openFiles : Array OpenFile := #[]
  openListings : Array OpenListing := #[]
  tallies : Std.HashMap InstanceId Tally := ∅
  deriving Inhabited

/-- What an in-memory backend is to be like. -/
structure Spec where
  name : String
  /-- How the URLs begin that the backend claims. -/
  scheme : String
  priority : Int := dataPriority
  /-- The capabilities that the backend claims, all if `none`. -/
  claims : Option (List Capability) := none
  /-- Whether it positions reads itself. -/
  nativePread : Bool := false
  /-- Whether it removes lists of files. -/
  bulkUnlink : Bool := false
  /-- Whether it stages lists of files. -/
  batchStaging : Bool := false
  /-- How many bytes past the requested position every seek lands. -/
  seekSkew : Nat := 0
  /-- The label of its store. -/
  store : String
  deriving DecidableEq, Repr, Inhabited

/-! ## The world -/

namespace State

/-- The store under a label; it is empty until something is put into it. -/
def store (state : State) (label : String) : Store := (state.stores[label]?).getD {}

def withStore (state : State) (label : String) (store : Store) : State :=
  { state with stores := state.stores.insert label store }

/-- Change the store under a label, if that succeeds. -/
def change (state : State) (label : String) (f : Store → Reply Store) : Reply Unit × State :=
  match f (state.store label) with
  | .ok store => (.ok (), state.withStore label store)
  | .error error => (.error error, state)

def tally (state : State) (id : InstanceId) : Tally := (state.tallies[id]?).getD {}

def count (state : State) (id : InstanceId) (add : Tally → Tally) : State :=
  { state with tallies := state.tallies.insert id (add (state.tally id)) }

def file? (state : State) (opened : OpenHandle) : Option (Nat × OpenFile) :=
  match opened.handle.payload with
  | .openFile index => (state.openFiles[index]?).map fun file => (index, file)
  | _ => none

def listing? (state : State) (opened : OpenHandle) : Option (Nat × OpenListing) :=
  match opened.handle.payload with
  | .openListing index => (state.openListings[index]?).map fun listing => (index, listing)
  | _ => none

def moveTo (state : State) (index position : Nat) : State :=
  { state with openFiles := state.openFiles.modify index fun file => { file with position } }

def record (state : State) (label : String) (transfer : Transfer) : State :=
  state.withStore label ((state.store label).record transfer)

end State

/-! ## Actions -/

def notFile : BackendError := ⟨.badDescriptor, "not a mock file"⟩

def notListing : BackendError := ⟨.badDescriptor, "not a mock directory"⟩

/-- A seek before the beginning or past the greatest position. -/
def negativeOffset : BackendError := ⟨.invalid, "negative offset"⟩

def unknownToken : BackendError := ⟨.invalid, "unknown token"⟩

namespace Spec

def claimsUrl (spec : Spec) (url : String) (capability : Capability) : Bool :=
  (match spec.claims with
    | some capabilities => capabilities.contains capability
    | none => true) && beginsWith url spec.scheme

end Spec

/-- The flag that asks for a missing file to be created. -/
def createFlag : UInt32 := 0o100

/-- Open a file, which is created empty if it is missing and the flags ask for that. -/
def openFile (spec : Spec) (url : String) (flags : UInt32) (state : State) :
    Reply FileHandle × State :=
  let store := state.store spec.store
  let opened (state : State) : Reply FileHandle × State :=
    (.ok { owner := spec.name, payload := .openFile state.openFiles.size },
      { state with openFiles := state.openFiles.push { url } })
  if store.hasFile url then opened state
  else if flags &&& createFlag = 0 then (.error Store.noFile, state)
  else opened (state.withStore spec.store (store.putFile url []))

def opendir (spec : Spec) (url : String) (state : State) : Reply FileHandle × State :=
  match (state.store spec.store).listing url with
  | .ok names =>
    (.ok { owner := spec.name, payload := .openListing state.openListings.size },
      { state with openListings := state.openListings.push { names } })
  | .error error => (.error error, state)

def readdir (dir : OpenHandle) (state : State) : Reply (Option DirEntry) × State :=
  match state.listing? dir with
  | some (index, listing) =>
    (.ok ((listing.names[listing.next]?).map fun name => { name }),
      { state with
        openListings :=
          state.openListings.modify index fun listing => { listing with next := listing.next + 1 } })
  | none => (.error notListing, state)

/-- What a file holds from a position on. -/
def readAt (spec : Spec) (file : OpenFile) (size position : Nat) (state : State) : Reply Received :=
  match (state.store spec.store).contents? file.url with
  | some contents =>
    let data := contents.slice position size
    .ok { count := data.length, data }
  | none => .error Store.vanished

def read (spec : Spec) (opened : OpenHandle) (size : Nat) (state : State) : Reply Received × State :=
  match state.file? opened with
  | some (index, file) =>
    let state := state.record spec.store (.read index file.position)
    match readAt spec file size file.position state with
    | .ok received => (.ok received, state.moveTo index (file.position + received.count))
    | .error error => (.error error, state)
  | none => (.error notFile, state)

def write (spec : Spec) (opened : OpenHandle) (data : Bytes) (state : State) : Reply Nat × State :=
  match state.file? opened with
  | some (index, file) =>
    let store := state.store spec.store
    match store.contents? file.url with
    | some contents =>
      let store := store.putFile file.url (contents.splice file.position data)
      (.ok data.length,
        (state.withStore spec.store store).moveTo index (file.position + data.length))
    | none => (.error Store.vanished, state)
  | none => (.error notFile, state)

/-- Read at a given position, if the backend positions reads itself. -/
def pread (spec : Spec) (id : InstanceId) (opened : OpenHandle) (size offset : Nat) (state : State) :
    Option (Reply Received) × State :=
  if spec.nativePread then
    let state := state.count id fun tally => { tally with preads := tally.preads + 1 }
    match state.file? opened with
    | some (_, file) => (some (readAt spec file size offset state), state)
    | none => (some (.error notFile), state)
  else (none, state)

/-- The position that a seek asks for, given the present one and the size of the file. -/
def seekPosition? (target : SeekTarget) (current size : Nat) : Option Nat :=
  let within (position : Int) : Option Nat :=
    if 0 ≤ position ∧ position ≤ maxOffset then some position.toNat else none
  match target with
  | .start offset => some offset
  | .current delta => within (current + delta)
  | .fromEnd delta => within (size + delta)

/-- Where a seek to a position lands. Positions are 64-bit words and wrap around. -/
def landing (spec : Spec) (position : Nat) : Nat := (position + spec.seekSkew) % (maxOffset + 1)

def lseek (spec : Spec) (opened : OpenHandle) (target : SeekTarget) (state : State) :
    Reply Nat × State :=
  match state.file? opened with
  | some (index, file) =>
    let size := (((state.store spec.store).contents? file.url).getD []).length
    match seekPosition? target file.position size with
    | some position =>
      let landed := landing spec position
      (.ok landed, (state.moveTo index landed).record spec.store (.seek index landed))
    | none => (.error negativeOffset, state)
  | none => (.error notFile, state)

def unlinkEach (label : String) : List String → State → List (Reply Unit) × State
  | [], state => ([], state)
  | url :: urls, state =>
    let (reply, state) := state.change label (·.unlink url)
    let (replies, state) := unlinkEach label urls state
    (reply :: replies, state)

def fileToken (url : String) : String := "token:" ++ url

def batchToken (urls : List String) : String := "batch:" ++ ",".intercalate urls

/-- Bring a file online, at once unless the request is asynchronous. -/
def bringOnline (spec : Spec) (url : String) (options : StageOptions) (state : State) :
    Reply StageStatus :=
  if (state.store spec.store).hasFile url then
    .ok { token := fileToken url, online := !options.asynchronous }
  else .error Store.noFile

def bringOnlineList (spec : Spec) (urls : List String) (options : StageOptions) (state : State) :
    Reply (StageBatch BackendError) :=
  if spec.batchStaging then
    .ok
      { token := some (batchToken urls)
        files := (state.store spec.store).perFile urls (!options.asynchronous) }
  else .error (.unsupported "bring_online_list")

/-- A later action on a list of files that was brought online under a token. -/
def onBatch {α : Type} (spec : Spec) (urls : List String) (token : String) (a : α) (state : State) :
    Reply (List (Reply α)) :=
  if spec.batchStaging then
    if token = batchToken urls then .ok ((state.store spec.store).perFile urls a)
    else .error unknownToken
  else .error (.unsupported "batch staging")

/-! ## The backend -/

def respond (id : InstanceId) (spec : Spec) : (call : Call) → State → call.Answer × State
  | .checkUrl url capability, state => (.ok (spec.claimsUrl url capability), state)
  | .teardown, state => ((), state.count id fun tally => { tally with teardowns := tally.teardowns + 1 })
  | .rename source destination, state => state.change spec.store (·.rename source destination)
  | .symlink target link, state => state.change spec.store fun store => .ok (store.symlink target link)
  | .stat url, state => ((state.store spec.store).stat url, state)
  | .readlink url, state => ((state.store spec.store).readlink url, state)
  | .mkdir url _ recursive, state => state.change spec.store (·.mkdir url recursive)
  | .rmdir url, state => state.change spec.store (·.rmdir url)
  | .unlink url, state => state.change spec.store (·.unlink url)
  | .unlinkList urls, state =>
    if spec.bulkUnlink then
      let (replies, state) := unlinkEach spec.store urls state
      (some replies, state)
    else (none, state)
  | .opendir url, state => opendir spec url state
  | .readdir dir, state => readdir dir state
  | .closedir _, state => (.ok (), state)
  | .openFile url flags _, state => openFile spec url flags state
  | .read file size, state => read spec file size state
  | .write file data, state => write spec file data state
  | .pread file size offset, state => pread spec id file size offset state
  | .lseek file target, state => lseek spec file target state
  | .close _, state => (.ok (), state.count id fun tally => { tally with closes := tally.closes + 1 })
  | .getxattr url name, state => ((state.store spec.store).getxattr url name, state)
  | .listxattr url, state => (.ok ((state.store spec.store).listxattr url), state)
  | .setxattr url name value mode, state => state.change spec.store (·.setxattr url name value mode)
  | .bringOnline url options, state => (bringOnline spec url options state, state)
  | .bringOnlinePoll url token, state => (.ok (token == fileToken url), state)
  | .releaseFile url token, state =>
    (if token = fileToken url then .ok () else .error unknownToken, state)
  | .bringOnlineList urls options, state => (bringOnlineList spec urls options state, state)
  | .bringOnlinePollList urls token, state => (onBatch spec urls token true state, state)
  | .releaseFileList urls token, state => (onBatch spec urls token () state, state)
  | .abortFiles urls token, state => (onBatch spec urls token () state, state)
  | .access url mode, state => ((Call.access url mode).unimplemented, state)
  | .chmod url mode, state => ((Call.chmod url mode).unimplemented, state)
  | .lstat url, state => ((Call.lstat url).unimplemented, state)
  | .readdirPlus dir, state => ((Call.readdirPlus dir).unimplemented, state)
  | .pwrite file data offset, state => ((Call.pwrite file data offset).unimplemented, state)

def backend (id : InstanceId) (spec : Spec) : Backend State where
  id := id
  name := spec.name
  priority := spec.priority
  respond := respond id spec

end StorageDispatch.Memory
