import Mathlib.Logic.Function.Basic
import StorageDispatch.Memory.Backend
import StorageDispatch.Proofs.Context.Silence
import StorageDispatch.Proofs.Descriptor.Bindings

set_option autoImplicit false

/-! # Files and what is open

To its users, storage in memory is contents by URL and, under every key that is good, an open file with a
position in it. `Files.Step` says what each request does to such `Files`, without stores, handles or backends:
a transfer reads or splices the contents of its file and moves the position, and nothing else.

Below it are the same facts about the backend: what its actions answer, and what they change in its world
(`State.Became`).
-/

namespace StorageDispatch

namespace Bytes

/-- What a transfer from a position of a file into a buffer comes to: how many bytes there are for it, and the
buffer with these bytes at its front. -/
def received (contents : Bytes) (start : Nat) (buffer : Bytes) : Nat × Bytes :=
  let n := min buffer.length (contents.length - start)
  (n, (contents.drop start).take n ++ buffer.drop n)

theorem length_slice (contents : Bytes) (start count : Nat) :
    (contents.slice start count).length = min count (contents.length - start) := by
  simp [slice]

theorem received_eq (contents : Bytes) (start : Nat) (buffer : Bytes) :
    contents.received start buffer =
      ((contents.slice start buffer.length).length,
        (contents.slice start buffer.length).overlay buffer) := by
  have hle : (contents.slice start buffer.length).length ≤ buffer.length := by
    rw [length_slice]
    exact Nat.min_le_left _ _
  rw [overlay, List.take_of_length_le hle, length_slice, received]
  refine Prod.ext rfl ?_
  rw [slice, ← List.length_drop, List.take_eq_take_min (i := buffer.length)]

end Bytes

/-- Whether a request opens, closes or uses a file, at a position that there can be. -/
def Request.UsesFiles {σ : Type} : Request σ → Prop
  | .openFile .. | .read .. | .write .. | .close _ => True
  | .pread _ _ offset | .pwrite _ _ offset | .lseek _ (.start offset) => offset ≤ maxOffset
  | .lseek .. => True
  | _ => False

namespace Memory

/-! ## The files of a store, and what is open -/

structure Files where
  contents : String → Option Bytes
  opened : DescriptorTable.Bindings OpenFile

namespace Files

def put (files : Files) (url : String) (contents : Bytes) : Files :=
  { files with contents := Function.update files.contents url (some contents) }

/-- A file is there; it is made if it was missing. -/
def ensure (files : Files) (url : String) : Files :=
  match files.contents url with
  | some _ => files
  | none => files.put url []

def place (files : Files) (key : DescriptorKey) (file : OpenFile) (position : Nat) : Files :=
  { files with opened := files.opened.insert key { file with position } }

def forget (files : Files) (key : DescriptorKey) : Files := { files with opened := files.opened.erase key }

/-- Whether a file can be opened: the backend claims its URL, and it is there or may be made. -/
def Admits (spec : Spec) (files : Files) (url : String) (flags : UInt32) : Prop :=
  url ≠ "" ∧ spec.claimsUrl url .openFile = true ∧ (files.contents url = none → flags &&& createFlag ≠ 0)

def capacity (limit : Nat) : Nat := min limit DescriptorKey.slotCapacity

/-- **What one request does**, and what it returns. -/
inductive Step (spec : Spec) (limit : Nat) (files : Files) :
    Request State → Except Error Value → Files → Prop
  /-- A file is opened at its beginning, under a key that was good for nothing. -/
  | opened {url : String} {flags : UInt32} {mode : Mode} {key : DescriptorKey}
      (hadmits : files.Admits spec url flags) (hroom : files.opened.size < capacity limit)
      (hfresh : key ∉ files.opened) :
      Step spec limit files (.openFile url flags mode) (.ok (.key key)) ((files.ensure url).place key { url } 0)
  /-- There is no room for another open file, but the file is there from now on. -/
  | crowded {url : String} {flags : UInt32} {mode : Mode} (hadmits : files.Admits spec url flags)
      (hfull : capacity limit ≤ files.opened.size) :
      Step spec limit files (.openFile url flags mode) (.error .tooManyOpenFiles) (files.ensure url)
  | refused {url : String} {flags : UInt32} {mode : Mode} {error : Error}
      (hrefuses : ¬ files.Admits spec url flags) :
      Step spec limit files (.openFile url flags mode) (.error error) files
  | badKey {request : Request State} {key : DescriptorKey} (hkey : request.handle? = some (.file, key))
      (hsize : request.transfersNothing = false) (hbad : key ∉ files.opened) :
      Step spec limit files request (.error (DescriptorTable.Bindings.unbound "file" key)) files
  /-- A plain transfer of no bytes is refused, whatever the key. -/
  | emptyBuffer {request : Request State} (hsize : request.transfersNothing = true) :
      Step spec limit files request (.error .emptyBuffer) files
  | read {key : DescriptorKey} {buffer contents : Bytes} {file : OpenFile} (hsize : buffer ≠ [])
      (hopened : files.opened.lookup key = some file) (hcontents : files.contents file.url = some contents) :
      Step spec limit files (.read key buffer)
        (.ok (.transfer (contents.received file.position buffer).1 (contents.received file.position buffer).2))
        (files.place key file (file.position + (contents.received file.position buffer).1))
  | write {key : DescriptorKey} {data contents : Bytes} {file : OpenFile} (hsize : data ≠ [])
      (hopened : files.opened.lookup key = some file) (hcontents : files.contents file.url = some contents) :
      Step spec limit files (.write key data) (.ok (.number data.length))
        ((files.put file.url (contents.splice file.position data)).place key file (file.position + data.length))
  /-- The position moves only if the transfer is emulated. -/
  | pread {key : DescriptorKey} {buffer contents : Bytes} {offset : Nat} {file : OpenFile}
      (hopened : files.opened.lookup key = some file) (hcontents : files.contents file.url = some contents) :
      Step spec limit files (.pread key buffer offset)
        (.ok (.transfer (contents.received offset buffer).1 (contents.received offset buffer).2))
        (files.place key file
          (if spec.nativePread then file.position else offset + (contents.received offset buffer).1))
  | pwrite {key : DescriptorKey} {data contents : Bytes} {offset : Nat} {file : OpenFile}
      (hopened : files.opened.lookup key = some file) (hcontents : files.contents file.url = some contents) :
      Step spec limit files (.pwrite key data offset) (.ok (.number data.length))
        ((files.put file.url (contents.splice offset data)).place key file (offset + data.length))
  | lseek {key : DescriptorKey} {target : SeekTarget} {contents : Bytes} {position : Nat} {file : OpenFile}
      (hopened : files.opened.lookup key = some file) (hcontents : files.contents file.url = some contents)
      (hseek : seekPosition? target file.position contents.length = some position) :
      Step spec limit files (.lseek key target) (.ok (.number position)) (files.place key file position)
  | outOfReach {key : DescriptorKey} {target : SeekTarget} {contents : Bytes} {file : OpenFile}
      (hopened : files.opened.lookup key = some file) (hcontents : files.contents file.url = some contents)
      (hseek : seekPosition? target file.position contents.length = none) :
      Step spec limit files (.lseek key target) (.error (.backend "lseek" negativeOffset)) files
  | closed {key : DescriptorKey} {file : OpenFile} (hopened : files.opened.lookup key = some file) :
      Step spec limit files (.close key) (.ok .unit) (files.forget key)

inductive Run (spec : Spec) (limit : Nat) :
    Files → List (Request State) → List (Except Error Value) → Files → Prop
  | nil (files : Files) : Run spec limit files [] [] files
  | cons {files next last : Files} {request : Request State} {outcome : Except Error Value}
      {requests : List (Request State)} {outcomes : List (Except Error Value)}
      (head : Step spec limit files request outcome next) (tail : Run spec limit next requests outcomes last) :
      Run spec limit files (request :: requests) (outcome :: outcomes) last

end Files

/-! ## The contents of a store -/

namespace State

variable (state : State) (label : String)

def contents : String → Option Bytes := (state.store label).contents?

@[simp] theorem store_withStore (store : Store) : (state.withStore label store).store label = store := by
  simp [State.store, withStore]

theorem contents_putFile (store : Store) (url : String) (contents : Bytes) :
    (store.putFile url contents).contents? = Function.update store.contents? url (some contents) := by
  funext other
  simp only [Store.contents?, Store.putFile, Function.update_apply, Std.TreeMap.getElem?_insert,
    Std.LawfulEqCmp.compare_eq_iff_eq]
  simp only [eq_comm]

/-- A store with another file. -/
theorem contents_put (url : String) (bytes : Bytes) :
    (state.withStore label ((state.store label).putFile url bytes)).contents label =
      Function.update (state.contents label) url (some bytes) := by
  rw [contents, store_withStore, contents_putFile, contents]

@[simp] theorem contents_record (transfer : Transfer) :
    (state.record label transfer).contents label = state.contents label := by
  rw [contents, record, store_withStore]
  rfl

@[simp] theorem contents_moveTo (index position : Nat) :
    (state.moveTo index position).contents label = state.contents label := rfl

@[simp] theorem contents_count (id : InstanceId) (add : Tally → Tally) :
    (state.count id add).contents label = state.contents label := rfl

theorem hasFile_eq (url : String) : (state.store label).hasFile url = (state.contents label url).isSome := by
  simp [Store.hasFile, contents, Store.contents?]

/-- **What a transfer or a seek makes of a world**: the store has these contents, and one of the open files is
this, at another position perhaps. -/
structure Became (contents : String → Option Bytes) (index : Nat) (file : OpenFile) (after : State) : Prop where
  contents_eq : after.contents label = contents
  openFiles_eq : ∀ i, after.openFiles[i]? = if i = index then some file else state.openFiles[i]?

/-- **What a handle stands for**: one of the open files, of which the store has these contents. -/
structure Reaches (opened : OpenHandle) (index : Nat) (file : OpenFile) (contents : Bytes) : Prop where
  payload_eq : opened.handle.payload = .openFile index
  openFile_eq : state.openFiles[index]? = some file
  contents_eq : state.contents label file.url = some contents

variable {state label} {mid after : State} {contents contents' : String → Option Bytes} {index : Nat}
  {file file' : OpenFile}

/-- What else an action records changes neither contents nor open files. -/
theorem Became.congr (h : state.Became label contents index file mid)
    (hcontents : after.contents label = mid.contents label) (hfiles : after.openFiles = mid.openFiles) :
    state.Became label contents index file after where
  contents_eq := hcontents.trans h.contents_eq
  openFiles_eq := by
    rw [hfiles]
    exact h.openFiles_eq

theorem Became.trans (h : state.Became label contents index file mid)
    (h' : mid.Became label contents' index file' after) : state.Became label contents' index file' after where
  contents_eq := h'.contents_eq
  openFiles_eq i := by
    rw [h'.openFiles_eq, h.openFiles_eq]
    by_cases hi : i = index
    · rw [if_pos hi, if_pos hi]
    · rw [if_neg hi, if_neg hi, if_neg hi]

theorem became_moveTo (hfiles : mid.openFiles = state.openFiles) (hfile : state.openFiles[index]? = some file)
    (position : Nat) :
    state.Became label (mid.contents label) index { file with position } (mid.moveTo index position) where
  contents_eq := rfl
  openFiles_eq i := by
    rw [moveTo, Array.getElem?_modify, hfiles]
    by_cases hi : i = index
    · rw [if_pos hi.symm, if_pos hi, hi, hfile]
      rfl
    · rw [if_neg (Ne.symm hi), if_neg hi]

/-! ## The backend's actions -/

section Actions

variable {spec : Spec} {opened : OpenHandle} {bytes : Bytes}

theorem Reaches.file?_eq (h : state.Reaches label opened index file bytes) :
    state.file? opened = some (index, file) := by
  simp only [State.file?, h.payload_eq, h.openFile_eq, Option.map_some]

/-- A world in which nothing happens. -/
theorem Reaches.became_self (h : state.Reaches label opened index file bytes) :
    state.Became label (state.contents label) index file state where
  contents_eq := rfl
  openFiles_eq i := by
    by_cases hi : i = index
    · rw [if_pos hi, hi]
      exact h.openFile_eq
    · rw [if_neg hi]

/-- After a seek, a handle stands for the same file, at another position. -/
theorem Reaches.of_became (h : state.Reaches label opened index file bytes) {position : Nat}
    (hmoved : state.Became label (state.contents label) index { file with position } after) :
    after.Reaches label opened index { file with position } bytes where
  payload_eq := h.payload_eq
  openFile_eq := by rw [hmoved.openFiles_eq, if_pos rfl]
  contents_eq := by
    rw [hmoved.contents_eq]
    exact h.contents_eq

theorem Reaches.readAt_eq (h : state.Reaches spec.store opened index file bytes)
    (hsame : after.contents spec.store = state.contents spec.store) (size position : Nat) :
    readAt spec file size position after =
      .ok { count := (bytes.slice position size).length, data := bytes.slice position size } := by
  have hcontents : (after.store spec.store).contents? file.url = some bytes :=
    (congrFun hsame file.url).trans h.contents_eq
  rw [readAt, hcontents]

theorem Reaches.read (h : state.Reaches spec.store opened index file bytes) (size : Nat) :
    ∃ after, Memory.read spec opened size state =
        (.ok { count := (bytes.slice file.position size).length, data := bytes.slice file.position size },
          after) ∧
      state.Became spec.store (state.contents spec.store) index
        { file with position := file.position + (bytes.slice file.position size).length } after := by
  set recorded := state.record spec.store (.read index file.position) with hrecorded
  have hsame : recorded.contents spec.store = state.contents spec.store := state.contents_record _ _
  have hfiles : recorded.openFiles = state.openFiles := rfl
  refine ⟨recorded.moveTo index (file.position + (bytes.slice file.position size).length), ?_, ?_⟩
  · rw [Memory.read, h.file?_eq]
    dsimp only
    rw [← hrecorded, h.readAt_eq hsame]
  · rw [← hsame]
    exact became_moveTo hfiles h.openFile_eq _

theorem Reaches.write (h : state.Reaches spec.store opened index file bytes) (data : Bytes) :
    ∃ after, Memory.write spec opened data state = (.ok data.length, after) ∧
      state.Became spec.store
        (Function.update (state.contents spec.store) file.url (some (bytes.splice file.position data))) index
        { file with position := file.position + data.length } after := by
  have hcontents : (state.store spec.store).contents? file.url = some bytes := h.contents_eq
  set written := state.withStore spec.store
    ((state.store spec.store).putFile file.url (bytes.splice file.position data)) with hwritten
  have hfiles : written.openFiles = state.openFiles := rfl
  refine ⟨written.moveTo index (file.position + data.length), ?_, ?_⟩
  · rw [Memory.write, h.file?_eq]
    dsimp only
    rw [hcontents]
  · rw [← state.contents_put spec.store, ← hwritten]
    exact became_moveTo hfiles h.openFile_eq _

/-- Reading at a given position, by a backend that can, moves nothing. -/
theorem Reaches.pread (h : state.Reaches spec.store opened index file bytes) (hnative : spec.nativePread = true)
    (id : InstanceId) (size offset : Nat) :
    ∃ after, Memory.pread spec id opened size offset state =
        (some (.ok { count := (bytes.slice offset size).length, data := bytes.slice offset size }), after) ∧
      state.Became spec.store (state.contents spec.store) index file after := by
  have hfile (add : Tally → Tally) : (state.count id add).file? opened = some (index, file) := h.file?_eq
  refine ⟨state.count id fun tally => { tally with preads := tally.preads + 1 }, ?_,
    h.became_self.congr rfl rfl⟩
  rw [Memory.pread, if_pos hnative]
  dsimp only
  rw [hfile]
  dsimp only
  rw [h.readAt_eq (state.contents_count spec.store id _)]

/-- A position that a seek asks for is one that there can be. -/
theorem seekPosition?_le {target : SeekTarget} {current size position : Nat}
    (htarget : ∀ offset, target = .start offset → offset ≤ maxOffset)
    (h : seekPosition? target current size = some position) : position ≤ maxOffset := by
  cases target with
  | start offset =>
      cases h
      exact htarget _ rfl
  | current delta | fromEnd delta =>
      simp only [seekPosition?, Option.ite_none_right_eq_some, Option.some.injEq] at h
      omega

theorem Reaches.lseek (h : state.Reaches spec.store opened index file bytes) (hskew : spec.seekSkew = 0)
    {target : SeekTarget} {position : Nat} (hle : position ≤ maxOffset)
    (hseek : seekPosition? target file.position bytes.length = some position) :
    ∃ after, Memory.lseek spec opened target state = (.ok position, after) ∧
      state.Became spec.store (state.contents spec.store) index { file with position } after := by
  have hsize : ((state.store spec.store).contents? file.url).getD [] = bytes := by
    rw [show (state.store spec.store).contents? file.url = _ from h.contents_eq]
    rfl
  have hlanding : landing spec position = position := by
    rw [landing, hskew, Nat.add_zero, Nat.mod_eq_of_lt (Nat.lt_succ_of_le hle)]
  refine ⟨_, ?_, (became_moveTo rfl h.openFile_eq position).congr
    ((state.moveTo index position).contents_record spec.store (.seek index position)) rfl⟩
  rw [Memory.lseek, h.file?_eq]
  dsimp only
  rw [hsize, hseek]
  dsimp only
  rw [hlanding]

theorem Reaches.lseek_outOfReach (h : state.Reaches spec.store opened index file bytes) {target : SeekTarget}
    (hseek : seekPosition? target file.position bytes.length = none) :
    Memory.lseek spec opened target state = (.error negativeOffset, state) := by
  have hsize : ((state.store spec.store).contents? file.url).getD [] = bytes := by
    rw [show (state.store spec.store).contents? file.url = _ from h.contents_eq]
    rfl
  rw [Memory.lseek, h.file?_eq]
  dsimp only
  rw [hsize, hseek]

/-- A file that is there, or may be made, is opened. -/
theorem openFile_ok {files : Files} (hfiles : files.contents = state.contents spec.store) {url : String}
    {flags : UInt32} (hadmits : files.contents url = none → flags &&& createFlag ≠ 0) :
    ∃ after, Memory.openFile spec url flags state =
        (.ok { owner := spec.name, payload := .openFile state.openFiles.size }, after) ∧
      after.contents spec.store = (files.ensure url).contents ∧
      after.openFiles = state.openFiles.push { url } := by
  have hhas := state.hasFile_eq spec.store url
  rw [← hfiles] at hhas
  unfold Memory.openFile Files.ensure
  cases hcontents : files.contents url with
  | some bytes =>
      rw [hcontents] at hhas
      refine ⟨{ state with openFiles := state.openFiles.push { url } }, if_pos hhas, ?_, rfl⟩
      exact hfiles.symm
  | none =>
      rw [hcontents] at hhas
      have hmissing : ¬ (state.store spec.store).hasFile url = true := by
        rw [hhas]
        nofun
      set made := state.withStore spec.store ((state.store spec.store).putFile url []) with hmade
      refine ⟨{ made with openFiles := made.openFiles.push { url } }, ?_, ?_, rfl⟩
      · dsimp only
        rw [if_neg hmissing, if_neg (hadmits hcontents)]
        rfl
      · show made.contents spec.store = Function.update files.contents url (some [])
        rw [hmade, contents_put, hfiles]

theorem openFile_refused {url : String} {flags : UInt32} (hmissing : state.contents spec.store url = none)
    (hflags : flags &&& createFlag = 0) :
    Memory.openFile spec url flags state = (.error Store.noFile, state) := by
  have hhas : ¬ (state.store spec.store).hasFile url = true := by
    rw [state.hasFile_eq, hmissing]
    nofun
  rw [Memory.openFile, if_neg hhas, if_pos hflags]

end Actions

end State

end Memory

end StorageDispatch
