import StorageDispatch.Memory.Backend
import StorageDispatch.Proofs.Context.Flow

set_option autoImplicit false

/-! # What calls leave alone in memory

Reads, writes and seeks move files (`Call.moves`). Every other call leaves the record of transfers alone, and the
files that are open, though another file may be opened (`rests_respond`). A call that does move a file moves one only
(`State.Moved`), and none closes a file (`size_le_respond`).
-/

namespace StorageDispatch

/-- Whether a call may move an open file. -/
def Call.moves : Call → Bool
  | .read .. | .write .. | .lseek .. => true
  | _ => false

namespace Memory

variable {spec : Spec} {id : InstanceId}

/-! ## Stores with other records -/

namespace Store

def logging (store : Store) (transfers : List Transfer) : Store := { store with transfers }

/-- Changes that do not depend on the record of transfers, and leave it alone. -/
def Oblivious (f : Store → Reply Store) : Prop :=
  ∀ store transfers, f (store.logging transfers) = (fun changed => changed.logging transfers) <$> f store

theorem Oblivious.transfers_eq {f : Store → Reply Store} (hf : Oblivious f) {store changed : Store}
    (h : f store = .ok changed) : changed.transfers = store.transfers := by
  have hsame : f store = (fun changed => changed.logging store.transfers) <$> f store := hf store store.transfers
  rw [h] at hsame
  have hrecord : changed = changed.logging store.transfers := Except.ok.inj hsame
  rw [hrecord]
  rfl

theorem oblivious_rename (source destination : String) : Oblivious (·.rename source destination) := by
  intro store transfers
  have hcontents : (store.logging transfers).contents? source = store.contents? source := rfl
  dsimp only
  unfold rename
  rw [hcontents]
  cases store.contents? source <;> rfl

theorem oblivious_symlink (target link : String) : Oblivious fun store => .ok (store.symlink target link) :=
  fun _ _ => rfl

/-- Putting directories in place leaves the record alone. -/
theorem foldl_putDirectory_logging (urls : List String) (store : Store) (transfers : List Transfer) :
    urls.foldl putDirectory (store.logging transfers) = (urls.foldl putDirectory store).logging transfers := by
  induction urls generalizing store with
  | nil => rfl
  | cons url urls ih => exact ih (store.putDirectory url)

theorem oblivious_mkdir (url : String) (recursive : Bool) : Oblivious (·.mkdir url recursive) := by
  intro store transfers
  have hhas : (store.logging transfers).hasDirectory url = store.hasDirectory url := rfl
  have hmissing : (store.logging transfers).missingAncestors url = store.missingAncestors url := rfl
  dsimp only
  unfold mkdir
  rw [hhas, hmissing]
  by_cases hthere : store.hasDirectory url = true
  · rw [if_pos hthere, if_pos hthere]
    rfl
  · rw [if_neg hthere, if_neg hthere]
    cases store.missingAncestors url with
    | nil => rfl
    | cons missing more =>
        dsimp only
        rw [foldl_putDirectory_logging]
        cases recursive <;> rfl

theorem oblivious_rmdir (url : String) : Oblivious (·.rmdir url) := by
  intro store transfers
  show (if store.hasDirectory url = true then _ else _) = _ <$> store.rmdir url
  unfold rmdir
  split <;> rfl

theorem oblivious_unlink (url : String) : Oblivious (·.unlink url) := by
  intro store transfers
  show (if store.hasFile url = true then _ else _) = _ <$> store.unlink url
  unfold unlink
  split <;> rfl

theorem oblivious_setxattr (url name : String) (value : Bytes) (mode : XattrMode) :
    Oblivious (·.setxattr url name value mode) := by
  intro store transfers
  have hsame : (store.logging transfers).attributesOf url = store.attributesOf url := rfl
  dsimp only
  unfold setxattr
  rw [hsame]
  dsimp only
  cases mode <;> cases (store.attributesOf url).contains name <;> rfl

end Store

namespace State

/-- What is put under a label is there, and nothing changes under another one. -/
theorem store_withStore_eq (state : State) (label other : String) (store : Store) :
    (state.withStore label store).store other = if label = other then store else state.store other := by
  unfold withStore State.store
  rw [Std.TreeMap.getElem?_insert]
  by_cases hlabel : label = other
  · rw [hlabel, if_pos rfl, if_pos (by simp)]
    rfl
  · rw [if_neg hlabel, if_neg (by simpa using hlabel)]

/-! ## What is left alone where no file is moved -/

/-- **Nothing is moved**: no transfer is observed, and the files that are open stay open where they are. -/
structure Rests (before after : State) : Prop where
  transfers_eq : ∀ label, (after.store label).transfers = (before.store label).transfers
  openFiles : ∀ (i : Nat) (file : OpenFile), before.openFiles[i]? = some file → after.openFiles[i]? = some file

namespace Rests

variable {before mid after : State}

theorem refl (state : State) : Rests state state := ⟨fun _ => rfl, fun _ _ h => h⟩

theorem trans (h : Rests before mid) (h' : Rests mid after) : Rests before after :=
  ⟨fun label => (h'.transfers_eq label).trans (h.transfers_eq label),
    fun i file hopen => h'.openFiles i file (h.openFiles i file hopen)⟩

theorem size_le (h : Rests before after) : before.openFiles.size ≤ after.openFiles.size := by
  refine Nat.le_of_not_lt fun hlt => ?_
  have hopen := h.openFiles _ _ (Array.getElem?_eq_getElem hlt)
  exact absurd (Array.getElem?_eq_some_iff.mp hopen).1 (Nat.lt_irrefl _)

/-- Neither stores nor open files have changed. -/
theorem of_eq (hstores : after.stores = before.stores) (hfiles : after.openFiles = before.openFiles) :
    Rests before after := by
  refine ⟨fun label => ?_, fun i file hopen => ?_⟩
  · rw [State.store, hstores]
    rfl
  · rw [hfiles]
    exact hopen

theorem withStore (state : State) (label : String) {store : Store}
    (h : store.transfers = (state.store label).transfers) : Rests state (state.withStore label store) := by
  refine ⟨fun other => ?_, fun _ _ hopen => hopen⟩
  rw [store_withStore_eq]
  split
  · rename_i hlabel
    rw [← hlabel, h]
  · rfl

theorem change (state : State) (label : String) {f : Store → Reply Store} (hf : Store.Oblivious f) :
    Rests state (state.change label f).2 := by
  unfold State.change
  cases hchanged : f (state.store label) with
  | error error => exact .refl state
  | ok changed => exact .withStore state label (hf.transfers_eq hchanged)

/-- Another file is opened. -/
theorem push (state : State) (file : OpenFile) :
    Rests state { state with openFiles := state.openFiles.push file } := by
  refine ⟨fun _ => rfl, fun i other hopen => ?_⟩
  have hlt : i < state.openFiles.size := (Array.getElem?_eq_some_iff.mp hopen).1
  rw [Array.getElem?_push, if_neg (Nat.ne_of_lt hlt)]
  exact hopen

theorem openFile (spec : Spec) (url : String) (flags : UInt32) (state : State) :
    Rests state (Memory.openFile spec url flags state).2 := by
  unfold Memory.openFile
  dsimp only
  split
  · exact .push state _
  · split
    · exact .refl state
    · have hmade : Rests state (state.withStore spec.store ((state.store spec.store).putFile url [])) :=
        .withStore state spec.store rfl
      exact hmade.trans (.push _ _)

theorem unlinkEach (label : String) (urls : List String) (state : State) :
    Rests state (Memory.unlinkEach label urls state).2 := by
  induction urls generalizing state with
  | nil => exact .refl state
  | cons url urls ih =>
      have hhead : Rests state (state.change label (·.unlink url)).2 :=
        .change state label (Store.oblivious_unlink url)
      exact hhead.trans (ih _)

end Rests

end State

open State

/-- **Calls that move no file** leave open what is open, and nothing is observed of them. -/
theorem rests_respond (id : InstanceId) (spec : Spec) {request : Call} (h : request.moves = false) (state : State) :
    Rests state (respond id spec request state).2 := by
  cases request with
  | rename source destination => exact .change state spec.store (Store.oblivious_rename source destination)
  | symlink target link => exact .change state spec.store (Store.oblivious_symlink target link)
  | mkdir url mode recursive => exact .change state spec.store (Store.oblivious_mkdir url recursive)
  | rmdir url => exact .change state spec.store (Store.oblivious_rmdir url)
  | unlink url => exact .change state spec.store (Store.oblivious_unlink url)
  | setxattr url name value mode => exact .change state spec.store (Store.oblivious_setxattr url name value mode)
  | unlinkList urls =>
      unfold respond
      split
      · exact .unlinkEach spec.store urls state
      · exact .refl state
  | openFile url flags mode => exact .openFile spec url flags state
  | opendir url =>
      show Rests state (opendir spec url state).2
      unfold opendir
      split <;> exact .of_eq rfl rfl
  | readdir dir =>
      show Rests state (readdir dir state).2
      unfold readdir
      split <;> exact .of_eq rfl rfl
  | pread opened size offset =>
      show Rests state (pread spec id opened size offset state).2
      unfold pread
      dsimp only
      split
      · split <;> exact .of_eq rfl rfl
      · exact .refl state
  | read | write | lseek => exact Bool.noConfusion h
  | _ => exact .of_eq rfl rfl

/-! ## Calls that move a file -/

section Moving

variable {opened : OpenHandle} {index : Nat} {file : OpenFile} {state mid after : State} {label : String}

theorem openFile_of_file? (h : state.file? opened = some (index, file)) :
    opened.handle.payload = .openFile index ∧ state.openFiles[index]? = some file := by
  unfold State.file? at h
  cases hpayload : opened.handle.payload with
  | openFile place =>
      rw [hpayload] at h
      obtain ⟨found, hfound, hpair⟩ := Option.map_eq_some_iff.mp h
      cases hpair
      exact ⟨rfl, hfound⟩
  | none | number value | text value | openListing place =>
      rw [hpayload] at h
      cases h

theorem file?_eq_some (hpayload : opened.handle.payload = .openFile index)
    (hopen : state.openFiles[index]? = some file) : state.file? opened = some (index, file) := by
  unfold State.file?
  rw [hpayload]
  dsimp only
  rw [hopen]
  rfl

/-- **A file has moved**: the one that a handle stands for is at a position that depends on the one before, and
all others are where they were. -/
def State.Moved (before : State) (opened : OpenHandle) (position : Nat → Nat) (after : State) : Prop :=
  ∃ index file, before.file? opened = some (index, file) ∧
    after.openFiles = (before.moveTo index (position file.position)).openFiles

/-- A file moves twice. -/
theorem State.Moved.trans {position later : Nat → Nat} (h : state.Moved opened position mid)
    (h' : mid.Moved opened later after) : state.Moved opened (later ∘ position) after := by
  obtain ⟨index, file, hfile, hmid⟩ := h
  obtain ⟨index', file', hfile', hafter⟩ := h'
  obtain ⟨hpayload, hopen⟩ := openFile_of_file? hfile
  obtain ⟨hpayload', hopen'⟩ := openFile_of_file? hfile'
  obtain rfl : index = index' := by
    rw [hpayload'] at hpayload
    exact (Payload.openFile.inj hpayload).symm
  have hmoved : file' = { file with position := position file.position } := by
    rw [hmid, moveTo, Array.getElem?_modify, if_pos rfl, hopen] at hopen'
    exact (Option.some.inj hopen').symm
  refine ⟨index, file, hfile, ?_⟩
  rw [hafter, moveTo, hmid, moveTo, moveTo, hmoved]
  refine Array.ext_getElem? fun i => ?_
  rw [Array.getElem?_modify, Array.getElem?_modify, Array.getElem?_modify]
  split
  · rw [Option.map_map]
    rfl
  · rfl

@[simp] theorem respond_lseek (own : InstanceId) (target : SeekTarget) :
    respond own spec (.lseek opened target) state = lseek spec opened target state := rfl

@[simp] theorem respond_read (own : InstanceId) (size : Nat) :
    respond own spec (.read opened size) state = read spec opened size state := rfl

@[simp] theorem respond_write (own : InstanceId) (data : Bytes) :
    respond own spec (.write opened data) state = write spec opened data state := rfl

theorem landing_of_skew (hskew : spec.seekSkew = 0) {position : Nat} (h : position ≤ maxOffset) :
    landing spec position = position := by
  rw [landing, hskew, Nat.add_zero, Nat.mod_eq_of_lt (Nat.lt_succ_of_le h)]

theorem lseek_of_none (h : state.file? opened = none) (target : SeekTarget) :
    lseek spec opened target state = (.error notFile, state) := by
  rw [lseek, h]

theorem read_of_none (h : state.file? opened = none) (size : Nat) :
    read spec opened size state = (.error notFile, state) := by
  rw [read, h]

theorem write_of_none (h : state.file? opened = none) (data : Bytes) :
    write spec opened data state = (.error notFile, state) := by
  rw [write, h]

/-- A seek from the start succeeds wherever the file is, and whether it is there at all. -/
theorem lseek_start (h : state.file? opened = some (index, file)) (offset : Nat) :
    lseek spec opened (.start offset) state = (.ok (landing spec offset),
      (state.moveTo index (landing spec offset)).record spec.store (.seek index (landing spec offset))) := by
  rw [lseek, h]
  rfl

/-- Without a skew, seeks from the start land where they should. -/
theorem lseek_lands (hskew : spec.seekSkew = 0) {offset landed : Nat} (hle : offset ≤ maxOffset)
    (h : lseek spec opened (.start offset) state = (.ok landed, after)) : landed = offset := by
  cases hfile : state.file? opened with
  | none =>
      rw [lseek_of_none hfile] at h
      cases h
  | some found =>
      rw [lseek_start hfile, landing_of_skew hskew hle] at h
      cases h
      rfl

theorem lseek_ok {target : SeekTarget} {landed : Nat} (h : lseek spec opened target state = (.ok landed, after)) :
    landed ≤ maxOffset ∧ state.Moved opened (fun _ => landed) after := by
  cases hfile : state.file? opened with
  | none =>
      rw [lseek_of_none hfile] at h
      cases h
  | some found =>
      obtain ⟨index, file⟩ := found
      rw [lseek, hfile] at h
      dsimp only at h
      split at h
      · rename_i position hposition
        cases h
        refine ⟨Nat.le_of_lt_succ (Nat.mod_lt _ (Nat.succ_pos _)), index, file, hfile, rfl⟩
      · cases h

theorem lseek_error {target : SeekTarget} {source : BackendError}
    (h : lseek spec opened target state = (.error source, after)) : after = state := by
  unfold lseek at h
  split at h
  · dsimp only at h
    split at h <;> cases h
    rfl
  · cases h
    rfl

theorem read_ok {size : Nat} {received : Received} (h : read spec opened size state = (.ok received, after)) :
    state.Moved opened (· + received.count) after := by
  cases hfile : state.file? opened with
  | none =>
      rw [read_of_none hfile] at h
      cases h
  | some found =>
      obtain ⟨index, file⟩ := found
      rw [read, hfile] at h
      dsimp only at h
      split at h <;> cases h
      exact ⟨index, file, hfile, rfl⟩

theorem read_error {size : Nat} {source : BackendError}
    (h : read spec opened size state = (.error source, after)) : after.openFiles = state.openFiles := by
  unfold read at h
  split at h
  · dsimp only at h
    split at h <;> cases h
    rfl
  · cases h
    rfl

/-- A transfer is observed by one store. -/
theorem transfers_record (state : State) (own : String) (transfer : Transfer) (label : String) :
    ((state.record own transfer).store label).transfers =
      (state.store label).transfers ++ if own = label then [transfer] else [] := by
  rw [record, store_withStore_eq]
  split
  · rename_i hlabel
    rw [hlabel]
    rfl
  · rw [List.append_nil]

/-- What is read is observed, whether there is anything to read or not. -/
theorem transfers_read (h : state.file? opened = some (index, file)) (size : Nat) (label : String) :
    ((read spec opened size state).2.store label).transfers =
      (state.store label).transfers ++ if spec.store = label then [.read index file.position] else [] := by
  rw [← transfers_record, read, h]
  dsimp only
  split <;> rfl

theorem write_ok {data : Bytes} {count : Nat} (h : write spec opened data state = (.ok count, after)) :
    state.Moved opened (· + count) after := by
  cases hfile : state.file? opened with
  | none =>
      rw [write_of_none hfile] at h
      cases h
  | some found =>
      obtain ⟨index, file⟩ := found
      rw [write, hfile] at h
      dsimp only at h
      split at h <;> cases h
      exact ⟨index, file, hfile, rfl⟩

theorem write_error {data : Bytes} {source : BackendError}
    (h : write spec opened data state = (.error source, after)) : after = state := by
  unfold write at h
  split at h
  · dsimp only at h
    split at h <;> cases h
    rfl
  · cases h
    rfl

/-- Moving a file closes none. -/
theorem State.Moved.size_eq {position : Nat → Nat} (h : state.Moved opened position after) :
    after.openFiles.size = state.openFiles.size := by
  obtain ⟨index, file, -, hafter⟩ := h
  rw [hafter, moveTo]
  exact Array.size_modify

/-- **No call closes a file** that is open. -/
theorem size_le_respond (own : InstanceId) (spec : Spec) (request : Call) (state : State) :
    state.openFiles.size ≤ (respond own spec request state).2.openFiles.size := by
  by_cases hmoves : request.moves = true
  · refine Nat.le_of_eq (Eq.symm ?_)
    cases request with
    | read opened size =>
        rcases hread : read spec opened size state with ⟨source | received, after⟩ <;> rw [respond_read, hread]
        · exact congrArg Array.size (read_error hread)
        · exact (read_ok hread).size_eq
    | write opened data =>
        rcases hwrite : write spec opened data state with ⟨source | count, after⟩ <;> rw [respond_write, hwrite]
        · rw [write_error hwrite]
        · exact (write_ok hwrite).size_eq
    | lseek opened target =>
        rcases hseek : lseek spec opened target state with ⟨source | landed, after⟩ <;> rw [respond_lseek, hseek]
        · rw [lseek_error hseek]
        · exact (lseek_ok hseek).2.size_eq
    | _ => exact Bool.noConfusion (hmoves : false = true)
  · exact (rests_respond own spec (Bool.not_eq_true _ ▸ hmoves) state).size_le

end Moving

end Memory

end StorageDispatch
