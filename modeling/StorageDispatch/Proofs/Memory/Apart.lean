import StorageDispatch.Proofs.Memory.Calls

set_option autoImplicit false

/-! # Worlds apart

Two worlds are `Apart` if they hold the same, but for what the stores have observed, and for where the open files
are in some places. Nobody can tell them apart who moves no file (`Apart.respond`), or moves one that is in the same
position on both sides (`Apart.read`, `Apart.write`).

A seek from the start or from the end brings a file to the same position on both sides (`Apart.seek`). A read at a
position does the opposite if it is emulated on one side only (`Apart.drift`).
-/

namespace StorageDispatch

/-- Whether a seek asks for a position that does not depend on the present one. -/
def SeekTarget.isAbsolute : SeekTarget → Bool
  | .current _ => false
  | _ => true

namespace Memory

variable {A B : Set Nat} {state state' after after' : State} {spec : Spec} {own : InstanceId} {opened : OpenHandle}
  {index : Nat} {label : String}

namespace State

/-- **Worlds apart**: with other records of transfers, other tallies, and files at other positions in these places. -/
structure Apart (A : Set Nat) (state state' : State) : Prop where
  stores : ∀ label, ∃ transfers, state'.store label = (state.store label).logging transfers
  listings_eq : state'.openListings = state.openListings
  size_eq : state'.openFiles.size = state.openFiles.size
  url_eq : ∀ i : Nat, (state'.openFiles[i]?).map OpenFile.url = (state.openFiles[i]?).map OpenFile.url
  openFiles_eq : ∀ i : Nat, i ∉ A → state'.openFiles[i]? = state.openFiles[i]?

def place (opened : OpenHandle) : Set Nat := {index | opened.handle.payload = .openFile index}

structure Tells (A : Set Nat) {answer : Type} (told told' : answer × State) : Prop where
  answer_eq : told'.1 = told.1
  apart : Apart A told.2 told'.2

namespace Apart

theorem refl (A : Set Nat) (state : State) : Apart A state state :=
  ⟨fun label => ⟨(state.store label).transfers, rfl⟩, rfl, rfl, fun _ => rfl, fun _ _ => rfl⟩

theorem mono (h : Apart A state state') (hsub : A ⊆ B) : Apart B state state' :=
  { h with openFiles_eq := fun i hi => h.openFiles_eq i fun hA => hi (hsub hA) }

/-- What is not adrift before is not adrift after. -/
theorem settle (h : Apart A state state') (hplace : ∀ index ∈ place opened, index ∉ A) :
    Apart (A \ place opened) state state' :=
  h.mono fun index hindex => ⟨hindex, fun hthere => hplace index hthere hindex⟩

/-! ### Small changes -/

theorem withStore (h : Apart A state state') (label : String) {store store' : Store}
    (hstore : ∃ transfers, store' = store.logging transfers) :
    Apart A (state.withStore label store) (state'.withStore label store') := by
  refine { h with stores := fun other => ?_ }
  rw [store_withStore_eq, store_withStore_eq]
  split
  · exact hstore
  · exact h.stores other

theorem record_left (h : Apart A state state') (label : String) (transfer : Transfer) :
    Apart A (state.record label transfer) state' := by
  refine { h with stores := fun other => ?_ }
  obtain ⟨transfers, hother⟩ := h.stores other
  refine ⟨transfers, ?_⟩
  rw [State.record, store_withStore_eq]
  split
  · rename_i hlabel
    rw [hlabel, hother]
    rfl
  · exact hother

theorem record (h : Apart A state state') (label : String) (transfer : Transfer) :
    Apart A (state.record label transfer) (state'.record label transfer) := by
  refine h.withStore label ?_
  obtain ⟨transfers, hstore⟩ := h.stores label
  refine ⟨transfers ++ [transfer], ?_⟩
  rw [hstore]
  rfl

theorem count_right (h : Apart A state state') (id : InstanceId) (add : Tally → Tally) :
    Apart A state (state'.count id add) := { h with }

/-- **A file that is moved to one position on both sides** is not adrift any longer. -/
theorem moveTo (h : Apart A state state') (index position : Nat) :
    Apart (A \ {index}) (state.moveTo index position) (state'.moveTo index position) := by
  have hget (state : State) (i : Nat) : (state.moveTo index position).openFiles[i]? =
      if index = i then (state.openFiles[i]?).map fun file => { file with position } else state.openFiles[i]? :=
    Array.getElem?_modify
  constructor
  · exact h.stores
  · exact h.listings_eq
  · show (state'.openFiles.modify index _).size = (state.openFiles.modify index _).size
    rw [Array.size_modify, Array.size_modify, h.size_eq]
  · intro i
    rw [hget, hget]
    split
    · rw [Option.map_map, Option.map_map]
      exact h.url_eq i
    · exact h.url_eq i
  · intro i hi
    rw [hget, hget]
    split
    · -- Only the URL is left of what was there.
      have hmoved (found : Option OpenFile) : (found.map fun file => ({ file with position } : OpenFile)) =
          (found.map OpenFile.url).map fun url => { url, position } := by
        rw [Option.map_map]
        rfl
      rw [hmoved, hmoved, h.url_eq]
    · rename_i hne
      exact h.openFiles_eq i fun hA => hi ⟨hA, fun heq => hne heq.symm⟩

/-- A file that is moved on one side only is adrift. -/
theorem moveTo_left (h : Apart A state state') (hindex : index ∈ A) (position : Nat) :
    Apart A (state.moveTo index position) state' := by
  have hget (i : Nat) : (state.moveTo index position).openFiles[i]? =
      if index = i then (state.openFiles[i]?).map fun file => { file with position } else state.openFiles[i]? :=
    Array.getElem?_modify
  constructor
  · exact h.stores
  · exact h.listings_eq
  · rw [h.size_eq]
    exact Array.size_modify.symm
  · intro i
    rw [hget, h.url_eq]
    split
    · rw [Option.map_map]
      rfl
    · rfl
  · intro i hi
    have hne : ¬ index = i := by
      rintro rfl
      exact hi hindex
    rw [hget, if_neg hne]
    exact h.openFiles_eq i hi

theorem push (h : Apart A state state') (file : OpenFile) :
    Apart A { state with openFiles := state.openFiles.push file }
      { state' with openFiles := state'.openFiles.push file } := by
  constructor
  · exact h.stores
  · exact h.listings_eq
  · show (state'.openFiles.push file).size = (state.openFiles.push file).size
    rw [Array.size_push, Array.size_push, h.size_eq]
  · intro i
    show ((state'.openFiles.push file)[i]?).map _ = ((state.openFiles.push file)[i]?).map _
    rw [Array.getElem?_push, Array.getElem?_push, h.size_eq]
    split
    · rfl
    · exact h.url_eq i
  · intro i hi
    show (state'.openFiles.push file)[i]? = (state.openFiles.push file)[i]?
    rw [Array.getElem?_push, Array.getElem?_push, h.size_eq]
    split
    · rfl
    · exact h.openFiles_eq i hi

/-! ### Calls that move no file -/

theorem change (h : Apart A state state') (label : String) {f : Store → Reply Store} (hf : Store.Oblivious f) :
    Tells A (state.change label f) (state'.change label f) := by
  obtain ⟨transfers, hstore⟩ := h.stores label
  unfold State.change
  rw [hstore, hf]
  cases f (state.store label) with
  | error error => exact ⟨rfl, h⟩
  | ok changed => exact ⟨rfl, h.withStore label ⟨transfers, rfl⟩⟩

theorem unlinkEach (h : Apart A state state') (label : String) (urls : List String) :
    Tells A (Memory.unlinkEach label urls state) (Memory.unlinkEach label urls state') := by
  induction urls generalizing state state' with
  | nil => exact ⟨rfl, h⟩
  | cons url urls ih =>
      obtain ⟨hreply, hleft⟩ := h.change label (Store.oblivious_unlink url)
      obtain ⟨hreplies, hafter⟩ := ih hleft
      exact ⟨congrArg₂ List.cons hreply hreplies, hafter⟩

/-- What a store tells is the same if it does not tell what it has observed. -/
theorem told_eq (h : Apart A state state') (label : String) {answer : Type} (tell : Store → answer)
    (htell : ∀ store transfers, tell (store.logging transfers) = tell store) :
    tell (state'.store label) = tell (state.store label) := by
  obtain ⟨transfers, hstore⟩ := h.stores label
  rw [hstore, htell]

theorem onBatch_eq (h : Apart A state state') (spec : Spec) (urls : List String) (token : String) {answer : Type}
    (a : answer) : onBatch spec urls token a state' = onBatch spec urls token a state := by
  rw [onBatch, onBatch, h.told_eq spec.store (·.perFile urls a) fun _ _ => rfl]

theorem openFile (h : Apart A state state') (spec : Spec) (url : String) (flags : UInt32) :
    Tells A (Memory.openFile spec url flags state) (Memory.openFile spec url flags state') := by
  obtain ⟨transfers, hstore⟩ := h.stores spec.store
  have hhas : (state'.store spec.store).hasFile url = (state.store spec.store).hasFile url := by
    rw [hstore]
    rfl
  unfold Memory.openFile
  dsimp only
  rw [hhas]
  split
  · rw [h.size_eq]
    exact ⟨rfl, h.push _⟩
  · split
    · exact ⟨rfl, h⟩
    · have hmade : Apart A (state.withStore spec.store ((state.store spec.store).putFile url []))
          (state'.withStore spec.store ((state'.store spec.store).putFile url [])) := by
        refine h.withStore spec.store ⟨transfers, ?_⟩
        rw [hstore]
        rfl
      refine ⟨?_, hmade.push _⟩
      show Except.ok (_ : FileHandle) = Except.ok _
      rw [hmade.size_eq]

theorem opendir (h : Apart A state state') (spec : Spec) (url : String) :
    Tells A (Memory.opendir spec url state) (Memory.opendir spec url state') := by
  obtain ⟨transfers, hstore⟩ := h.stores spec.store
  have hlisting : (state'.store spec.store).listing url = (state.store spec.store).listing url := by
    rw [hstore]
    rfl
  unfold Memory.opendir
  rw [hlisting]
  split
  · rw [h.listings_eq]
    exact ⟨rfl, { h with listings_eq := by rfl }⟩
  · exact ⟨rfl, h⟩

theorem readdir (h : Apart A state state') (dir : OpenHandle) :
    Tells A (Memory.readdir dir state) (Memory.readdir dir state') := by
  have hlisting : state'.listing? dir = state.listing? dir := by
    rw [State.listing?, State.listing?, h.listings_eq]
  unfold Memory.readdir
  rw [hlisting]
  split
  · rw [h.listings_eq]
    exact ⟨rfl, { h with listings_eq := by rfl }⟩
  · exact ⟨rfl, h⟩

/-- **Calls that move no file** are answered in the same way in worlds apart, and leave worlds apart. -/
theorem respond (h : Apart A state state') (own : InstanceId) (spec : Spec) {request : Call}
    (hmoves : request.moves = false) (hpread : ∀ opened size offset, request ≠ .pread opened size offset) :
    Tells A (Memory.respond own spec request state) (Memory.respond own spec request state') := by
  cases request with
  | rename source destination => exact h.change spec.store (Store.oblivious_rename source destination)
  | symlink target link => exact h.change spec.store (Store.oblivious_symlink target link)
  | mkdir url mode recursive => exact h.change spec.store (Store.oblivious_mkdir url recursive)
  | rmdir url => exact h.change spec.store (Store.oblivious_rmdir url)
  | unlink url => exact h.change spec.store (Store.oblivious_unlink url)
  | setxattr url name value mode => exact h.change spec.store (Store.oblivious_setxattr url name value mode)
  | unlinkList urls =>
      unfold Memory.respond
      split
      · obtain ⟨hreplies, hafter⟩ := h.unlinkEach spec.store urls
        exact ⟨congrArg some hreplies, hafter⟩
      · exact ⟨rfl, h⟩
  | stat url => exact ⟨h.told_eq spec.store (·.stat url) fun _ _ => rfl, h⟩
  | readlink url => exact ⟨h.told_eq spec.store (·.readlink url) fun _ _ => rfl, h⟩
  | getxattr url name => exact ⟨h.told_eq spec.store (·.getxattr url name) fun _ _ => rfl, h⟩
  | listxattr url => exact ⟨congrArg Except.ok (h.told_eq spec.store (·.listxattr url) fun _ _ => rfl), h⟩
  -- The answers of staging depend on which files there are, and on nothing else in the world.
  | bringOnline url options =>
      refine ⟨?_, h⟩
      show bringOnline spec url options state' = bringOnline spec url options state
      rw [bringOnline, bringOnline, h.told_eq spec.store (·.hasFile url) fun _ _ => rfl]
  | bringOnlineList urls options =>
      refine ⟨?_, h⟩
      show bringOnlineList spec urls options state' = bringOnlineList spec urls options state
      rw [bringOnlineList, bringOnlineList,
        h.told_eq spec.store (·.perFile urls (!options.asynchronous)) fun _ _ => rfl]
  | bringOnlinePollList urls token => exact ⟨h.onBatch_eq spec urls token true, h⟩
  | releaseFileList urls token | abortFiles urls token => exact ⟨h.onBatch_eq spec urls token (), h⟩
  | opendir url => exact h.opendir spec url
  | readdir dir => exact h.readdir dir
  | openFile url flags mode => exact h.openFile spec url flags
  | teardown | close => exact ⟨rfl, { h with }⟩
  | pread opened size offset => exact absurd rfl (hpread opened size offset)
  | read | write | lseek => exact Bool.noConfusion hmoves
  | _ => exact ⟨rfl, h⟩

/-! ### Calls that move a file -/

inductive Finds (A : Set Nat) (state state' : State) (opened : OpenHandle) : Prop
  | nothing (h : state.file? opened = none) (h' : state'.file? opened = none)
  /-- The same file, at another position perhaps if it is adrift. -/
  | file {index position : Nat} {file : OpenFile} (h : state.file? opened = some (index, file))
      (h' : state'.file? opened = some (index, { file with position }))
      (hposition : index ∉ A → position = file.position)

theorem finds (h : Apart A state state') (opened : OpenHandle) : Finds A state state' opened := by
  cases hfile : state.file? opened with
  | none =>
      refine .nothing hfile ?_
      unfold State.file? at hfile ⊢
      split at hfile
      · rename_i index hpayload
        have hnone : state.openFiles[index]? = none := Option.map_eq_none_iff.mp hfile
        have hurl := h.url_eq index
        rw [hnone] at hurl
        rw [Option.map_eq_none_iff.mp hurl]
        rfl
      · rfl
  | some found =>
      obtain ⟨index, file⟩ := found
      obtain ⟨hpayload, hopen⟩ := openFile_of_file? hfile
      have hurl := h.url_eq index
      rw [hopen] at hurl
      obtain ⟨file', hopen', hsame⟩ := Option.map_eq_some_iff.mp hurl
      have hfile' : file' = { file with position := file'.position } := by rw [← hsame]
      have hthere : state'.file? opened = some (index, { file with position := file'.position }) := by
        rw [file?_eq_some hpayload hopen', ← hfile']
      refine .file hfile hthere fun hindex => ?_
      have heq := h.openFiles_eq index hindex
      rw [hopen, hopen'] at heq
      rw [Option.some.inj heq]

/-- Nothing is in the place of a handle that finds no file. -/
theorem of_none (h : Apart A state state') (hfile : state.file? opened = none) :
    Apart (A \ place opened) state state' := by
  refine { h with openFiles_eq := fun i hi => ?_ }
  by_cases hA : i ∈ A
  · have hplace : opened.handle.payload = .openFile i := not_not.mp fun hne => hi ⟨hA, hne⟩
    unfold State.file? at hfile
    rw [hplace] at hfile
    have hnone : state.openFiles[i]? = none := Option.map_eq_none_iff.mp hfile
    have hurl := h.url_eq i
    rw [hnone] at hurl ⊢
    exact Option.map_eq_none_iff.mp hurl
  · exact h.openFiles_eq i hA

theorem readAt_eq (h : Apart A state state') (spec : Spec) (file : OpenFile) (size position : Nat) :
    readAt spec file size position state' = readAt spec file size position state := by
  rw [readAt, readAt, h.told_eq spec.store (·.contents? file.url) fun _ _ => rfl]

/-- **A read** from a file that is in one position on both sides. -/
theorem read (h : Apart A state state') (hplace : ∀ index ∈ place opened, index ∉ A) (spec : Spec) (size : Nat) :
    Tells A (Memory.read spec opened size state) (Memory.read spec opened size state') := by
  cases h.finds opened with
  | nothing hfile hfile' =>
      rw [read_of_none hfile, read_of_none hfile']
      exact ⟨rfl, h⟩
  | @file index position file hfile hfile' hposition =>
      have hsame : state'.file? opened = some (index, file) := by
        rw [hfile', hposition (hplace index (openFile_of_file? hfile).1)]
      have hrecorded := h.record spec.store (.read index file.position)
      unfold Memory.read
      rw [hfile, hsame]
      dsimp only
      rw [hrecorded.readAt_eq]
      split
      · exact ⟨rfl, (hrecorded.moveTo index _).mono fun _ hi => hi.1⟩
      · exact ⟨rfl, hrecorded⟩

/-- **A write** to a file that is in one position on both sides. -/
theorem write (h : Apart A state state') (hplace : ∀ index ∈ place opened, index ∉ A) (spec : Spec) (data : Bytes) :
    Tells A (Memory.write spec opened data state) (Memory.write spec opened data state') := by
  cases h.finds opened with
  | nothing hfile hfile' =>
      rw [write_of_none hfile, write_of_none hfile']
      exact ⟨rfl, h⟩
  | @file index position file hfile hfile' hposition =>
      have hsame : state'.file? opened = some (index, file) := by
        rw [hfile', hposition (hplace index (openFile_of_file? hfile).1)]
      obtain ⟨transfers, hstore⟩ := h.stores spec.store
      unfold Memory.write
      rw [hfile, hsame]
      dsimp only
      rw [h.told_eq spec.store (·.contents? file.url) fun _ _ => rfl]
      split
      · rename_i contents hcontents
        have hput : Apart A
            (state.withStore spec.store ((state.store spec.store).putFile file.url (contents.splice file.position data)))
            (state'.withStore spec.store
              ((state'.store spec.store).putFile file.url (contents.splice file.position data))) := by
          refine h.withStore spec.store ⟨transfers, ?_⟩
          rw [hstore]
          rfl
        exact ⟨rfl, (hput.moveTo index _).mono fun _ hi => hi.1⟩
      · exact ⟨rfl, h⟩

theorem seekPosition?_absolute {target : SeekTarget} (h : target.isAbsolute = true) (current current' size : Nat) :
    seekPosition? target current' size = seekPosition? target current size := by
  cases target with
  | current delta => exact Bool.noConfusion h
  | start offset | fromEnd delta => rfl

/-- **A seek** in a file that is in one position on both sides, or to a position that does not depend on that. If it
succeeds, the file is in one position from then on. -/
theorem seek (h : Apart A state state') {target : SeekTarget}
    (hplace : target.isAbsolute = true ∨ ∀ index ∈ place opened, index ∉ A) (spec : Spec) :
    Tells A (lseek spec opened target state) (lseek spec opened target state') ∧
      ∀ landed, (lseek spec opened target state).1 = .ok landed →
        Apart (A \ place opened) (lseek spec opened target state).2 (lseek spec opened target state').2 := by
  cases h.finds opened with
  | nothing hfile hfile' =>
      rw [lseek_of_none hfile, lseek_of_none hfile']
      exact ⟨⟨rfl, h⟩, fun _ hok => nomatch hok⟩
  | @file index position file hfile hfile' hposition =>
      have hsought : seekPosition? target position
            (((state.store spec.store).contents? file.url).getD []).length =
          seekPosition? target file.position (((state.store spec.store).contents? file.url).getD []).length := by
        rcases hplace with habsolute | hplace
        · exact seekPosition?_absolute habsolute _ _ _
        · rw [hposition (hplace index (openFile_of_file? hfile).1)]
      have hthere : A \ {index} ⊆ A \ place opened := by
        intro i hi
        refine ⟨hi.1, fun hother => hi.2 ?_⟩
        exact (Payload.openFile.inj ((openFile_of_file? hfile).1.symm.trans hother)).symm
      unfold lseek
      rw [hfile, hfile']
      dsimp only
      rw [h.told_eq spec.store (·.contents? file.url) fun _ _ => rfl, hsought]
      split
      · rename_i sought _
        have hmoved := (h.moveTo index (landing spec sought)).record spec.store (.seek index (landing spec sought))
        exact ⟨⟨rfl, hmoved.mono fun _ hi => hi.1⟩, fun _ _ => hmoved.mono hthere⟩
      · exact ⟨⟨rfl, h⟩, fun _ hok => nomatch hok⟩

/-- **A file goes adrift** that is sought in, and read from, on one side only. What is read is what is there on the
other side. -/
theorem drift (h : Apart A state state') {file : OpenFile} (hfile : state.file? opened = some (index, file))
    {offset : Nat} {sought : State}
    (hsought : sought = (state.moveTo index offset).record spec.store (.seek index offset)) (size : Nat) :
    (Memory.read spec opened size sought).1 = readAt spec file size offset state' ∧
      Apart (A ∪ place opened) (Memory.read spec opened size sought).2 state' := by
  obtain ⟨hpayload, hopen⟩ := openFile_of_file? hfile
  have hindex : index ∈ A ∪ place opened := .inr hpayload
  have hbefore : Apart (A ∪ place opened) sought state' := by
    rw [hsought]
    exact ((h.mono fun _ => .inl).moveTo_left hindex offset).record_left _ _
  have hthere : sought.file? opened = some (index, { file with position := offset }) := by
    refine file?_eq_some hpayload ?_
    rw [hsought]
    show (state.openFiles.modify index _)[index]? = _
    rw [Array.getElem?_modify, if_pos rfl, hopen]
    rfl
  have hrecorded := hbefore.record_left spec.store (.read index offset)
  unfold Memory.read
  rw [hthere]
  dsimp only
  rw [← hrecorded.readAt_eq]
  split
  · rename_i received hread
    exact ⟨hread.symm, hrecorded.moveTo_left hindex _⟩
  · rename_i source hread
    exact ⟨hread.symm, hrecorded⟩

end Apart

end State

end Memory

end StorageDispatch
