import StorageDispatch.Proofs.Context.Transfers
import StorageDispatch.Proofs.Memory.Apart
import StorageDispatch.Proofs.Memory.Places

set_option autoImplicit false

/-! # Reads at a position, by the backend or by the dispatcher

A backend in memory that positions its reads itself stands in for one of the same specification that does not
(`parting`). The two are told apart by where the files are from which something has been read at a position: such
a file is adrift, and so is its handle. Worlds are `Apart` in the places of the handles adrift.

A read at a position sets its handle adrift (`pread_parting`); a write at a position, and a seek from the start or
from the end that succeeds, bring it back (`pwrite_parting`, `plain_parting`). Whatever else is done with a handle
that is not adrift comes to the same with both.
-/

namespace StorageDispatch

open Context

namespace Memory

open State

variable {spec : Spec} {own : InstanceId} {D D' : Set HandleId} {handles handles' : Array FileHandle}
  {before before' after after' : State} {name : String} {α β : Type}

def Spec.native (spec : Spec) : Spec := { spec with nativePread := true }

/-- A backend that positions its reads itself answers everything else in the same way. -/
theorem respond_native (own : InstanceId) (spec : Spec) {request : Call}
    (h : ∀ opened size offset, request ≠ .pread opened size offset) :
    respond own spec.native request = respond own spec request := by
  cases request with
  | pread opened size offset => exact absurd rfl (h opened size offset)
  | _ => rfl

/-! ## Handles adrift -/

def places (D : Set HandleId) (handles : Array FileHandle) : Set Nat :=
  {index | ∃ id ∈ D, ((handles[id]?).getD default).payload = .openFile index}

theorem places_push (D : Set HandleId) (handles : Array FileHandle) (handle : FileHandle) :
    places D handles ⊆ places D (handles.push handle) := by
  rintro index ⟨id, hid, hpayload⟩
  refine ⟨id, hid, ?_⟩
  cases hget : handles[id]? with
  | none =>
      rw [hget] at hpayload
      cases hpayload
  | some was =>
      have hlt : id < handles.size := (Array.getElem?_eq_some_iff.mp hget).1
      rwa [Array.getElem?_push, if_neg (Nat.ne_of_lt hlt)]

/-- Moving a handle changes nothing of it but the recorded position. -/
theorem like_moving (c : Context State) (id : HandleId) (offset : FileHandle → Nat) (other : HandleId) :
    ((c.handles[other]?).getD default).Like (((c.moving id offset).handles[other]?).getD default) := by
  unfold moving
  rw [Array.getElem?_modify]
  split
  · cases c.handles[other]? with
    | none => exact .refl default
    | some handle => exact .setOffset handle (offset handle)
  · exact .refl _

theorem places_moving (D : Set HandleId) (c : Context State) (id : HandleId) (offset : FileHandle → Nat) :
    places D c.handles ⊆ places D (c.moving id offset).handles := by
  rintro index ⟨other, hother, hpayload⟩
  exact ⟨other, hother, (like_moving c id offset other).payload_eq.trans hpayload⟩

/-- A handle that is no longer adrift takes its place with it. -/
theorem places_diff (D : Set HandleId) (c : Context State) (id : HandleId) :
    places D c.handles \ place (c.shown id) ⊆ places (D \ {id}) c.handles := by
  rintro index ⟨⟨other, hother, hpayload⟩, hplace⟩
  refine ⟨other, ⟨hother, ?_⟩, hpayload⟩
  rintro rfl
  exact hplace hpayload

/-- One more handle is adrift. -/
theorem places_insert (D : Set HandleId) (c : Context State) (id : HandleId) :
    places D c.handles ∪ place (c.shown id) ⊆ places (insert id D) c.handles := by
  rintro index (⟨other, hother, hpayload⟩ | hpayload)
  · exact ⟨other, .inr hother, hpayload⟩
  · exact ⟨id, .inl rfl, hpayload⟩

/-- **Handles of which some are adrift**, and their worlds. Those adrift belong to the one backend that there is. -/
structure Parted (name : String) (D : Set HandleId) (handles : Array FileHandle) (state : State)
    (handles' : Array FileHandle) (state' : State) : Prop where
  size_eq : handles'.size = handles.size
  handle_like : ∀ id : HandleId, ((handles[id]?).getD default).Like ((handles'[id]?).getD default)
  lodged : Lodged (fun _ _ => True) handles state
  owned : ∀ id ∈ D, ∃ handle : FileHandle, handles[id]? = some handle ∧ handle.owner = name
  apart : Apart (places D handles) state state'

namespace Parted

/-- The worlds have changed, and perhaps which handles are adrift. -/
theorem apart_to (h : Parted name D handles before handles' before')
    (hsize : before.openFiles.size ≤ after.openFiles.size)
    (howned : ∀ id ∈ D', ∃ handle : FileHandle, handles[id]? = some handle ∧ handle.owner = name)
    (hapart : Apart (places D' handles) after after') : Parted name D' handles after handles' after' where
  size_eq := h.size_eq
  handle_like := h.handle_like
  lodged := h.lodged.grow hsize
  owned := howned
  apart := hapart

/-- Handles are taken in on both sides. -/
theorem push (h : Parted name D handles before handles' before') {handle : FileHandle}
    (hnew : Lodger (fun _ _ => True) handle handles before) :
    Parted name D (handles.push handle) before (handles'.push handle) before' where
  size_eq := by rw [Array.size_push, Array.size_push, h.size_eq]
  handle_like id := by
    rw [Array.getElem?_push, Array.getElem?_push, h.size_eq]
    split
    · exact .refl handle
    · exact h.handle_like id
  lodged := h.lodged.push hnew
  owned id hid := by
    obtain ⟨was, hget, howner⟩ := h.owned id hid
    have hlt : id < handles.size := (Array.getElem?_eq_some_iff.mp hget).1
    refine ⟨was, ?_, howner⟩
    rwa [Array.getElem?_push, if_neg (Nat.ne_of_lt hlt)]
  apart := h.apart.mono (places_push D handles handle)

/-- A handle may be recorded to be wherever it is, on either side. -/
theorem moving_left {c : Context State} (h : Parted name D c.handles before handles' before') (id : HandleId)
    (offset : FileHandle → Nat) : Parted name D (c.moving id offset).handles before handles' before' where
  size_eq := h.size_eq.trans Array.size_modify.symm
  handle_like other := (like_moving c id offset other).symm.trans (h.handle_like other)
  lodged := h.lodged.moving id offset
  owned other hother := by
    obtain ⟨was, hget, howner⟩ := h.owned other hother
    unfold Context.moving
    rw [Array.getElem?_modify, hget]
    split
    · exact ⟨_, rfl, howner⟩
    · exact ⟨was, rfl, howner⟩
  apart := h.apart.mono (places_moving D c id offset)

theorem moving_right {c' : Context State} (h : Parted name D handles before c'.handles before') (id : HandleId)
    (offset : FileHandle → Nat) : Parted name D handles before (c'.moving id offset).handles before' :=
  { h with
    size_eq := Array.size_modify.trans h.size_eq
    handle_like := fun other => (h.handle_like other).trans (like_moving c' id offset other) }

/-- The file of a handle that is not adrift is in the same position on both sides. -/
theorem place_clean {c c' : Context State} (h : Parted name D c.handles before c'.handles before') {id : HandleId}
    (hid : id ∉ D) : ∀ index ∈ place (c.shown id), index ∉ places D c.handles := by
  rintro index hplace ⟨other, hother, hpayload⟩
  obtain ⟨handle, hget, -⟩ := h.owned other hother
  rw [hget] at hpayload
  have hshown : ((c.handles[id]?).getD default).payload = .openFile index := hplace
  cases hget' : c.handles[id]? with
  | none =>
      rw [hget'] at hshown
      cases hshown
  | some handle' =>
      rw [hget'] at hshown
      have heq : id = other := h.lodged.distinct id other handle' handle index hget' hget hshown hpayload
      rw [heq] at hid
      exact hid hother

end Parted

/-! ## The exchange -/

/-- **The backend that positions its reads itself stands in** for the one that does not, while these handles are
adrift. -/
def parting (own : InstanceId) (spec : Spec) (D : Set HandleId) : Exchange State where
  swap b := { b with respond := respond own spec.native }
  Known b := b = backend own spec
  Like := Parted spec.name D
  Fresh := Lodger fun _ _ => True

/-- A call that moves no file, and does not read at a position. -/
theorem same_parting (request : Call) (hmoves : request.moves = false)
    (hpread : ∀ opened size offset, request ≠ .pread opened size offset)
    {respond' : State → request.Answer × State} (hrespond : respond' = respond own spec request) :
    (parting own spec D).Same (respond own spec request) respond' := by
  subst hrespond
  intro handles world handles' world' h
  obtain ⟨hanswer, hapart⟩ := h.apart.respond own spec hmoves hpread
  exact ⟨hanswer, h.apart_to (size_le_respond own spec request world) h.owned hapart⟩

theorem blind_backend (own : InstanceId) (spec : Spec) {opened opened' : OpenHandle} (hlike : opened.Like opened') :
    Blind (backend own spec) opened opened' :=
  InMemory.blind (P := fun _ => True) ⟨own, spec, trivial, rfl⟩ hlike

/-- **Nobody notices who transfers nothing**, whatever is adrift. -/
theorem fair_parting (own : InstanceId) (spec : Spec) (D : Set HandleId) : (parting own spec D).Fair where
  id_eq _ := rfl
  name_eq _ := rfl
  priority_eq _ := rfl
  size_eq h := h.size_eq
  handle_like h := h.handle_like
  ask {b} hb request hnone := by
    obtain rfl : b = backend own spec := hb
    -- Reads at a position are about a handle.
    have hpread (opened : OpenHandle) (size offset : Nat) : request ≠ .pread opened size offset := by
      rintro rfl
      cases hnone
    exact same_parting request (moves_of_about? hnone) hpread (respond_native own spec hpread)
  readdir {b} hb opened _ hlike := by
    obtain rfl : b = backend own spec := hb
    exact same_parting (.readdir opened) rfl nofun (blind_backend own spec hlike).readdir
  readdirPlus {b} hb opened _ hlike := by
    obtain rfl : b = backend own spec := hb
    exact same_parting (.readdirPlus opened) rfl nofun (blind_backend own spec hlike).readdirPlus
  close {b} hb opened _ hlike := by
    obtain rfl : b = backend own spec := hb
    exact same_parting (.close opened) rfl nofun (blind_backend own spec hlike).close
  closedir {b} hb opened _ hlike := by
    obtain rfl : b = backend own spec := hb
    exact same_parting (.closedir opened) rfl nofun (blind_backend own spec hlike).closedir
  opens {b} hb handles world handles' world' h o handle haccept := by
    obtain rfl : b = backend own spec := hb
    exact h.lodged.lodger_opening own spec (fun _ _ _ _ => trivial) haccept
  push hfresh h := h.push hfresh

/-- The exchanges in which some handles are adrift, as far as this is allowed by what is registered. -/
def Within (own : InstanceId) (spec : Spec) (S : Set HandleId → Registry State → Prop) (E : Exchange State)
    (registry : Registry State) : Prop := ∃ D, E = parting own spec D ∧ S D registry

section After

variable {S : Set HandleId → Registry State → Prop} {d d' : Context State}

/-- After a use of a file, other handles may be adrift. Where the handle is recorded to be is not compared. -/
theorem accompany_recorded (h : Companions (parting own spec D) d d') (hD : S D' d.registry)
    (hparted : Parted spec.name D' d.handles after d'.handles after') (p : Plain α) (id : HandleId) (reply : Reply α) :
    Accompany (Within own spec S) (p.recorded id reply (d.inWorld after)) (p.recorded id reply (d'.inWorld after')) := by
  cases reply with
  | error source => exact ⟨_, ⟨D', rfl, hD⟩, { h with like := hparted }⟩
  | ok a => exact ⟨_, ⟨D', rfl, hD⟩, { h with like := (hparted.moving_left id _).moving_right id _ }⟩

theorem accompany_placing (h : Companions (parting own spec D) d d') (hD : S D' d.registry)
    (hparted : Parted spec.name D' d.handles after d'.handles after') (id : HandleId) (moved moved' : Option Nat) :
    Accompany (Within own spec S) ((d.inWorld after).placing id moved) ((d'.inWorld after').placing id moved') := by
  cases moved with
  | none =>
      cases moved' with
      | none => exact ⟨_, ⟨D', rfl, hD⟩, { h with like := hparted }⟩
      | some position => exact ⟨_, ⟨D', rfl, hD⟩, { h with like := hparted.moving_right id _ }⟩
  | some position =>
      cases moved' with
      | none => exact ⟨_, ⟨D', rfl, hD⟩, { h with like := hparted.moving_left id _ }⟩
      | some position' => exact ⟨_, ⟨D', rfl, hD⟩, { h with like := (hparted.moving_left id _).moving_right id _ }⟩

end After

/-! ## Plain transfers -/

/-- **A plain use of a file that goes the same way in worlds apart**, if its file is in the same position on both
sides, or if it is `absolute`. Once it has succeeded, the file is in the same position on both sides. -/
def Parallel (own : InstanceId) (spec : Spec) (absolute : Bool) (p : Plain α) : Prop :=
  ∀ {A : Set Nat} {opened opened' : OpenHandle} {before before' after after' : State}
    {answer : (p.request opened).Answer} {answer' : (p.request opened').Answer}, opened.Like opened' →
    Apart A before before' → (absolute = true ∨ ∀ index ∈ place opened, index ∉ A) →
    respond own spec (p.request opened) before = (answer, after) →
    respond own spec.native (p.request opened') before' = (answer', after') →
      p.reply opened' answer' = p.reply opened answer ∧ Apart A after after' ∧
        ∀ a, p.reply opened answer = .ok a → Apart (A \ place opened) after after'

/-! Which of the two backends it is makes no difference, nor where the handle is recorded to be. -/

theorem read_native {opened opened' : OpenHandle} (hlike : opened.Like opened') (size : Nat) (state : State) :
    read spec.native opened' size state = read spec opened size state := by
  unfold read
  rw [file?_like hlike]
  rfl

theorem write_native {opened opened' : OpenHandle} (hlike : opened.Like opened') (data : Bytes) (state : State) :
    write spec.native opened' data state = write spec opened data state := by
  unfold write
  rw [file?_like hlike]
  rfl

theorem lseek_native {opened opened' : OpenHandle} (hlike : opened.Like opened') (target : SeekTarget)
    (state : State) : lseek spec.native opened' target state = lseek spec opened target state := by
  unfold lseek
  rw [file?_like hlike]
  rfl

theorem parallel_reading (own : InstanceId) (spec : Spec) (size : Nat) : Parallel own spec false (.reading size) := by
  intro A opened opened' before before' after after' answer answer' hlike h hclean hcall hcall'
  have hplace : ∀ index ∈ place opened, index ∉ A := hclean.resolve_left nofun
  have hread : read spec opened size before = (answer, after) := hcall
  have hread' : read spec opened size before' = (answer', after') := (read_native hlike size before').symm.trans hcall'
  obtain ⟨hanswer, hapart⟩ := h.read hplace spec size
  rw [hread, hread'] at hanswer hapart
  exact ⟨hanswer, hapart, fun _ _ => hapart.settle hplace⟩

theorem parallel_writing (own : InstanceId) (spec : Spec) (data : Bytes) : Parallel own spec false (.writing data) := by
  intro A opened opened' before before' after after' answer answer' hlike h hclean hcall hcall'
  have hplace : ∀ index ∈ place opened, index ∉ A := hclean.resolve_left nofun
  have hwrite : write spec opened data before = (answer, after) := hcall
  have hwrite' : write spec opened data before' = (answer', after') :=
    (write_native hlike data before').symm.trans hcall'
  obtain ⟨hanswer, hapart⟩ := h.write hplace spec data
  rw [hwrite, hwrite'] at hanswer hapart
  exact ⟨hanswer, hapart, fun _ _ => hapart.settle hplace⟩

theorem parallel_seeking (own : InstanceId) (spec : Spec) (target : SeekTarget) :
    Parallel own spec target.isAbsolute (.seeking target) := by
  intro A opened opened' before before' after after' answer answer' hlike h hclean hcall hcall'
  have hseek : lseek spec opened target before = (answer, after) := hcall
  have hseek' : lseek spec opened target before' = (answer', after') :=
    (lseek_native hlike target before').symm.trans hcall'
  obtain ⟨⟨hanswer, hapart⟩, hsettled⟩ := h.seek hclean spec
  rw [hseek, hseek'] at hanswer hapart hsettled
  exact ⟨hanswer, hapart, hsettled⟩

section Transfers

variable {S : Set HandleId → Registry State → Prop} {c c' : Context State} {key : DescriptorKey} {value : α → β}

/-- **Plain uses of a file side by side.** A handle is not adrift any longer once this has succeeded. -/
theorem plain_parting (h : Companions (parting own spec D) c c') {p : Plain α} {absolute : Bool}
    (hp : Parallel own spec absolute p) (value : α → β)
    (hclean : ∀ id plugin d, (selectOwner p.operation .file key).run.run c = (.ok (id, plugin), d) →
      absolute = true ∨ id ∉ D)
    (hstay : ∀ outcome d error, (selectOwner p.operation .file key).run.run c = (outcome, d) →
      ((p.serve key value).run.run c).1 = .error error → S D d.registry)
    (hsettle : ∀ id plugin d b, (selectOwner p.operation .file key).run.run c = (.ok (id, plugin), d) →
      ((p.serve key value).run.run c).1 = .ok b → S (D \ {id}) d.registry) :
    MeetsE (Accompany (Within own spec S)) Eq (p.serve key value) (p.serve key value) c c' := by
  refine Companions.plain (fair_parting own spec D) h p value ?_ ?_
  · intro error d hrun
    refine ⟨D, rfl, hstay _ d error hrun ?_⟩
    exact congrArg Prod.fst (run_unserved hrun _)
  · intro id plugin d d' answer after answer' after' hrun hknown hleft hcall hcall' houtcome
    have hparted : Parted spec.name D d.handles d.world d'.handles d'.world := hleft.like
    have hlike : (d.shown id).Like (d'.shown id) := ⟨rfl, hparted.handle_like id⟩
    have hplace := (hclean id plugin d hrun).imp_right hparted.place_clean
    rw [show plugin.backend = backend own spec from hknown] at hcall
    obtain ⟨hreply, hapart, hsettled⟩ := hp hlike hparted.apart hplace hcall hcall'
    have hsize : d.world.openFiles.size ≤ after.openFiles.size := by
      have hgrown := size_le_respond own spec (p.request (d.shown id)) d.world
      rwa [show respond own spec _ _ = _ from hcall] at hgrown
    refine ⟨hreply, ?_⟩
    cases hanswer : p.reply (d.shown id) answer with
    -- A use that fails settles nothing, and what was adrift stays so.
    | error source =>
        rw [hanswer] at houtcome
        have hafter := hparted.apart_to hsize hparted.owned hapart
        exact accompany_recorded hleft (hstay _ d _ hrun houtcome) hafter p id _
    | ok a =>
        rw [hanswer] at houtcome
        have hafter : Parted spec.name (D \ {id}) d.handles after d'.handles after' :=
          hparted.apart_to hsize (fun other hother => hparted.owned other hother.1)
            ((hsettled a hanswer).mono (places_diff D d id))
        exact accompany_recorded hleft (hsettle id plugin d _ hrun houtcome) hafter p id _

end Transfers

/-! ## Transfers at a position -/

section Positioned

variable {A : Set Nat} {b b' : Backend State} {opened opened' : OpenHandle} {data buffer : Bytes} {offset : Nat}
  {calls : List Call} {moved : Option Nat}

/-- However a transfer goes, no file is closed by it. -/
theorem size_le_goes {t : Positioned α} (hb : b.respond = respond own spec) {result : Except Error α}
    (h : t.Goes b opened before result calls after moved) : before.openFiles.size ≤ after.openFiles.size := by
  refine h.keeps (R := fun x y => x.openFiles.size ≤ y.openFiles.size) Nat.le_trans fun request state => ?_
  rw [hb]
  exact size_le_respond own spec request state

/-- A backend in memory leaves writes at a position to the dispatcher. -/
theorem pwrite_emulated (hb : b.respond = respond own spec) {result : Except Error Nat}
    (h : (Positioned.writing data offset).Goes b opened before result calls after moved) :
    (Positioned.writing data offset).emulation b opened before = (result, after) := by
  cases h with
  | native hnative hreply =>
      rw [hb] at hnative
      cases hnative
      cases hreply
  | emulated hnative _ hemulated =>
      rw [hb] at hnative
      cases hnative
      exact hemulated.eq_emulation

/-- And reads, if it does not position them itself. -/
theorem pread_emulated (hb : b.respond = respond own spec) (hplain : spec.nativePread = false)
    {result : Except Error Received}
    (h : (Positioned.reading buffer offset).Goes b opened before result calls after moved) :
    (Positioned.reading buffer offset).emulation b opened before = (result, after) := by
  have hrespond : b.respond (.pread opened buffer.length offset) before = (none, before) := by
    rw [hb]
    show pread spec own opened buffer.length offset before = (none, before)
    rw [pread, hplain, if_neg Bool.false_ne_true]
  cases h with
  | native hnative hreply =>
      cases hrespond.symm.trans hnative
      cases hreply
  | emulated hnative _ hemulated =>
      cases hrespond.symm.trans hnative
      exact hemulated.eq_emulation

/-- **A write at a position in worlds apart** comes to the same, and its file is in the same position after it. -/
theorem emulation_writing (hb : b.respond = respond own spec) (hb' : b'.respond = respond own spec.native)
    (hlike : opened.Like opened') (h : Apart A before before') (data : Bytes) (offset : Nat) :
    Tells (A \ place opened) ((Positioned.writing data offset).emulation b opened before)
      ((Positioned.writing data offset).emulation b' opened' before') := by
  have hplace : ∀ index ∈ place opened, index ∉ A \ place opened := fun index hindex hA => hA.2 hindex
  have hsought : b.respond (.lseek opened (.start offset)) before = lseek spec opened (.start offset) before := by
    rw [hb, respond_lseek]
  have hsought' : b'.respond (.lseek opened' (.start offset)) before' = lseek spec opened (.start offset) before' := by
    rw [hb', respond_lseek, lseek_native hlike]
  have habsolute : (SeekTarget.start offset).isAbsolute = true := rfl
  obtain ⟨⟨hanswer, -⟩, hsettled⟩ := h.seek (.inl habsolute) spec
  unfold Positioned.emulation
  rw [show b.respond (.lseek opened (.start (Positioned.writing data offset).offset)) before = _ from hsought,
    show b'.respond (.lseek opened' (.start (Positioned.writing data offset).offset)) before' = _ from hsought']
  rcases hseek : lseek spec opened (.start offset) before with ⟨answer, sought⟩
  rcases hseek' : lseek spec opened (.start offset) before' with ⟨answer', sought'⟩
  rw [hseek, hseek'] at hanswer hsettled
  obtain rfl : answer' = answer := hanswer
  cases answer' with
  | error source =>
      -- A seek from the start fails only if there is no file, and then none is adrift.
      refine ⟨rfl, ?_⟩
      rw [lseek_error hseek, lseek_error hseek']
      cases hfile : before.file? opened with
      | none => exact h.of_none hfile
      | some found =>
          rw [lseek_start hfile] at hseek
          cases hseek
  | ok landed =>
      have hat : Apart (A \ place opened) sought sought' := hsettled landed rfl
      dsimp only
      split
      · rename_i hlanded
        obtain ⟨hreply, hafter, -⟩ := parallel_writing own spec data hlike hat (.inr hplace) rfl rfl
        rw [hb, hb']
        exact ⟨congrArg (tag .pwrite) hreply, hafter⟩
      · exact ⟨rfl, hat⟩

/-- Without a file, nothing is sought in. -/
theorem emulation_none (hb : b.respond = respond own spec) (hfile : before.file? opened = none) (t : Positioned α) :
    t.emulation b opened before = (.error (.backend t.operation.name notFile), before) := by
  unfold Positioned.emulation
  rw [hb, respond_lseek, lseek_of_none hfile]

/-- **A read at a position, left to the dispatcher**: the file moves to the position, and is read from there. -/
theorem emulation_reading (hb : b.respond = respond own spec) (hskew : spec.seekSkew = 0) (hle : offset ≤ maxOffset)
    {index : Nat} {file : OpenFile} (hfile : before.file? opened = some (index, file)) {sought : State}
    (hsought : sought = (before.moveTo index offset).record spec.store (.seek index offset)) (buffer : Bytes) :
    (Positioned.reading buffer offset).emulation b opened before =
      (tag .pread (read spec opened buffer.length sought).1, (read spec opened buffer.length sought).2) := by
  have hseek : b.respond (.lseek opened (.start offset)) before = (.ok offset, sought) := by
    rw [hb, respond_lseek, lseek_start hfile, landing_of_skew hskew hle, hsought]
  have hread : b.respond (.read opened buffer.length) sought = read spec opened buffer.length sought := by
    rw [hb, respond_read]
  unfold Positioned.emulation
  rw [show b.respond (.lseek opened (.start (Positioned.reading buffer offset).offset)) before = _ from hseek]
  dsimp only
  rw [if_pos (show offset = (Positioned.reading buffer offset).offset from rfl),
    show b.respond ((Positioned.reading buffer offset).plain opened) sought = _ from hread]
  rfl

/-- **A read at a position by the backend**: it tells what is there, and counts that it was asked. -/
theorem pread_native (hb : b.respond = respond own spec.native) {result : Except Error Received}
    (h : (Positioned.reading buffer offset).Goes b opened before result calls after moved) :
    (∃ add, after = before.count own add) ∧ result = tag .pread (match before.file? opened with
      | some (_, file) => readAt spec file buffer.length offset before
      | none => .error notFile) := by
  have hrespond : b.respond (.pread opened buffer.length offset) before =
      (some (match before.file? opened with
        | some (_, file) => readAt spec file buffer.length offset before
        | none => .error notFile), before.count own fun tally => { tally with preads := tally.preads + 1 }) := by
    rw [hb]
    show pread spec.native own opened buffer.length offset before = _
    unfold pread
    rw [if_pos (show spec.native.nativePread = true from rfl)]
    dsimp only
    rw [show (before.count own _).file? opened = before.file? opened from rfl]
    cases before.file? opened <;> rfl
  cases h with
  | native hnative hreply =>
      cases hrespond.symm.trans hnative
      cases hreply
      exact ⟨⟨_, rfl⟩, rfl⟩
  | emulated hnative hnone =>
      cases hrespond.symm.trans hnative
      cases hnone

end Positioned

section Transfers

variable {S : Set HandleId → Registry State → Prop} {c c' : Context State} {key : DescriptorKey} {data : Bytes}
  {offset : Nat}

/-- The handle of a file that is found is there, and belongs to the plugin that was selected. -/
theorem owned_of_selected {operation : Operation} {id : HandleId} {plugin : Plugin State} {d : Context State}
    {found : Nat × OpenFile} (hrun : (selectOwner operation .file key).run.run c = (.ok (id, plugin), d))
    (hfile : d.world.file? (d.shown id) = some found) :
    ∃ handle : FileHandle, d.handles[id]? = some handle ∧ handle.owner = plugin.name := by
  obtain ⟨index, file⟩ := found
  obtain ⟨-, hname, -⟩ := selectOwner_does hrun
  have hpayload : ((d.handles[id]?).getD default).payload = .openFile index := (openFile_of_file? hfile).1
  rw [shown, ← (selectOwner_leaves hrun).2.1] at hname
  cases hget : d.handles[id]? with
  | none =>
      rw [hget] at hpayload
      cases hpayload
  | some handle =>
      rw [hget] at hname
      exact ⟨handle, rfl, hname.symm⟩

/-- **A write at a position side by side.** Its handle is not adrift any longer, unless its owner is not found. -/
theorem pwrite_parting (h : Companions (parting own spec D) c c') (data : Bytes) (offset : Nat)
    (hstay : ∀ error d, (selectOwner .pwrite .file key).run.run c = (.error error, d) → S D d.registry)
    (hsettle : ∀ id plugin d, (selectOwner .pwrite .file key).run.run c = (.ok (id, plugin), d) →
      S (D \ {id}) d.registry) :
    MeetsE (Accompany (Within own spec S)) Eq (Context.pwrite key data offset) (Context.pwrite key data offset) c c' := by
  refine Companions.positioned (fair_parting own spec D) h (Positioned.writing_serves key data offset) ?_ ?_
  · intro error d hrun
    exact ⟨D, rfl, hstay error d hrun⟩
  · intro id plugin d d' result calls world moved result' calls' world' moved' hrun hknown hleft hgoes hgoes'
    have hparted : Parted spec.name D d.handles d.world d'.handles d'.world := hleft.like
    have hrespond : plugin.backend.respond = respond own spec := congrArg Backend.respond hknown
    have hlike : (d.shown id).Like (d'.shown id) := ⟨rfl, hparted.handle_like id⟩
    have hrespond' : ((parting own spec D).swap plugin.backend).respond = respond own spec.native := rfl
    have htold := emulation_writing hrespond hrespond' hlike hparted.apart data offset
    rw [pwrite_emulated hrespond hgoes, pwrite_emulated hrespond' hgoes'] at htold
    have hsize := size_le_goes hrespond hgoes
    have hafter : Parted spec.name (D \ {id}) d.handles world d'.handles world' :=
      hparted.apart_to hsize (fun other hother => hparted.owned other hother.1)
        (htold.apart.mono (places_diff D d id))
    exact ⟨htold.answer_eq, accompany_placing hleft (hsettle id plugin d hrun) hafter id moved moved'⟩

/-- **A read at a position side by side.** Its handle is adrift after it, if there is a file to read from. -/
theorem pread_parting (h : Companions (parting own spec D) c c') (hplain : spec.nativePread = false)
    (hskew : spec.seekSkew = 0) (buffer : Bytes) (hle : offset ≤ maxOffset)
    (hstay : ∀ outcome d, (selectOwner .pread .file key).run.run c = (outcome, d) → S D d.registry)
    (hdrift : ∀ id plugin d, (selectOwner .pread .file key).run.run c = (.ok (id, plugin), d) →
      plugin.name = spec.name → S (insert id D) d.registry) :
    MeetsE (Accompany (Within own spec S)) Eq (Context.pread key buffer offset)
      (Context.pread key buffer offset) c c' := by
  refine Companions.positioned (fair_parting own spec D) h (Positioned.reading_serves key buffer offset) ?_ ?_
  · intro error d hrun
    exact ⟨D, rfl, hstay _ d hrun⟩
  · intro id plugin d d' result calls world moved result' calls' world' moved' hrun hknown hleft hgoes hgoes'
    have hparted : Parted spec.name D d.handles d.world d'.handles d'.world := hleft.like
    have hrespond : plugin.backend.respond = respond own spec := congrArg Backend.respond hknown
    have hlike : (d.shown id).Like (d'.shown id) := ⟨rfl, hparted.handle_like id⟩
    have hsize := size_le_goes hrespond hgoes
    have hemulated := pread_emulated hrespond hplain hgoes
    obtain ⟨⟨add, rfl⟩, htold⟩ := pread_native rfl hgoes'
    rw [file?_like hlike] at htold
    cases hparted.apart.finds (d.shown id) with
    -- Without a file both sides fail, and no handle goes adrift.
    | nothing hfile hfile' =>
        rw [emulation_none hrespond hfile] at hemulated
        obtain ⟨rfl, rfl⟩ := Prod.mk.inj hemulated
        rw [hfile'] at htold
        have hafter := hparted.apart_to hsize hparted.owned (hparted.apart.count_right own add)
        exact ⟨htold, accompany_placing hleft (hstay _ d hrun) hafter id moved moved'⟩
    -- Here the file is moved by a seek and a read, and there it stays where it was.
    | file hfile hfile' =>
        rw [emulation_reading hrespond hskew hle hfile rfl] at hemulated
        obtain ⟨rfl, rfl⟩ := Prod.mk.inj hemulated
        rw [hfile'] at htold
        obtain ⟨hread, hapart⟩ := hparted.apart.drift hfile rfl buffer.length
        have hname : plugin.name = spec.name := congrArg Backend.name hknown
        have howned : ∀ other ∈ insert id D, ∃ handle : FileHandle,
            d.handles[other]? = some handle ∧ handle.owner = spec.name := by
          rintro other (rfl | hother)
          · rw [← hname]
            exact owned_of_selected hrun hfile
          · exact hparted.owned other hother
        have hafter := hparted.apart_to hsize howned
          ((hapart.mono (places_insert D d id)).count_right own add)
        have hsame : result' = tag .pread (read spec (d.shown id) buffer.length _).1 :=
          htold.trans (congrArg (tag .pread) hread.symm)
        exact ⟨hsame, accompany_placing hleft (hdrift id plugin d hrun hname) hafter id moved moved'⟩

end Transfers

end Memory

end StorageDispatch
