import StorageDispatch.Proofs.Context.Positioned
import StorageDispatch.Proofs.Memory.Backends

set_option autoImplicit false

/-! # Handles and the places of their files

A backend in memory finds an open file by the place that a handle names. No two handles that it has opened name the
same place, and there is a file in each (`Lodged`): a place is new when a file is opened (`lodger_opening`), and is
never given up. What else is true of a handle and its file is a parameter here.
-/

namespace StorageDispatch

open Context

namespace Memory

variable {R : FileHandle → OpenFile → Prop} {handles : Array FileHandle} {before after : State}

/-- There is a file in the place that a handle names, and this is true of the two. -/
def Placed (R : FileHandle → OpenFile → Prop) (handle : FileHandle) (state : State) : Prop :=
  ∀ index, handle.payload = .openFile index → ∃ file, state.openFiles[index]? = some file ∧ R handle file

/-- **Every handle has its file, and no two of them the same.** -/
structure Lodged (R : FileHandle → OpenFile → Prop) (handles : Array FileHandle) (state : State) : Prop where
  placed : ∀ (id : HandleId) (handle : FileHandle), handles[id]? = some handle → Placed R handle state
  distinct : ∀ (id other : HandleId) (handle handle' : FileHandle) (index : Nat), handles[id]? = some handle →
    handles[other]? = some handle' → handle.payload = .openFile index → handle'.payload = .openFile index →
      id = other

/-- A handle is what it was before one of them was moved, at another recorded position if it is that one. -/
theorem getElem?_moving {c : Context State} {id other : HandleId} {offset : FileHandle → Nat} {handle : FileHandle}
    (h : (c.moving id offset).handles[other]? = some handle) : ∃ was : FileHandle, c.handles[other]? = some was ∧
      handle = was.setOffset (if id = other then offset was else was.offset) := by
  unfold moving at h
  rw [Array.getElem?_modify] at h
  split at h
  · rename_i hid
    obtain ⟨was, hwas, rfl⟩ := Option.map_eq_some_iff.mp h
    exact ⟨was, hwas, by rw [if_pos hid]⟩
  · rename_i hid
    exact ⟨handle, h, by rw [if_neg hid]; rfl⟩

/-- A handle of a file that no other handle names. -/
def Lodger (R : FileHandle → OpenFile → Prop) (handle : FileHandle) (handles : Array FileHandle) (state : State) :
    Prop :=
  Placed R handle state ∧ ∀ index, handle.payload = .openFile index →
    ∀ (id : HandleId) (other : FileHandle), handles[id]? = some other → other.payload ≠ .openFile index

/-- A handle that names no place. -/
theorem lodger_of_ne {handle : FileHandle} (h : ∀ index, handle.payload ≠ .openFile index) :
    Lodger R handle handles before :=
  ⟨fun index hindex => absurd hindex (h index), fun index hindex => absurd hindex (h index)⟩

theorem Placed.rests {handle : FileHandle} (h : Placed R handle before) (hrests : before.Rests after) :
    Placed R handle after := by
  intro index hpayload
  obtain ⟨file, hopen, hfile⟩ := h index hpayload
  exact ⟨file, hrests.openFiles index file hopen, hfile⟩

namespace Lodged

theorem empty (state : State) : Lodged R #[] state := by
  constructor
  · intro id handle hget
    cases hget
  · intro id other handle handle' index hget
    cases hget

theorem rests (h : Lodged R handles before) (hrests : before.Rests after) : Lodged R handles after :=
  ⟨fun id handle hget => (h.placed id handle hget).rests hrests, h.distinct⟩

/-- If nothing else is true of a handle and its file, then it is enough that none is closed. -/
theorem grow (h : Lodged (fun _ _ => True) handles before)
    (hsize : before.openFiles.size ≤ after.openFiles.size) : Lodged (fun _ _ => True) handles after := by
  refine ⟨fun id handle hget index hpayload => ?_, h.distinct⟩
  obtain ⟨file, hopen, -⟩ := h.placed id handle hget index hpayload
  have hlt : index < before.openFiles.size := (Array.getElem?_eq_some_iff.mp hopen).1
  exact ⟨_, Array.getElem?_eq_getElem (hlt.trans_le hsize), trivial⟩

/-- And wherever a handle is recorded to be. -/
theorem moving {c : Context State} (h : Lodged (fun _ _ => True) c.handles before) (id : HandleId)
    (offset : FileHandle → Nat) : Lodged (fun _ _ => True) (c.moving id offset).handles before := by
  constructor
  · intro other handle hget index hpayload
    obtain ⟨was, hwas, rfl⟩ := getElem?_moving hget
    exact h.placed other was hwas index hpayload
  · intro one two handle handle' index hone htwo hpayload hpayload'
    obtain ⟨was, hwas, rfl⟩ := getElem?_moving hone
    obtain ⟨was', hwas', rfl⟩ := getElem?_moving htwo
    exact h.distinct one two was was' index hwas hwas' hpayload hpayload'

/-- Another handle is taken in, of a file of its own. -/
theorem push (h : Lodged R handles before) {handle : FileHandle} (hnew : Lodger R handle handles before) :
    Lodged R (handles.push handle) before := by
  obtain ⟨hplaced, hunshared⟩ := hnew
  constructor
  · intro id other hget
    rw [Array.getElem?_push] at hget
    split at hget
    · cases hget
      exact hplaced
    · exact h.placed id other hget
  · intro id other handle₁ handle₂ index hget hget' hpayload hpayload'
    rw [Array.getElem?_push] at hget hget'
    -- The new handle and an old one do not name the same place.
    split at hget <;> split at hget'
    · rename_i hid hother
      exact hid.trans hother.symm
    · cases hget
      exact absurd hpayload' (hunshared index hpayload other handle₂ hget')
    · cases hget'
      exact absurd hpayload (hunshared index hpayload' id handle₁ hget)
    · exact h.distinct id other handle₁ handle₂ index hget hget' hpayload hpayload'

/-- A place behind the others is named by no handle. -/
theorem lodger_last (h : Lodged R handles before) {handle : FileHandle} {file : OpenFile}
    (hnew : after.openFiles[before.openFiles.size]? = some file)
    (hpayload : handle.payload = .openFile before.openFiles.size) (hfile : R handle file) :
    Lodger R handle handles after := by
  constructor
  · intro index hindex
    rw [hpayload] at hindex
    cases hindex
    exact ⟨file, hnew, hfile⟩
  · intro index hindex id other hget hother
    rw [hpayload] at hindex
    cases hindex
    obtain ⟨there, hopen, -⟩ := h.placed id other hget _ hother
    have hlt : before.openFiles.size < before.openFiles.size := (Array.getElem?_eq_some_iff.mp hopen).1
    exact absurd hlt (Nat.lt_irrefl _)

/-- **What is opened has a place of its own.** -/
theorem lodger_opening (own : InstanceId) (spec : Spec) (h : Lodged R handles before) {o : Opening}
    {handle : FileHandle} (hnew : ∀ (handle : FileHandle) (file : OpenFile), handle.offset = 0 → file.position = 0 →
      R handle file) (haccept : o.part.accept (respond own spec o.part.call before).1 = .ok handle) :
    Lodger R (handle.setPathIfMissing o.url) handles (respond own spec o.part.call before).2 := by
  cases o with
  | file url flags mode =>
      have hopened : (openFile spec url flags before).1 = .ok handle := haccept
      show Lodger R (handle.setPathIfMissing url) handles (openFile spec url flags before).2
      unfold openFile at hopened ⊢
      dsimp only at hopened ⊢
      split at hopened
      · rename_i hthere
        cases hopened
        rw [if_pos hthere]
        exact h.lodger_last Array.getElem?_push_size rfl (hnew _ _ rfl rfl)
      · rename_i hmissing
        split at hopened
        · cases hopened
        · rename_i hcreate
          cases hopened
          rw [if_neg hmissing, if_neg hcreate]
          exact h.lodger_last Array.getElem?_push_size rfl (hnew _ _ rfl rfl)
  | directory url =>
      -- An open directory is in no place for files.
      have hopened : (opendir spec url before).1 = .ok handle := haccept
      apply lodger_of_ne
      intro index
      unfold opendir at hopened
      split at hopened <;> cases hopened
      nofun

end Lodged

end Memory

end StorageDispatch
