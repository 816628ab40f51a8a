import StorageDispatch.Proofs.Memory.Calls
import StorageDispatch.Proofs.Session.Upheld

set_option autoImplicit false

/-! # Backends in memory, and what they uphold

A backend is `InMemory` if it is one of a specification, under whatever identity. Such backends look at what a
handle stands for, but not at the position that is recorded in it, unless they are to read, write or seek. So they
uphold whatever is true of handles and world as long as no file is moved (`fair_alone`).
-/

namespace StorageDispatch

namespace Memory

open Context

/-- **A backend in memory**, of a specification of this kind. -/
def InMemory (P : Spec → Prop) (b : Backend State) : Prop :=
  ∃ own spec, P spec ∧ b = (backend own spec).identify b.id

variable {P : Spec → Prop} {b : Backend State} {opened opened' : OpenHandle}

/-- It is one still when it is handed over for registration. -/
theorem inMemory_newcomer {spec : Spec} (h : P spec) (n : Nat) :
    InMemory P (Session.newcomer n fun id => backend id spec) := ⟨.registered n, spec, h, rfl⟩

/-- A machine without modules makes none. -/
theorem makes_nothing : Makes (fun b _ => InMemory P b) ({} : Host State) := by
  intro dir name entryPoint hfile
  cases hfile

/-- It answers as its specification says. -/
theorem InMemory.respond_eq (h : InMemory P b) : ∃ own spec, P spec ∧ b.respond = respond own spec := by
  obtain ⟨own, spec, hspec, hb⟩ := h
  exact ⟨own, spec, hspec, congrArg Backend.respond hb⟩

/-! ## Recorded positions are not looked at -/

theorem file?_like (h : opened.Like opened') (state : State) : state.file? opened' = state.file? opened := by
  rw [State.file?, h.handle.payload_eq]
  rfl

theorem listing?_like (h : opened.Like opened') (state : State) : state.listing? opened' = state.listing? opened := by
  rw [State.listing?, h.handle.payload_eq]
  rfl

theorem readdir_like (h : opened.Like opened') (state : State) : readdir opened' state = readdir opened state := by
  rw [readdir, listing?_like h]
  rfl

/-- **A backend that does not tell the one handle from the other**, when directories are read and when something is
closed. -/
structure Blind (b : Backend State) (opened opened' : OpenHandle) : Prop where
  readdir : b.respond (.readdir opened') = b.respond (.readdir opened)
  readdirPlus : b.respond (.readdirPlus opened') = b.respond (.readdirPlus opened)
  close : b.respond (.close opened') = b.respond (.close opened)
  closedir : b.respond (.closedir opened') = b.respond (.closedir opened)

theorem InMemory.blind (hb : InMemory P b) (h : opened.Like opened') : Blind b opened opened' := by
  obtain ⟨own, spec, -, hrespond⟩ := hb.respond_eq
  have hreaddir : respond own spec (.readdir opened') = respond own spec (.readdir opened) :=
    funext fun state => readdir_like h state
  constructor <;> rw [hrespond]
  · exact hreaddir
  · rfl
  · rfl
  · rfl

/-! ## What is upheld -/

/-- A call about a URL, and what becomes of the directories that are open, moves no file. -/
theorem moves_of_about? {request : Call} (h : request.about? = none) : request.moves = false := by
  cases request <;> first | rfl | exact absurd h nofun

section Alone

variable {Holds : Array FileHandle → State → Prop} {Fresh : FileHandle → Array FileHandle → State → Prop}
  (hrests : ∀ handles before after, State.Rests before after → Holds handles before → Holds handles after)

include hrests

/-- A call that moves no file, and does not tell what the recorded positions are. -/
theorem same_alone (request : Call) (hb : InMemory P b) (hmoves : request.moves = false)
    {respond' : State → request.Answer × State} (hblind : respond' = b.respond request) :
    (Exchange.alone (InMemory P) Holds Fresh).Same (b.respond request) respond' := by
  obtain ⟨own, spec, -, hrespond⟩ := hb.respond_eq
  subst hblind
  rintro handles world handles' world' ⟨rfl, rfl, hholds⟩
  refine ⟨rfl, rfl, rfl, hrests handles' _ _ ?_ hholds⟩
  rw [hrespond]
  exact rests_respond own spec hmoves world'

/-- **Backends in memory uphold** what is true of handles and world, if it is as long as no file is moved, and if
handles that are opened may be taken in. -/
theorem fair_alone
    (hopens : ∀ own spec, P spec → ∀ {handles state}, Holds handles state → ∀ (o : Opening) (handle : FileHandle),
      o.part.accept (respond own spec o.part.call state).1 = .ok handle →
        Fresh (handle.setPathIfMissing o.url) handles (respond own spec o.part.call state).2)
    (hpush : ∀ {handle handles state}, Fresh handle handles state → Holds handles state →
      Holds (handles.push handle) state) : (Exchange.alone (InMemory P) Holds Fresh).Fair where
  id_eq _ := rfl
  name_eq _ := rfl
  priority_eq _ := rfl
  size_eq h := congrArg Array.size h.1
  handle_like h id := by
    rw [h.1]
    exact .refl _
  ask hb request hnone := same_alone hrests request hb (moves_of_about? hnone) rfl
  readdir hb opened _ hlike := same_alone hrests (.readdir opened) hb rfl (hb.blind hlike).readdir
  readdirPlus hb opened _ hlike := same_alone hrests (.readdirPlus opened) hb rfl (hb.blind hlike).readdirPlus
  close hb opened _ hlike := same_alone hrests (.close opened) hb rfl (hb.blind hlike).close
  closedir hb opened _ hlike := same_alone hrests (.closedir opened) hb rfl (hb.blind hlike).closedir
  opens {b} hb handles world handles' world' h o handle haccept := by
    obtain ⟨own, spec, hspec, hrespond⟩ := hb.respond_eq
    rw [hrespond] at haccept ⊢
    exact hopens own spec hspec h.2.2 o handle haccept
  push hfresh h := by
    obtain ⟨rfl, rfl, hholds⟩ := h
    exact ⟨rfl, rfl, hpush hfresh hholds⟩

end Alone

end Memory

end StorageDispatch
