import StorageDispatch.Proofs.Context.Exchange
import StorageDispatch.Proofs.Session.Turn

set_option autoImplicit false

/-! # What a session upholds

A context is a companion of itself if its backends are known, and if its handles and its world are as they are to
be. So an exchange in which every backend stands in for itself says what a session is to uphold, and a `Fair` one
is upheld by every step that transfers nothing (`upholds_step`). Over a run it is upheld if the transfers uphold it
that it makes (`upholds_run`).
-/

namespace StorageDispatch

open Context

variable {σ : Type}

/-- Every backend stands in for itself, as long as it is known and this is true of handles and world. -/
def Exchange.alone (Known : Backend σ → Prop) (Holds : Array FileHandle → σ → Prop)
    (Fresh : FileHandle → Array FileHandle → σ → Prop) : Exchange σ where
  swap := id
  Known := Known
  Like handles world handles' world' := handles' = handles ∧ world' = world ∧ Holds handles world
  Fresh := Fresh

namespace Exchange

/-- Modules may make the backends that are known. -/
theorem makes_alone {Known : Backend σ → Prop} {Holds : Array FileHandle → σ → Prop}
    {Fresh : FileHandle → Array FileHandle → σ → Prop} {host : Host σ} :
    Makes (Exchange.alone Known Holds Fresh).Traded host ↔ Makes (fun backend _ => Known backend) host := by
  constructor
  · intro h dir name entryPoint hfile told n backend hbackend
    exact (h dir name entryPoint hfile told n backend hbackend).2
  · intro h dir name entryPoint hfile told n backend hbackend
    exact ⟨rfl, h dir name entryPoint hfile told n backend hbackend⟩

/-- Steps that bring no unknown backends and no handles that may not be taken in, and change the world only as it
may be changed. -/
def Admits (E : Exchange σ) : Step σ → Prop
  | .request (.insertHandle _ handle) => ∀ handles world, E.Fresh handle handles world
  | .register make => ∀ n, E.Known (Session.newcomer n make)
  | .changeWorld change => ∀ handles world handles' world', E.Like handles world handles' world' →
      E.Like handles (change world) handles' (change world')
  | .changeHost change => ∀ host, Makes E.Traded host → Makes E.Traded (change host)
  | _ => True

end Exchange

namespace Session

variable {E : Exchange σ} {s t : Session σ} {step : Step σ}

/-- **A session that upholds an exchange**: its context does, and the plugins that it holds are known. -/
structure Upholds (E : Exchange σ) (s : Session σ) : Prop where
  companions : Companions E s.context s.context
  held : ∀ entry ∈ s.held, E.Known entry.2.backend

/-- A plugin that is held after a step was held before, or is listed. -/
theorem held_turn (h : Turn step s t) {entry : String × Plugin σ} (hentry : entry ∈ t.held) :
    entry ∈ s.held ∨ entry.2 ∈ t.context.registry.plugins := by
  cases h with
  | looked _ _ _ hheld => exact hheld entry hentry
  | nothingTornDown => exact .inl hentry
  | rediscovered _ _ hheld | registered _ _ hheld | tornDown _ _ _ hheld | pluginTornDown _ _ _ hheld
  | hostChanged _ _ hheld =>
      rw [hheld] at hentry
      exact .inl hentry

/-- A new session upholds what is true of no handles in its world. -/
theorem upholds_start {Known : Backend σ → Prop} {Holds : Array FileHandle → σ → Prop}
    {Fresh : FileHandle → Array FileHandle → σ → Prop} (config : Config) {host : Host σ} {world : σ}
    (hmakes : Makes (fun backend _ => Known backend) host) (hholds : Holds #[] world) :
    (start config host world).Upholds (.alone Known Holds Fresh) where
  companions := by
    constructor
    · rfl
    · rfl
    · exact Exchange.makes_alone.mpr hmakes
    · exact (Registry.exchange_id _).symm
    · exact List.forall_mem_nil _
    · rfl
    · rfl
    · exact ⟨rfl, rfl, hholds⟩
  held := List.forall_mem_nil _

section Swap

variable (hswap : ∀ backend, E.swap backend = backend)

include hswap

theorem placed_self {plugin : Plugin σ} (h : E.Known plugin.backend) : E.Placed plugin plugin := by
  refine ⟨?_, h⟩
  rw [Plugin.exchange, hswap]

theorem traded_self {backend : Backend σ} (h : E.Known backend) : E.Traded backend backend :=
  ⟨(hswap backend).symm, h⟩

/-- **A step that transfers nothing** upholds what is upheld before it. -/
theorem upholds_step (F : E.Fair) (h : s.Upholds E) (hadmits : E.Admits step)
    (htransfer : ∀ request, step = .request request → request.isTransfer = true →
      Companions E (s.step step).2.context (s.step step).2.context) : (s.step step).2.Upholds E := by
  -- Work that goes the same way on both sides of a context and itself leaves what is upheld.
  let R (c d : Context σ) : Prop := Companions E c c → Companions E d d
  have hpath : Path R := ⟨fun _ hc => hc, fun hab hbc hc => hbc (hab hc)⟩
  have hkeeps {α : Type} {A : α → α → Prop} {work : Engine σ α} (hwork : PairedE (Companions E) A work work) :
      Keeps R work := fun c hc => (hwork c c hc).2
  have hdescribe {α : Type} {work : Act σ α} (hlook : ∀ c, (work.run c).2 = c) :
      Keeps R (perform work : Engine σ α) := by
    intro c hc
    have hleft : ((perform work : Engine σ α).run.run c).2 = c := hlook c
    rw [hleft]
    exact hc
  have hplugin (plugin : Plugin σ) : Keeps R (pluginValue plugin) :=
    hpath.bindE (hdescribe fun _ => rfl) fun _ => hpath.pureE _
  have hhandle (id : HandleId) : Keeps R (handleValue id : Engine σ Value) :=
    hpath.bindE (hdescribe fun _ => rfl) fun _ => hpath.pureE _
  have hcompanions : Companions E (s.step step).2.context (s.step step).2.context := by
    cases step with
    | request request =>
        by_cases hrequest : request.isTransfer = true
        · exact htransfer request rfl hrequest
        · have hserve := Request.like_serve F (Bool.not_eq_true _ ▸ hrequest) fun resource handle hinsert => by
            subst hinsert
            exact hadmits
          exact (hserve _ _ h.companions).2
    | register make =>
        have hknown : E.Known (newcomer s.arrivals make) := hadmits s.arrivals
        have hregister := (Companions.discovering F.discreet).register (traded_self hswap hknown)
        have hwork : PairedE (Companions E) Eq (perform (Registry.register (newcomer s.arrivals make)) : Engine σ Unit)
            (perform (Registry.register (newcomer s.arrivals make))) := hregister.perform
        exact hkeeps (hwork.mapEq fun _ => Value.unit) s.context h.companions
    | hold name label =>
        refine moves_noting hpath (hkeeps (Companions.findByName F.discreet name)) hplugin ?_ s h.companions
        exact fun _ _ => rfl
    | held label => exact moves_withKept hpath s.held label hplugin s h.companions
    | tearDownHeld label =>
        show Companions E (s.withKept s.held label _).2.context (s.withKept s.held label _).2.context
        unfold withKept
        cases hlookup : s.held.lookup label with
        | none => exact h.companions
        | some plugin =>
            have hknown : E.Known plugin.backend := h.held _ (mem_of_lookup hlookup)
            have hteardown := Companions.tearDownPlugin F.discreet (placed_self hswap hknown)
            have hwork : PairedE (Companions E) Eq (perform plugin.teardown : Engine σ Bool)
                (perform plugin.teardown) := hteardown.perform
            exact hkeeps (hwork.mapEq Value.flag) s.context h.companions
    | letGo label => exact h.companions
    | keep key label =>
        refine moves_noting hpath (hkeeps (Companions.tabled.findHandle .file key)) hhandle ?_ s h.companions
        exact fun _ _ => rfl
    | kept label => exact moves_withKept hpath s.kept label hhandle s h.companions
    | compareList label =>
        have hlist : Keeps R (currentList : Engine σ Nat) :=
          hpath.bindE (hkeeps (Companions.discovering F.discreet).discover) fun _ =>
            hpath.bindE hpath.getE fun _ => hpath.pureE _
        refine moves_noting hpath hlist (fun _ => hpath.pureE _) ?_ s h.companions
        exact fun _ _ => rfl
    | changeWorld change =>
        exact { h.companions with like := hadmits _ _ _ _ h.companions.like }
    | changeHost change =>
        exact { h.companions with host_eq := rfl, makes := hadmits _ h.companions.makes }
  refine ⟨hcompanions, fun entry hentry => ?_⟩
  rcases held_turn (turn_step step s) hentry with hheld | hlisted
  · exact h.held entry hheld
  · exact hcompanions.listed.2 entry.2 hlisted

/-- **What is upheld at the beginning of a run is upheld at its end**, if all of its steps may be taken, and its
transfers uphold it. -/
theorem upholds_run (F : E.Fair) {C : Step σ → Except Error Value → Prop}
    (hadmits : ∀ step outcome, C step outcome → E.Admits step)
    (htransfer : ∀ (s : Session σ) (request : Request σ), s.Upholds E → request.isTransfer = true →
      C (.request request) (s.step (.request request)).1 →
        Companions E (s.step (.request request)).2.context (s.step (.request request)).2.context)
    {steps : List (Step σ)} (h : s.Upholds E) (hrun : List.Forall₂ C steps (run steps s).1) :
    (run steps s).2.Upholds E := by
  induction steps generalizing s with
  | nil => exact h
  | cons step steps ih =>
      obtain ⟨hhead, htail⟩ := List.forall₂_cons.mp hrun
      refine ih (upholds_step hswap F h (hadmits _ _ hhead) ?_) htail
      rintro request rfl hrequest
      exact htransfer s request h hrequest hhead

end Swap

/-- What is true of all steps of a run is so with their outcomes beside them. -/
theorem forall₂_run {Q : Step σ → Prop} {steps : List (Step σ)} (h : ∀ step ∈ steps, Q step) (s : Session σ) :
    List.Forall₂ (fun step _ => Q step) steps (run steps s).1 := by
  induction steps generalizing s with
  | nil => exact .nil
  | cons step steps ih =>
      obtain ⟨hhead, htail⟩ := List.forall_mem_cons.mp h
      exact .cons hhead (ih htail _)

end Session

end StorageDispatch
