import StorageDispatch.Proofs.Context.Flow

set_option autoImplicit false

/-! # Two contexts side by side

`Paired T A x y` compares two pieces of work in two contexts: if the contexts are related by `T`, then the
results of `x` and `y` are related by `A`, and the contexts that they leave by `T` again. `PairedE` is the
same for work that can fail, where a failure on one side has to be the same failure on the other side.

There is one lemma for each way in which operations are put together. They hold for every relation `T` that
does not look at the record of events but for its calls (`Abreast`). What `T` says about registries, handles
and worlds comes in with the small steps only.
-/

namespace StorageDispatch

namespace Context

variable {σ α β γ δ ε : Type}

/-- Two pieces of work, each in a context of its own, come to related results in related contexts. -/
def Meets (T : Context σ → Context σ → Prop) (A : α → β → Prop) (x : Act σ α) (y : Act σ β)
    (c c' : Context σ) : Prop :=
  A (x.run c).1 (y.run c').1 ∧ T (x.run c).2 (y.run c').2

/-- **Two pieces of work side by side**: from related contexts they come to related results and contexts. -/
def Paired (T : Context σ → Context σ → Prop) (A : α → β → Prop) (x : Act σ α) (y : Act σ β) : Prop :=
  ∀ c c', T c c' → Meets T A x y c c'

/-- Related outcomes: both succeed, with related values, or both fail in the same way. -/
inductive Agrees (A : α → β → Prop) : Except ε α → Except ε β → Prop
  | ok {a : α} {b : β} (h : A a b) : Agrees A (.ok a) (.ok b)
  | error (error : ε) : Agrees A (.error error) (.error error)

theorem Agrees.refl (outcome : Except ε α) : Agrees Eq outcome outcome := by
  cases outcome with
  | ok a => exact .ok rfl
  | error error => exact .error error

theorem Agrees.eq {x y : Except ε α} (h : Agrees Eq x y) : y = x := by
  cases h with
  | ok h => rw [h]
  | error => rfl

/-- `Meets` for work that can fail. -/
def MeetsE (T : Context σ → Context σ → Prop) (A : α → β → Prop) (x : ExceptT ε (Act σ) α)
    (y : ExceptT ε (Act σ) β) (c c' : Context σ) : Prop := Meets T (Agrees A) x.run y.run c c'

/-- `Paired` for work that can fail. -/
def PairedE (T : Context σ → Context σ → Prop) (A : α → β → Prop) (x : ExceptT ε (Act σ) α)
    (y : ExceptT ε (Act σ) β) : Prop := Paired T (Agrees A) x.run y.run

variable {T : Context σ → Context σ → Prop} {A : α → β → Prop} {B : γ → δ → Prop} {c c' : Context σ}

/-! ## Sequences -/

theorem Meets.bind {x : Act σ α} {y : Act σ β} {f : α → Act σ γ} {g : β → Act σ δ}
    (hwork : Meets T A x y c c') (hrest : ∀ a b, A a b → Paired T B (f a) (g b)) :
    Meets T B (x >>= f) (y >>= g) c c' := hrest _ _ hwork.1 _ _ hwork.2

theorem MeetsE.bind {x : ExceptT ε (Act σ) α} {y : ExceptT ε (Act σ) β} {f : α → ExceptT ε (Act σ) γ}
    {g : β → ExceptT ε (Act σ) δ} (hwork : MeetsE T A x y c c')
    (hrest : ∀ a b d d', x.run.run c = (.ok a, d) → A a b → T d d' → MeetsE T B (f a) (g b) d d') :
    MeetsE T B (x >>= f) (y >>= g) c c' := by
  unfold MeetsE Meets at hwork ⊢
  rw [run_bindE, run_bindE]
  rcases hx : x.run.run c with ⟨outcome, d⟩
  rcases hy : y.run.run c' with ⟨outcome', d'⟩
  rw [hx, hy] at hwork
  obtain ⟨houtcome, hleft⟩ := hwork
  cases houtcome with
  | ok hvalue => exact hrest _ _ d d' hx hvalue hleft
  | error error => exact ⟨.error error, hleft⟩

theorem MeetsE.map {x : ExceptT ε (Act σ) α} {y : ExceptT ε (Act σ) β} {f : α → γ} {g : β → δ}
    (hwork : MeetsE T A x y c c') (h : ∀ a b, A a b → B (f a) (g b)) :
    MeetsE T B (f <$> x) (g <$> y) c c' := by
  unfold MeetsE Meets at hwork ⊢
  rw [run_map, run_map]
  obtain ⟨houtcome, hleft⟩ := hwork
  refine ⟨?_, hleft⟩
  generalize (x.run.run c).1 = outcome at houtcome
  generalize (y.run.run c').1 = outcome' at houtcome
  cases houtcome with
  | ok hab => exact .ok (h _ _ hab)
  | error error => exact .error error

theorem MeetsE.mapEq {x y : ExceptT ε (Act σ) α} (f : α → γ) (hwork : MeetsE T Eq x y c c') :
    MeetsE T Eq (f <$> x) (f <$> y) c c' := hwork.map fun _ _ hab => congrArg f hab

namespace Paired

theorem pure {a : α} {b : β} (h : A a b) : Paired T A (Pure.pure a) (Pure.pure b) := fun _ _ hT => ⟨h, hT⟩

theorem bind {x : Act σ α} {y : Act σ β} {f : α → Act σ γ} {g : β → Act σ δ} (hwork : Paired T A x y)
    (hrest : ∀ a b, A a b → Paired T B (f a) (g b)) : Paired T B (x >>= f) (y >>= g) :=
  fun c c' hT => (hwork c c' hT).bind hrest

/-- A sequence after equal results. -/
theorem bindEq {x y : Act σ α} {f : α → Act σ γ} {g : α → Act σ δ} (hwork : Paired T Eq x y)
    (hrest : ∀ a, Paired T B (f a) (g a)) : Paired T B (x >>= f) (y >>= g) :=
  hwork.bind fun a b hab => by
    rw [← hab]
    exact hrest a

/-- Work that goes on with the contexts themselves. -/
theorem get {f : Context σ → Act σ α} {g : Context σ → Act σ β}
    (h : ∀ c c', T c c' → Meets T A (f c) (g c') c c') :
    Paired T A (MonadState.get >>= f) (MonadState.get >>= g) := h

/-- Work on one side only, as the first part of a sequence. -/
theorem of_right {x : Act σ α} {y : Act σ β} {z : Act σ γ}
    (hright : ∀ c c', T c c' → T c (z.run c').2) (hwork : Paired T A x y) :
    Paired T A x (z >>= fun _ => y) := fun c c' hT => hwork c _ (hright c c' hT)

theorem mono {A' : α → β → Prop} {x : Act σ α} {y : Act σ β} (hwork : Paired T A x y)
    (h : ∀ a b, A a b → A' a b) : Paired T A' x y := fun c c' hT =>
  ⟨h _ _ (hwork c c' hT).1, (hwork c c' hT).2⟩

/-- The same list, gone through on both sides. -/
theorem mapM {l : List γ} {f g : γ → Act σ α} (h : ∀ a, Paired T Eq (f a) (g a)) :
    Paired T Eq (l.mapM f) (l.mapM g) := by
  induction l with
  | nil => exact pure rfl
  | cons a l ih =>
      rw [List.mapM_cons, List.mapM_cons]
      exact (h a).bindEq fun _ => ih.bindEq fun _ => pure rfl

theorem forM {R : γ → δ → Prop} {l : List γ} {l' : List δ} {f : γ → Act σ PUnit} {g : δ → Act σ PUnit}
    (hl : List.Forall₂ R l l') (h : ∀ a b, R a b → Paired T Eq (f a) (g b)) :
    Paired T Eq (l.forM f) (l'.forM g) := by
  induction hl with
  | nil => exact pure rfl
  | cons hab _ ih => exact (h _ _ hab).bindEq fun _ => ih

/-- Nothing is said about the results of work after which both sides only look at what they have. -/
theorem inspect {x : ExceptT ε (Act σ) α} {y : ExceptT ε (Act σ) β} {f : α → ExceptT ε (Act σ) γ}
    {g : β → ExceptT ε (Act σ) δ} (hwork : Paired T (fun _ _ => True) x.run y.run)
    (hf : ∀ a c, ((f a).run.run c).2 = c) (hg : ∀ b c, ((g b).run.run c).2 = c) :
    Paired T (fun _ _ => True) (x >>= f).run (y >>= g).run := by
  intro c c' hT
  obtain ⟨-, hleft⟩ := hwork c c' hT
  have hend {α γ : Type} {x : ExceptT ε (Act σ) α} {f : α → ExceptT ε (Act σ) γ}
      (hf : ∀ a c, ((f a).run.run c).2 = c) (c : Context σ) : ((x >>= f).run.run c).2 = (x.run.run c).2 := by
    rw [run_bindE]
    rcases x.run.run c with ⟨outcome, d⟩
    cases outcome with
    | ok a => exact hf a d
    | error => rfl
  refine ⟨trivial, ?_⟩
  rw [hend hf, hend hg]
  exact hleft

theorem inspect_map {x : ExceptT ε (Act σ) α} {y : ExceptT ε (Act σ) β}
    (hwork : Paired T (fun _ _ => True) x.run y.run) (f : α → γ) (g : β → δ) :
    Paired T (fun _ _ => True) (f <$> x).run (g <$> y).run := by
  intro c c' hT
  unfold Meets
  rw [run_map, run_map]
  exact ⟨trivial, (hwork c c' hT).2⟩

end Paired

namespace PairedE

theorem pure {a : α} {b : β} (h : A a b) :
    PairedE T A (Pure.pure a : ExceptT ε (Act σ) α) (Pure.pure b) := fun _ _ hT => ⟨.ok h, hT⟩

/-- Work that goes on with the contexts themselves. -/
theorem get {f : Context σ → ExceptT ε (Act σ) α} {g : Context σ → ExceptT ε (Act σ) β}
    (h : ∀ c c', T c c' → MeetsE T A (f c) (g c') c c') :
    PairedE T A (MonadState.get >>= f) (MonadState.get >>= g) := h

theorem throw (error : ε) :
    PairedE T A (MonadExcept.throw error : ExceptT ε (Act σ) α) (MonadExcept.throw error) :=
  fun _ _ hT => ⟨.error error, hT⟩

theorem bind {x : ExceptT ε (Act σ) α} {y : ExceptT ε (Act σ) β} {f : α → ExceptT ε (Act σ) γ}
    {g : β → ExceptT ε (Act σ) δ} (hwork : PairedE T A x y) (hrest : ∀ a b, A a b → PairedE T B (f a) (g b)) :
    PairedE T B (x >>= f) (y >>= g) :=
  fun c c' hT => MeetsE.bind (hwork c c' hT) fun a b d d' _ hab hT' => hrest a b hab d d' hT'

/-- A sequence after equal results. -/
theorem bindEq {x y : ExceptT ε (Act σ) α} {f : α → ExceptT ε (Act σ) γ} {g : α → ExceptT ε (Act σ) δ}
    (hwork : PairedE T Eq x y) (hrest : ∀ a, PairedE T B (f a) (g a)) : PairedE T B (x >>= f) (y >>= g) :=
  hwork.bind fun a b hab => by
    rw [← hab]
    exact hrest a

theorem mono {A' : α → β → Prop} {x : ExceptT ε (Act σ) α} {y : ExceptT ε (Act σ) β}
    (hwork : PairedE T A x y) (h : ∀ a b, A a b → A' a b) : PairedE T A' x y :=
  Paired.mono hwork fun _ _ hab => by
    cases hab with
    | ok hab => exact .ok (h _ _ hab)
    | error error => exact .error error

theorem map {x : ExceptT ε (Act σ) α} {y : ExceptT ε (Act σ) β} {f : α → γ} {g : β → δ}
    (hwork : PairedE T A x y) (h : ∀ a b, A a b → B (f a) (g b)) : PairedE T B (f <$> x) (g <$> y) :=
  fun c c' hT => MeetsE.map (hwork c c' hT) h

theorem mapEq {x y : ExceptT ε (Act σ) α} (f : α → γ) (hwork : PairedE T Eq x y) :
    PairedE T Eq (f <$> x) (f <$> y) := hwork.map fun _ _ hab => congrArg f hab

theorem tryCatch {x : ExceptT ε (Act σ) α} {y : ExceptT ε (Act σ) β} {f : ε → ExceptT ε (Act σ) α}
    {g : ε → ExceptT ε (Act σ) β} (hwork : PairedE T A x y)
    (hcatch : ∀ error, PairedE T A (f error) (g error)) :
    PairedE T A (MonadExcept.tryCatch x f) (MonadExcept.tryCatch y g) := by
  intro c c' hT
  show Meets T (Agrees A) (MonadExcept.tryCatch x f).run (MonadExcept.tryCatch y g).run c c'
  rw [ExceptT.run_tryCatch, ExceptT.run_tryCatch]
  refine (hwork c c' hT).bind fun outcome outcome' houtcome => ?_
  cases houtcome with
  | ok hab => exact Paired.pure (.ok hab)
  | error error => exact hcatch error

theorem fromOutcome {outcome : Except ε α} {outcome' : Except ε β} (h : Agrees A outcome outcome') :
    PairedE T A (Context.fromOutcome outcome : ExceptT ε (Act σ) α) (Context.fromOutcome outcome') :=
  fun _ _ hT => ⟨h, hT⟩

theorem fromReply (operation : Operation) (reply : Reply α) :
    PairedE T Eq (Context.fromReply operation reply : Engine σ α) (Context.fromReply operation reply) :=
  fromOutcome (.refl _)

/-- Both sides may look at how related work has ended. -/
theorem run {x : ExceptT ε (Act σ) α} {y : ExceptT ε (Act σ) β} (hwork : PairedE T A x y) :
    Paired T (Agrees A) x.run y.run := hwork

end PairedE

theorem Paired.perform {x : Act σ α} {y : Act σ β} (hwork : Paired T A x y) :
    PairedE T A (Context.perform x : ExceptT ε (Act σ) α) (Context.perform y) :=
  fun c c' hT => ⟨.ok (hwork c c' hT).1, (hwork c c' hT).2⟩

/-! ## Events -/

/-- **Relations that do not look at the record of events** but for its calls. -/
structure Abreast (T : Context σ → Context σ → Prop) : Prop where
  note : ∀ {event event' : Event} {c c'}, event.call? = none → event'.call? = none → T c c' →
    T ((emit event).run c).2 ((emit event').run c').2

namespace Abreast

variable (F : Abreast T)

include F

theorem measure (change change' : Metric) :
    Paired T Eq (Context.measure change) (Context.measure change') := fun _ _ hT => ⟨rfl, F.note rfl rfl hT⟩

theorem log (entry entry' : LogEntry) : Paired T Eq (Context.log entry) (Context.log entry') :=
  fun _ _ hT => ⟨rfl, F.note rfl rfl hT⟩

theorem recordFailure (operation : Operation) (error : Error) :
    Paired T Eq (Context.recordFailure operation error) (Context.recordFailure operation error) :=
  (F.measure _ _).bindEq fun _ => F.log _ _

theorem countedAt (operation : Operation) {x : Engine σ α} {y : Engine σ β} (hwork : MeetsE T A x y c c') :
    MeetsE T A (Context.counted operation x) (Context.counted operation y) c c' := by
  unfold MeetsE Meets at hwork ⊢
  rw [run_counted, run_counted]
  generalize x.run.run c = found at hwork ⊢
  generalize y.run.run c' = found' at hwork ⊢
  rcases found with ⟨outcome, d⟩
  rcases found' with ⟨outcome', d'⟩
  obtain ⟨houtcome, hleft⟩ := hwork
  cases houtcome with
  | ok hab => exact ⟨.ok hab, hleft⟩
  | error error => exact ⟨.error error, (F.recordFailure operation error d d' hleft).2⟩

theorem counted (operation : Operation) {x : Engine σ α} {y : Engine σ β} (hwork : PairedE T A x y) :
    PairedE T A (Context.counted operation x) (Context.counted operation y) :=
  fun c c' hT => F.countedAt operation (hwork c c' hT)

theorem timed (operation : Operation) (plugin plugin' : String) {x : Act σ α} {y : Act σ β}
    (hwork : Paired T A x y) :
    Paired T A (Context.timed operation plugin x) (Context.timed operation plugin' y) :=
  (F.measure _ _).bindEq fun _ => hwork.bind fun _ _ hab => (F.measure _ _).bindEq fun _ => .pure hab

theorem timedEngine (operation : Operation) (plugin plugin' : String) {x : Engine σ α} {y : Engine σ β}
    (hwork : PairedE T A x y) :
    PairedE T A (Context.timedEngine operation plugin x) (Context.timedEngine operation plugin' y) :=
  F.timed operation plugin plugin' hwork

theorem settle (operation : Operation) (reply : Reply α) :
    Paired T Eq (Context.settle operation reply : Act σ (Except Error α)) (Context.settle operation reply) :=
  (F.counted operation (.fromReply operation reply)).run.mono fun _ _ h => h.eq.symm

theorem failBatch (operation : Operation) (count : Nat) (error : Error) :
    Paired T Eq (Context.failBatch operation count error : Act σ (List (Except Error α)))
      (Context.failBatch operation count error) :=
  (F.recordFailure operation error).bindEq fun _ => .pure rfl

theorem spread (operation : Operation) (plugin : String) (count : Nat) (reply : Reply (List (Reply α))) :
    Paired T Eq (Context.spread operation plugin count reply : Act σ (List (Except Error α)))
      (Context.spread operation plugin count reply) := by
  cases reply with
  | error source => exact F.failBatch operation count _
  | ok replies =>
      unfold Context.spread
      dsimp only
      split
      · exact .mapM fun reply => F.settle operation reply
      · exact F.failBatch operation count _

end Abreast

end Context

end StorageDispatch
