import StorageDispatch.Proofs.Context.Frame

set_option autoImplicit false

/-! # Steps of a session as work in its context

A step of a session is work in its context, up to what the session itself keeps. So the context moves along
a relation if the work does: `handling_step` for the steps that look for plugins and handles at most
(`Step.steady`), and `aloof_step` for those that do something to the registry (`Step.registers`). The steps
that are neither open or close a handle, change a table by themselves, or tear the whole context down.

An `Opening` is an opening of a file or of a directory: what a backend does of it, and the request.
-/

namespace StorageDispatch

variable {σ α : Type}

/-- Whether a step is steady: it is a steady request, or one of the other steps that leave the registry as
it is but for a first discovery. -/
def Step.steady : Step σ → Bool
  | .request work => work.steady
  | .register _ | .tearDownHeld _ => false
  | _ => true

/-- Whether a step does something to the registry, and to nothing else. -/
def Step.registers : Step σ → Bool
  | .request .rediscover | .request .tearDownRegistry | .register _ | .tearDownHeld _ => true
  | _ => false

/-- Every step is ordinary work, work of the registry, or the end of the context. -/
theorem Step.cases (step : Step σ) :
    step.steady = true ∨ step.registers = true ∨ step = .request .tearDown ∨
      ∃ work, step = .request work ∧ work.ordinary = true := by
  cases step with
  | request work =>
      by_cases hordinary : work.ordinary = true
      · exact .inr (.inr (.inr ⟨work, rfl, hordinary⟩))
      · cases work with
        | rediscover | tearDownRegistry => exact .inr (.inl rfl)
        | tearDown => exact .inr (.inr (.inl rfl))
        | _ => exact absurd rfl hordinary
  | register | tearDownHeld => exact .inr (.inl rfl)
  | _ => exact .inl rfl

inductive Opening
  | file (url : String) (flags : UInt32) (mode : Mode)
  | directory (url : String)

namespace Opening

def resource : Opening → Resource
  | file .. => .file
  | directory _ => .directory

def url : Opening → String
  | file url _ _ | directory url => url

def operation : Opening → Operation
  | file .. => .openFile
  | directory _ => .opendir

/-- The backend's part of an opening. -/
def part : Opening → UrlRequest FileHandle
  | file url flags mode => .openFile url flags mode
  | directory url => .opendir url

def request : Opening → Request σ
  | file url flags mode => .openFile url flags mode
  | directory url => .opendir url

/-- An opening is the backend's part, and then the handle is stored. -/
theorem serve_request (o : Opening) :
    (o.request : Request σ).serve = Value.key <$> (Context.dispatchUrl o.part >>= fun handle =>
      Context.storeHandle o.operation o.resource o.url handle) := by
  cases o <;> rfl

/-- An opening is not about a handle that is open. -/
theorem about?_part (o : Opening) : o.part.call.about? = none := by
  cases o <;> rfl

theorem part_ne_teardown (o : Opening) : o.part.call ≠ .teardown := by
  cases o <;> nofun

end Opening

namespace Session

open Context

variable {R : Context σ → Context σ → Prop}

theorem moves_withKept (F : Path R) {β : Type} (labelled : List (String × β)) (name : String)
    {work : β → Engine σ Value} (h : ∀ b, Keeps R (work b)) (s : Session σ) :
    R s.context (s.withKept labelled name work).2.context := by
  unfold withKept
  cases labelled.lookup name with
  | none => exact F.refl s.context
  | some kept => exact h kept s.context

theorem moves_noting (F : Path R) {work : Engine σ α} {note : α → Session σ → Session σ}
    {value : α → Engine σ Value} (hwork : Keeps R work) (hvalue : ∀ a, Keeps R (value a))
    (hnote : ∀ a t, (note a t).context = t.context) (s : Session σ) :
    R s.context (s.noting work note value).2.context := by
  have hmoved : R s.context (s.within work).2.context := hwork s.context
  unfold noting
  generalize s.within work = found at hmoved ⊢
  rcases found with ⟨outcome, t⟩
  cases outcome with
  | error error => exact hmoved
  | ok a =>
      have hvalued := hvalue a (note a t).context
      rw [hnote] at hvalued
      refine F.trans hmoved ?_
      show R t.context ((value a).run.run (note a t).context).2
      rw [hnote]
      exact hvalued

theorem moves_pluginValue (F : Path R) (plugin : Plugin σ) : Keeps R (pluginValue plugin) :=
  F.bindE (F.describePlugin plugin).perform fun _ => F.pureE _

theorem moves_handleValue (F : Path R) (id : HandleId) : Keeps R (handleValue id : Engine σ Value) :=
  F.bindE (F.describeHandle id).perform fun _ => F.pureE _

theorem moves_currentList (F : Finding R) : Keeps R (currentList : Engine σ Nat) :=
  F.bindE F.discover fun _ => F.bindE F.getE fun _ => F.pureE _

/-- What an opening leaves if the backend does its part: the handle is taken in and stored. -/
theorem step_open {o : Opening} {s : Session σ} {handle : FileHandle} {d : Context σ}
    (hopen : (dispatchUrl o.part).run.run s.context = (.ok handle, d)) :
    (s.step (.request o.request)).1 =
        Value.key <$> ((storeAdopted o.operation o.resource d.handles.size).run.run
          ((adopt (handle.setPathIfMissing o.url)).run d).2).1 ∧
      (s.step (.request o.request)).2.context = ((storeAdopted o.operation o.resource d.handles.size).run.run
        ((adopt (handle.setPathIfMissing o.url)).run d).2).2 := by
  have hserve : o.request.serve.run.run s.context = _ :=
    congrArg (fun work => work.run.run s.context) o.serve_request
  rw [run_map, run_bindE, hopen] at hserve
  exact ⟨congrArg Prod.fst hserve, congrArg Prod.snd hserve⟩

/-- What an opening leaves if the backend does not do its part. -/
theorem step_open_error {o : Opening} {s : Session σ} {error : Error} {d : Context σ}
    (hopen : (dispatchUrl o.part).run.run s.context = (.error error, d)) :
    (s.step (.request o.request)).1 = .error error ∧ (s.step (.request o.request)).2.context = d := by
  have hserve : o.request.serve.run.run s.context = _ :=
    congrArg (fun work => work.run.run s.context) o.serve_request
  rw [run_map, run_bindE, hopen] at hserve
  exact ⟨congrArg Prod.fst hserve, congrArg Prod.snd hserve⟩

/-- Steady steps move the context along a relation for handles if the requests among them do, and if it minds
no change from outside. -/
theorem steady_step {G : HandleId → Context σ → Prop} (F : Handling G R)
    (hserve : ∀ request : Request σ, request.steady = true → Keeps R request.serve)
    (hworld : ∀ c world, R c { c with world }) (hhost : ∀ c host, R c { c with host })
    {step : Step σ} (h : step.steady = true) (s : Session σ) : R s.context (s.step step).2.context := by
  cases step with
  | request request => exact hserve request h s.context
  | hold name label =>
      refine moves_noting F.toPath (F.findByName name) (moves_pluginValue F.toPath) ?_ s
      exact fun _ _ => rfl
  | held label => exact moves_withKept F.toPath s.held label (moves_pluginValue F.toPath) s
  | letGo label => exact F.refl s.context
  | keep key label =>
      refine moves_noting F.toPath (F.findHandle .file key) (moves_handleValue F.toPath) ?_ s
      exact fun _ _ => rfl
  | kept label => exact moves_withKept F.toPath s.kept label (moves_handleValue F.toPath) s
  | compareList label =>
      refine moves_noting F.toPath (moves_currentList F.toFinding) (fun _ => F.pureE _) ?_ s
      exact fun _ _ => rfl
  | changeWorld change => exact hworld s.context _
  | changeHost change => exact hhost s.context _
  | register | tearDownHeld => exact Bool.noConfusion h

/-- **Steady steps** move the context along every relation for routing and for handles, if it minds no
change from outside. -/
theorem handling_step {G : HandleId → Context σ → Prop} (A : Routing R) (F : Handling G R)
    (hworld : ∀ c world, R c { c with world }) (hhost : ∀ c host, R c { c with host })
    {step : Step σ} (h : step.steady = true) (s : Session σ) : R s.context (s.step step).2.context :=
  steady_step F (fun _ hsteady => Request.handling_serve A F hsteady) hworld hhost h s

/-- **Steps of the registry** move the context along every relation that does not look at it. -/
theorem aloof_step (F : Aloof R) {step : Step σ} (h : step.registers = true) (s : Session σ) :
    R s.context (s.step step).2.context := by
  cases step with
  | register make =>
      exact F.bindE (ε := Error) (F.register _).perform (fun _ => F.pureE ()) s.context
  | tearDownHeld label =>
      exact moves_withKept F.toPath s.held label (fun plugin => (F.tearDownPlugin plugin).perform.map _) s
  | request request =>
      cases request with
      | rediscover =>
          refine F.bindE F.rediscover (fun _ => ?_) s.context
          exact F.bindE (F.describePlugins _).perform fun _ => F.pureE _
      | tearDownRegistry =>
          exact F.bindE (ε := Error) F.tearDownRegistry.perform (fun _ => F.pureE ()) s.context
      | _ => exact Bool.noConfusion h
  | _ => exact Bool.noConfusion h

end Session

end StorageDispatch
