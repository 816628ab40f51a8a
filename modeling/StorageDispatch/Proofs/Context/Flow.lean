import StorageDispatch.Session.Basic
import Mathlib.Tactic.Common

set_option autoImplicit false

/-! # What work does to a context

`Respects R work` says that `work` moves a context along the relation `R` only, however it ends. It is
closed under sequencing if `R` is a `Path`: every context is related to itself, and a relation goes on where
another one ended. Along a `Flow`, work may also be logged and metered; relations that let the record of
events grow by whatever any operation may emit are such (`Flow.of_emit`).

Relations differ in what they allow beyond that, and so in the work that moves along them. Modules are loaded
along `Scanning` relations. `Heedless` relations look neither at the registry nor at gauges, so everything that
the registry does moves along them; they are `Aloof` if they are a `Flow` as well. `Seeking` relations allow to
look for the plugin that claims a URL. `Finding` relations allow to look for the plugin that opened a handle,
and `Routing` relations allow to ask plugins about a URL, and to call them for whatever is not about an open
handle.
-/

namespace StorageDispatch

/-- Whether an event is one of those that any operation may emit: neither a call nor the news that a
module has made a backend. -/
def Event.isRoutine : Event → Bool
  | .call .. => false
  | .metric _ => true
  | .log (.moduleLoaded ..) => false
  | .log _ => true

theorem Event.call?_of_isRoutine {event : Event} (h : event.isRoutine = true) : event.call? = none := by
  cases event with
  | call => exact Bool.noConfusion h
  | metric | log => rfl

def Metric.isGauge : Metric → Bool
  | .openHandles .. | .pluginsLoaded _ => true
  | .dispatched .. | .failed _ | .timed _ | .emulated _ => false

/-- Whether the list of plugins is known, and nothing is left to discover. -/
def Phase.isKnown : Phase → Prop
  | .ready | .tornDown => True
  | .uninitialized | .failed _ => False

theorem known_of_ready {phase : Phase} (h : phase = .ready) : phase.isKnown := by
  rw [h]
  trivial

theorem Phase.ready_or_tornDown {phase : Phase} (h : phase.isKnown) : phase = .ready ∨ phase = .tornDown := by
  cases phase with
  | ready => exact .inl rfl
  | tornDown => exact .inr rfl
  | uninitialized | failed => exact h.elim

namespace Call

def about? : Call → Option OpenHandle
  | readdir opened | readdirPlus opened | closedir opened | read opened _ | write opened _
  | pread opened _ _ | pwrite opened _ _ | lseek opened _ | close opened => some opened
  | _ => none

def closes : Call → Bool
  | close _ | closedir _ => true
  | _ => false

end Call

namespace Context

variable {σ α β ε : Type}

/-! ## Running work

A sequence runs its second part in the context that the first part leaves. -/

theorem run_bind (x : Act σ α) (f : α → Act σ β) (c : Context σ) :
    (x >>= f).run c = (f (x.run c).1).run (x.run c).2 := rfl

theorem run_get_bind (f : Context σ → Act σ β) (c : Context σ) :
    (MonadState.get >>= f).run c = (f c).run c := rfl

theorem run_perform_bindE (x : Act σ α) (f : α → ExceptT ε (Act σ) β) (c : Context σ) :
    (perform x >>= f).run.run c = (f (x.run c).1).run.run (x.run c).2 := rfl

theorem run_get_bindE (f : Context σ → ExceptT ε (Act σ) β) (c : Context σ) :
    (MonadState.get >>= f).run.run c = (f c).run.run c := rfl

theorem run_throwE (e : ε) (c : Context σ) :
    (throw e : ExceptT ε (Act σ) α).run.run c = (.error e, c) := rfl

/-- Work that fails ends a sequence. -/
theorem run_bindE (x : ExceptT ε (Act σ) α) (f : α → ExceptT ε (Act σ) β) (c : Context σ) :
    (x >>= f).run.run c =
      match x.run.run c with
      | (.ok a, d) => (f a).run.run d
      | (.error e, d) => (.error e, d) := by
  rw [ExceptT.run_bind, run_bind]
  rcases x.run.run c with ⟨outcome, d⟩
  cases outcome <;> rfl

theorem run_map (f : α → β) (x : ExceptT ε (Act σ) α) (c : Context σ) :
    (f <$> x).run.run c = (f <$> (x.run.run c).1, (x.run.run c).2) := by
  rw [ExceptT.run_map]
  rfl

/-- A sequence that succeeds does so in both parts. -/
theorem run_bindE_ok {x : ExceptT ε (Act σ) α} {f : α → ExceptT ε (Act σ) β} {c e : Context σ} {b : β}
    (h : (x >>= f).run.run c = (.ok b, e)) :
    ∃ a d, x.run.run c = (.ok a, d) ∧ (f a).run.run d = (.ok b, e) := by
  rw [run_bindE] at h
  rcases hx : x.run.run c with ⟨outcome, d⟩
  rw [hx] at h
  cases outcome with
  | ok a => exact ⟨a, d, rfl, h⟩
  | error error => cases h

/-- Counting changes no outcome. -/
theorem run_counted (operation : Operation) (work : Engine σ α) (c : Context σ) :
    (counted operation work).run.run c =
      match work.run.run c with
      | (.ok a, d) => (.ok a, d)
      | (.error error, d) => (.error error, ((recordFailure operation error).run d).2) := by
  unfold counted
  rw [ExceptT.run_mk, run_bind]
  rcases work.run.run c with ⟨outcome, d⟩
  cases outcome <;> rfl

theorem run_counted_ok {operation : Operation} {work : Engine σ α} {c d : Context σ} {a : α}
    (h : (counted operation work).run.run c = (.ok a, d)) : work.run.run c = (.ok a, d) := by
  rw [run_counted] at h
  rcases hwork : work.run.run c with ⟨outcome, e⟩
  rw [hwork] at h
  cases outcome with
  | ok a => exact h
  | error error => cases h

/-- If the list of plugins is known, there is nothing to discover. -/
theorem run_discover {c : Context σ} (hknown : c.registry.phase.isKnown) :
    Registry.discover.run.run c = (.ok c.registry.plugins, c) := by
  unfold Registry.discover
  rw [run_get_bindE]
  dsimp only
  cases hphase : c.registry.phase with
  | ready | tornDown => rfl
  | uninitialized | failed =>
      rw [hphase] at hknown
      exact hknown.elim

/-- A handle that is looked up is in its table, which is then made. -/
theorem lookupHandle_ok {operation : Operation} {resource : Resource} {key : DescriptorKey} {id : HandleId}
    {c d : Context σ} (h : (lookupHandle operation resource key).run.run c = (.ok id, d)) :
    (c.table resource).find? key = some id ∧ d = ((useTable resource).run c).2 := by
  have hfind : ((c.table resource).get key, ((useTable resource).run c).2) = (.ok id, d) :=
    run_counted_ok h
  rw [DescriptorTable.get] at hfind
  cases hentry : (c.table resource).find? key with
  | none =>
      rw [hentry] at hfind
      cases hfind
  | some found =>
      rw [hentry] at hfind
      cases hfind
      exact ⟨rfl, rfl⟩

/-! ## Calls -/

def calls (c : Context σ) : List (InstanceId × String × Call) := c.events.filterMap Event.call?

/-- The calls of a context are followed by others, of a given kind, in another context. -/
def Adds (P : InstanceId × String × Call → Prop) (c d : Context σ) : Prop :=
  ∃ made, d.calls = c.calls ++ made ∧ ∀ entry ∈ made, P entry

section Adds

variable {P : InstanceId × String × Call → Prop}

theorem Adds.of_eq {c d : Context σ} (h : d.calls = c.calls) : Adds P c d :=
  ⟨[], by rw [h, List.append_nil], by simp⟩

theorem Adds.trans {c d e : Context σ} (hcd : Adds P c d) (hde : Adds P d e) : Adds P c e := by
  obtain ⟨made, hmade, hP⟩ := hcd
  obtain ⟨more, hmore, hP'⟩ := hde
  refine ⟨made ++ more, ?_, ?_⟩
  · rw [hmore, hmade, List.append_assoc]
  · intro entry hentry
    exact (List.mem_append.mp hentry).elim (hP entry) (hP' entry)

theorem Adds.mono {Q : InstanceId × String × Call → Prop} {c d : Context σ} (h : Adds P c d)
    (hPQ : ∀ entry, P entry → Q entry) : Adds Q c d := by
  obtain ⟨made, hmade, hP⟩ := h
  exact ⟨made, hmade, fun entry hentry => hPQ entry (hP entry hentry)⟩

/-- An event that is no call adds none. -/
theorem calls_emit {event : Event} (h : event.call? = none) (c : Context σ) :
    ((emit event).run c).2.calls = c.calls := by
  show (c.events ++ [event]).filterMap Event.call? = _
  rw [List.filterMap_append, List.filterMap_cons_none h]
  exact List.append_nil _

theorem calls_call (backend : Backend σ) (request : Call) (c : Context σ) :
    ((call backend request).run c).2.calls = c.calls ++ [(backend.id, backend.name, request)] :=
  List.filterMap_append

theorem Adds.of_call {backend : Backend σ} {request : Call}
    (h : P (backend.id, backend.name, request)) (c : Context σ) :
    Adds P c ((call backend request).run c).2 := by
  refine ⟨_, calls_call backend request c, fun entry hentry => ?_⟩
  rwa [List.mem_singleton.mp hentry]

end Adds

/-! ## Relations -/

/-- Work moves a context along a relation. -/
def Respects (R : Context σ → Context σ → Prop) (work : Act σ α) : Prop :=
  ∀ c, R c (work.run c).2

/-- Work that can fail moves a context along a relation, also where it fails. -/
def Keeps (R : Context σ → Context σ → Prop) (work : ExceptT ε (Act σ) α) : Prop :=
  Respects R work.run

/-- **Relations along which work can be sequenced.** -/
structure Path (R : Context σ → Context σ → Prop) : Prop where
  refl : ∀ c, R c c
  trans : ∀ {a b c}, R a b → R b c → R a c

/-- A context when an operation was just handed to a backend. -/
def dispatched (operation : Operation) (plugin : String) (c : Context σ) : Context σ :=
  ((measure (.dispatched operation plugin)).run c).2

/-- **Relations along which work can be sequenced that is logged and metered**: failures and emulations are
counted, and what was handed to a backend is sampled at its end. -/
structure Flow (R : Context σ → Context σ → Prop) : Prop extends Path R where
  line : ∀ entry c, (Event.log entry).isRoutine = true → R c ((Context.log entry).run c).2
  failed : ∀ operation, Respects R (measure (.failed operation))
  emulated : ∀ operation, Respects R (measure (.emulated operation))
  sampled : ∀ operation plugin c d, R (c.dispatched operation plugin) d →
    R c ((measure (.timed operation)).run d).2

/-- It is enough that the record of events may grow by what any operation may emit. -/
theorem Flow.of_emit {R : Context σ → Context σ → Prop} (hrefl : ∀ c, R c c)
    (htrans : ∀ {a b c}, R a b → R b c → R a c)
    (hemit : ∀ event c, event.isRoutine = true → R c ((emit event).run c).2) : Flow R where
  refl := hrefl
  trans := htrans
  line _ c h := hemit _ c h
  failed _ c := hemit _ c rfl
  emulated _ c := hemit _ c rfl
  sampled _ _ c d h := htrans (htrans (hemit _ c rfl) h) (hemit _ d rfl)

theorem Keeps.map {R : Context σ → Context σ → Prop} {x : ExceptT ε (Act σ) α} (f : α → β)
    (hx : Keeps R x) : Keeps R (f <$> x) := by
  rw [Keeps, ExceptT.run_map]
  exact fun c => hx c

theorem Respects.perform {R : Context σ → Context σ → Prop} {x : Act σ α} (hx : Respects R x) :
    Keeps R (Context.perform x : ExceptT ε (Act σ) α) := fun c => hx c

namespace Path

variable {R : Context σ → Context σ → Prop} (F : Path R)

include F

/-! ## Sequencing -/

theorem pure (a : α) : Respects R (Pure.pure a : Act σ α) := fun c => F.refl c

theorem bind {x : Act σ α} {f : α → Act σ β} (hx : Respects R x) (hf : ∀ a, Respects R (f a)) :
    Respects R (x >>= f) := fun c => F.trans (hx c) (hf _ _)

theorem get : Respects R (MonadState.get : Act σ (Context σ)) := fun c => F.refl c

theorem discard {x : Act σ α} (hx : Respects R x) : Respects R (discard x) := F.bind hx fun _ => F.pure _

theorem mapM {l : List β} {f : β → Act σ α} (hf : ∀ b, Respects R (f b)) :
    Respects R (l.mapM f) := by
  induction l with
  | nil => exact F.pure _
  | cons b l ih =>
      rw [List.mapM_cons]
      exact F.bind (hf b) fun _ => F.bind ih fun _ => F.pure _

theorem forM {l : List β} {f : β → Act σ PUnit} (hf : ∀ b, Respects R (f b)) :
    Respects R (l.forM f) := by
  induction l with
  | nil => exact F.pure _
  | cons b l ih => exact F.bind (hf b) fun _ => ih

theorem pureE (a : α) : Keeps R (Pure.pure a : ExceptT ε (Act σ) α) := fun c => F.refl c

theorem throwE (e : ε) : Keeps R (throw e : ExceptT ε (Act σ) α) := fun c => F.refl c

theorem getE : Keeps R (MonadState.get : ExceptT ε (Act σ) (Context σ)) := fun c => F.refl c

theorem bindE {x : ExceptT ε (Act σ) α} {f : α → ExceptT ε (Act σ) β} (hx : Keeps R x)
    (hf : ∀ a, Keeps R (f a)) : Keeps R (x >>= f) := by
  rw [Keeps, ExceptT.run_bind]
  refine F.bind hx fun r => ?_
  cases r with
  | ok a => exact hf a
  | error e => exact F.pure _

/-- A sequence, where what follows may rely on how its first part ended. -/
theorem bindAt {x : ExceptT ε (Act σ) α} {f : α → ExceptT ε (Act σ) β} {c : Context σ}
    (hx : R c (x.run.run c).2)
    (hf : ∀ a d, x.run.run c = (.ok a, d) → R d ((f a).run.run d).2) :
    R c ((x >>= f).run.run c).2 := by
  rw [run_bindE]
  generalize x.run.run c = found at hx hf ⊢
  rcases found with ⟨outcome, d⟩
  cases outcome with
  | ok a => exact F.trans hx (hf a d rfl)
  | error e => exact hx

theorem tryCatchE {x : ExceptT ε (Act σ) α} {h : ε → ExceptT ε (Act σ) α} (hx : Keeps R x)
    (hh : ∀ e, Keeps R (h e)) : Keeps R (tryCatch x h) := by
  rw [Keeps, ExceptT.run_tryCatch]
  refine F.bind hx fun r => ?_
  cases r with
  | ok a => exact F.pure _
  | error e => exact hh e

theorem fromOutcome (outcome : Except ε α) :
    Keeps R (Context.fromOutcome outcome : ExceptT ε (Act σ) α) := fun c => F.refl c

theorem fromReply (operation : Operation) (reply : Reply α) :
    Keeps R (Context.fromReply operation reply : Engine σ α) := F.fromOutcome _

/-! ## What is told about a context -/

theorem openHandle (id : HandleId) : Respects R (Context.openHandle id : Act σ OpenHandle) :=
  F.bind F.get fun _ => F.pure _

theorem describePlugin (plugin : Plugin σ) :
    Respects R (Context.describePlugin plugin : Act σ PluginInfo) := F.bind F.get fun _ => F.pure _

theorem describePlugins (plugins : List (Plugin σ)) :
    Respects R (Context.describePlugins plugins : Act σ (List PluginInfo)) :=
  F.bind F.get fun _ => F.pure _

theorem describeHandle (id : HandleId) :
    Respects R (Context.describeHandle id : Act σ FileHandle) :=
  F.bind (F.openHandle id) fun _ => F.pure _

end Path

namespace Flow

variable {R : Context σ → Context σ → Prop} (F : Flow R)

include F

/-! ## Events and outcomes -/

theorem log {entry : LogEntry} (h : (Event.log entry).isRoutine = true) :
    Respects R (Context.log entry) := fun c => F.line _ c h

theorem recordFailure (operation : Operation) (error : Error) :
    Respects R (Context.recordFailure operation error : Act σ Unit) :=
  F.bind (F.failed operation) fun _ => F.log rfl

theorem countedAt (operation : Operation) {work : Engine σ α} {c : Context σ}
    (h : R c (work.run.run c).2) : R c ((Context.counted operation work).run.run c).2 := by
  rw [run_counted]
  generalize work.run.run c = found at h ⊢
  rcases found with ⟨outcome, d⟩
  cases outcome with
  | ok a => exact h
  | error error => exact F.trans h (F.recordFailure operation error d)

theorem counted (operation : Operation) {work : Engine σ α} (h : Keeps R work) :
    Keeps R (Context.counted operation work) := fun c => F.countedAt operation (h c)

theorem timed (operation : Operation) (plugin : String) {work : Act σ α} (h : Respects R work) :
    Respects R (Context.timed operation plugin work) := fun c => F.sampled operation plugin c _ (h _)

theorem timedEngine (operation : Operation) (plugin : String) {work : Engine σ α}
    (h : Keeps R work) : Keeps R (Context.timedEngine operation plugin work) := F.timed _ _ h

theorem settle (operation : Operation) (reply : Reply α) :
    Respects R (Context.settle operation reply : Act σ (Except Error α)) :=
  F.counted operation (F.fromReply operation reply)

theorem failBatch (operation : Operation) (count : Nat) (error : Error) :
    Respects R (Context.failBatch operation count error : Act σ (List (Except Error α))) :=
  F.bind (F.recordFailure operation error) fun _ => F.pure _

theorem spread (operation : Operation) (plugin : String) (count : Nat)
    (reply : Reply (List (Reply α))) :
    Respects R (Context.spread operation plugin count reply : Act σ (List (Except Error α))) := by
  cases reply with
  | error source => exact F.failBatch operation count _
  | ok replies =>
      unfold Context.spread
      dsimp only
      split
      · exact F.mapM fun reply => F.settle operation reply
      · exact F.failBatch operation count _

end Flow

/-! ## The registry at work -/

/-- **Relations along which modules are loaded.** Instances are made, and torn down if one of them cannot be
made, and everything may be logged. -/
structure Scanning (R : Context σ → Context σ → Prop) : Prop extends Path R where
  entry : ∀ entry c, R c ((Context.log entry).run c).2
  tearDown : ∀ backend c, R c ((Context.call backend .teardown).run c).2
  made : ∀ c loads, R c { c with registry := { c.registry with loads } }

namespace Scanning

variable {R : Context σ → Context σ → Prop} (F : Scanning R)

include F

theorem moduleNames (dir : String) : Keeps R (Loader.moduleNames dir : Loading σ (List String)) := by
  refine F.bindE F.getE fun c => ?_
  cases c.host.directory dir with
  | missing | notDirectory => exact F.throwE _
  | files entries =>
      exact F.bindE (F.forM fun _ => F.entry _).perform fun _ => F.pureE _

theorem load (dir name : String) : Keeps R (Loader.load dir name : Loading σ (LoadedModule σ)) := by
  refine F.bindE F.getE fun c => ?_
  dsimp only
  split
  · exact F.bindE (Respects.perform fun c => F.made c _) fun _ => F.fromOutcome _
  · exact F.throwE _
  · exact F.throwE _

theorem drop (loaded : List (LoadedModule σ)) : Respects R (Loader.drop loaded) :=
  F.forM fun module => F.bind (F.entry _) fun _ => F.tearDown module.backend

theorem loadEach (dir : String) (loaded : List (LoadedModule σ)) (names : List String) :
    Keeps R (Loader.loadEach dir loaded names) := by
  induction names generalizing loaded with
  | nil => exact F.pureE _
  | cons name names ih =>
      refine F.bindE (Respects.perform (F.load dir name)) fun result => ?_
      cases result with
      | ok module => exact F.bindE (Respects.perform (F.entry _)) fun _ => ih _
      | error error => exact F.bindE (F.drop loaded).perform fun _ => F.throwE _

theorem loadModules : Keeps R (Registry.loadModules : Loading σ (List (LoadedModule σ))) := by
  refine F.bindE F.getE fun c => ?_
  split
  · exact F.bindE (Respects.perform (F.entry _)) fun _ => F.bindE (F.moduleNames _) fun _ =>
      F.loadEach _ _ _
  · exact F.bindE (Respects.perform (F.entry _)) fun _ => F.pureE _

end Scanning

/-- **Relations that heed neither the registry nor gauges.** Backends may be torn down, and everything may
be logged. -/
structure Heedless (R : Context σ → Context σ → Prop) : Prop extends Path R where
  entry : ∀ entry c, R c ((Context.log entry).run c).2
  gauge : ∀ change, change.isGauge = true → Respects R (Context.measure change)
  tearDown : ∀ backend c, R c ((Context.call backend .teardown).run c).2
  registry : ∀ c registry, R c { c with registry }

namespace Heedless

variable {R : Context σ → Context σ → Prop} (F : Heedless R)

include F

theorem scanning : Scanning R where
  toPath := F.toPath
  entry := F.entry
  tearDown := F.tearDown
  made c _ := F.registry c _

theorem update (change : Registry σ → Registry σ) : Respects R (Registry.update change) :=
  fun c => F.registry c _

theorem publishSize : Respects R (Registry.publishSize : Act σ Unit) :=
  F.bind F.get fun _ => F.gauge _ rfl

theorem runDiscovery : Keeps R (Registry.runDiscovery : Engine σ (List (Plugin σ))) := by
  refine F.bindE (Respects.perform F.scanning.loadModules) fun result => ?_
  cases result with
  | ok modules =>
      exact F.bindE (F.update _).perform fun _ => F.bindE F.publishSize.perform fun _ =>
        F.bindE F.getE fun _ => F.bindE (Respects.perform (F.entry _)) fun _ => F.pureE _
  | error error =>
      exact F.bindE (Respects.perform (F.entry _)) fun _ => F.bindE (F.update _).perform fun _ =>
        F.throwE _

theorem discover : Keeps R (Registry.discover : Engine σ (List (Plugin σ))) := by
  refine F.bindE F.getE fun c => ?_
  dsimp only
  cases c.registry.phase with
  | ready | tornDown => exact F.pureE _
  | failed error => exact F.throwE _
  | uninitialized => exact F.runDiscovery

theorem rediscover : Keeps R (Registry.rediscover : Engine σ (List (Plugin σ))) := by
  refine F.bindE (Respects.perform (F.bind F.get fun c => ?_)) fun _ => F.discover
  cases c.registry.phase with
  | failed error => exact F.bind (F.entry _) fun _ => F.update _
  | uninitialized | ready | tornDown => exact F.pure _

theorem register (backend : Backend σ) : Respects R (Registry.register backend) := by
  refine F.bind F.get fun c => ?_
  cases c.registry.phase with
  | uninitialized | failed => exact F.bind (F.entry _) fun _ => F.update _
  | tornDown => exact F.bind (F.entry _) fun _ => F.tearDown backend
  | ready => exact F.bind (F.entry _) fun _ => F.bind (F.update _) fun _ => F.publishSize

theorem tearDownPlugin (plugin : Plugin σ) : Respects R plugin.teardown := by
  refine F.bind F.get fun c => ?_
  split
  · exact F.pure _
  · exact F.bind (F.update _) fun _ => F.bind (F.entry _) fun _ =>
      F.bind (F.tearDown plugin.backend) fun _ => F.pure _

theorem tearDownRegistry : Respects R (Registry.teardown : Act σ Unit) := by
  refine F.bind F.get fun c => ?_
  dsimp only
  split
  · exact F.pure _
  · exact F.bind (F.update _) fun _ => F.bind (F.entry _) fun _ => F.bind (F.gauge _ rfl) fun _ =>
      F.bind (F.forM fun plugin => F.discard (F.tearDownPlugin plugin)) fun _ =>
        F.forM F.tearDown

/-- The end of a context, if the relation does not look at the tables either. -/
theorem teardown (htable : ∀ c resource table, R c (c.withTable resource table)) :
    Respects R (Context.teardown : Act σ Unit) := by
  have hclear (resource : Resource) : Respects R (Context.clearMadeTable resource : Act σ Nat) := by
    refine F.bind F.get fun c => ?_
    cases c.table? resource with
    | none => exact F.pure _
    | some table =>
        refine F.bind (fun c => htable c resource _) fun table => F.bind ?_ fun _ => F.pure _
        exact F.bind (fun c => htable c resource _) fun _ => F.gauge _ rfl
  refine F.bind (hclear .file) fun files => F.bind (hclear .directory) fun directories => ?_
  split
  · exact F.bind (F.entry _) fun _ => F.tearDownRegistry
  · exact F.tearDownRegistry

end Heedless

/-- **Relations that do not look at the registry**, and along which work may be logged and metered. -/
structure Aloof (R : Context σ → Context σ → Prop) : Prop extends Flow R, Heedless R

/-- It is enough that every event that is no call may come to the record. -/
theorem Aloof.of_note {R : Context σ → Context σ → Prop} (hrefl : ∀ c, R c c)
    (htrans : ∀ {a b c}, R a b → R b c → R a c)
    (hnote : ∀ event c, event.call? = none → R c ((emit event).run c).2)
    (htearDown : ∀ backend c, R c ((call backend .teardown).run c).2)
    (hregistry : ∀ c registry, R c { c with registry }) : Aloof R where
  toFlow := .of_emit hrefl htrans fun event c h => hnote event c (Event.call?_of_isRoutine h)
  entry _ c := hnote _ c rfl
  gauge _ _ c := hnote _ c rfl
  tearDown := htearDown
  registry := hregistry

/-! ## Looking plugins up -/

namespace Path

variable {R : Context σ → Context σ → Prop} (F : Path R)

include F

theorem findByName (hdiscover : Keeps R Registry.discover) (name : String) :
    Keeps R (Registry.findByName name : Engine σ (Plugin σ)) := by
  refine F.bindE hdiscover fun plugins => ?_
  cases plugins.find? fun plugin => plugin.name == name with
  | none => exact F.throwE _
  | some plugin => exact F.pureE _

theorem resolveOwner (hdiscover : Keeps R Registry.discover) (owner : String) :
    Keeps R (Context.resolveOwner owner : Engine σ (Plugin σ)) := by
  refine F.tryCatchE (F.findByName hdiscover owner) fun error => ?_
  cases error <;> exact F.throwE _

end Path

/-- **Relations along which plugins are sought**: they may be discovered, and asked about a URL. -/
structure Seeking (R : Context σ → Context σ → Prop) : Prop extends Path R where
  discover : Keeps R Registry.discover
  question : ∀ backend url capability c, R c ((Context.call backend (.checkUrl url capability)).run c).2
  matched : ∀ plugin url capability, Respects R (Context.log (.matched plugin url capability))

namespace Seeking

variable {R : Context σ → Context σ → Prop} (F : Seeking R)

include F

theorem firstClaiming (url : String) (capability : Capability) (plugins : List (Plugin σ)) :
    Keeps R (Registry.firstClaiming url capability plugins) := by
  induction plugins with
  | nil => exact F.throwE _
  | cons plugin plugins ih =>
      refine F.bindE (Respects.perform (F.question _ _ _)) fun claimed => ?_
      rcases claimed with source | (_ | _)
      · exact F.throwE _
      · exact ih
      · exact F.bindE (F.matched _ _ _).perform fun _ => F.pureE _

theorem findFor (url : String) (capability : Capability) :
    Keeps R (Registry.findFor url capability : Engine σ (Plugin σ)) :=
  F.bindE F.discover fun _ => F.firstClaiming url capability _

theorem resolveUrl (operation : Operation) (url : String) :
    Keeps R (Context.resolveUrl operation url : Engine σ (Plugin σ)) := by
  unfold Context.resolveUrl
  split
  · exact F.throwE _
  · exact F.findFor url _

end Seeking

/-- **Relations along which plugins are found**: they may be discovered. -/
structure Finding (R : Context σ → Context σ → Prop) : Prop extends Flow R where
  discover : Keeps R Registry.discover

theorem Aloof.finding {R : Context σ → Context σ → Prop} (F : Aloof R) : Finding R where
  toFlow := F.toFlow
  discover := F.discover

namespace Finding

variable {R : Context σ → Context σ → Prop} (F : Finding R)

include F

theorem findByName (name : String) : Keeps R (Registry.findByName name : Engine σ (Plugin σ)) :=
  F.toPath.findByName F.discover name

theorem resolveOwner (owner : String) :
    Keeps R (Context.resolveOwner owner : Engine σ (Plugin σ)) := F.toPath.resolveOwner F.discover owner

theorem debugPlugin (name : String) : Keeps R (Context.debugPlugin name : Engine σ String) :=
  F.bindE (F.findByName name) fun _ => F.bindE F.getE fun _ => F.pureE _

end Finding

/-! ## Dispatch on URLs -/

/-- **Relations along which operations on URLs are routed**: plugins may be found, and called for what is
not about an open handle. -/
structure Routing (R : Context σ → Context σ → Prop) : Prop extends Finding R where
  ask : ∀ backend request c, request.about? = none → request ≠ .teardown →
    R c ((Context.call backend request).run c).2

namespace Routing

variable {R : Context σ → Context σ → Prop} (F : Routing R)

include F

theorem seeking : Seeking R where
  toPath := F.toPath
  discover := F.discover
  question backend _ _ c := F.ask backend _ c rfl nofun
  matched _ _ _ := F.log rfl

theorem askE {backend : Backend σ} {request : Call} (h : request.about? = none)
    (hteardown : request ≠ .teardown) :
    Keeps R (Context.perform (Context.call backend request) : Engine σ request.Answer) :=
  Respects.perform fun c => F.ask backend request c h hteardown

theorem findFor (url : String) (capability : Capability) :
    Keeps R (Registry.findFor url capability : Engine σ (Plugin σ)) := F.seeking.findFor url capability

theorem resolveUrl (operation : Operation) (url : String) :
    Keeps R (Context.resolveUrl operation url : Engine σ (Plugin σ)) := F.seeking.resolveUrl operation url

theorem dispatchUrl {request : UrlRequest α} (h : request.call.about? = none)
    (hteardown : request.call ≠ .teardown) :
    Keeps R (Context.dispatchUrl request : Engine σ α) :=
  F.bindE (F.log rfl).perform fun _ => F.counted _ <|
    F.bindE (F.resolveUrl _ _) fun _ => F.timedEngine _ _ <|
      F.bindE (F.askE h hteardown) fun _ => F.fromReply _ _

theorem dispatchPair {request : PairRequest} (h : request.call.about? = none)
    (hteardown : request.call ≠ .teardown) :
    Keeps R (Context.dispatchPair request : Engine σ Unit) := by
  refine F.bindE (F.log rfl).perform fun _ => F.counted _ ?_
  refine F.bindE (F.resolveUrl _ _) fun source => F.bindE (F.resolveUrl _ _) fun destination => ?_
  split
  · exact F.timedEngine _ _ <| F.bindE (F.askE h hteardown) fun _ => F.fromReply _ _
  · exact F.throwE _

theorem resolveBatch (operation : Operation) (urls : List String) {serve : Plugin σ → Act σ β}
    (hserve : ∀ plugin, Respects R (serve plugin)) (otherwise : List (Except Error α) → β) :
    Respects R (Context.resolveBatch operation urls serve otherwise) := by
  refine F.bind (F.log rfl) fun _ => ?_
  cases urls with
  | nil => exact F.pure _
  | cons first rest =>
      refine F.bind (F.resolveUrl operation first) fun resolved => ?_
      cases resolved with
      | ok plugin => exact F.timed _ _ (hserve plugin)
      | error error => exact F.bind (F.failBatch operation _ error) fun _ => F.pure _

theorem dispatchBatch {request : BatchRequest α} (h : request.call.about? = none)
    (hteardown : request.call ≠ .teardown) :
    Respects R (Context.dispatchBatch request : Act σ (Option String × List (Except Error α))) :=
  F.resolveBatch _ _ (fun plugin => F.bind (fun c => F.ask plugin.backend _ c h hteardown)
    fun _ => F.bind (F.spread _ _ _ _) fun _ => F.pure _) _

theorem unlinkEach (plugin : Plugin σ) (urls : List String) :
    Respects R (Context.unlinkEach plugin urls) :=
  F.bind (F.log rfl) fun _ => F.mapM fun _ =>
    F.bind (fun c => F.ask plugin.backend _ c rfl nofun) fun _ => F.settle _ _

theorem unlinkList (urls : List String) :
    Respects R (Context.unlinkList urls : Act σ (List (Except Error Unit))) := by
  refine F.resolveBatch _ _ (fun plugin => ?_) _
  refine F.bind (fun c => F.ask plugin.backend _ c rfl nofun) fun answer => ?_
  cases answer with
  | none => exact F.unlinkEach plugin urls
  | some replies => exact F.spread _ _ _ _

theorem bringOnlineList (urls : List String) (options : StageOptions) :
    Respects R (Context.bringOnlineList urls options : Act σ (StageBatch Error)) :=
  F.bind (F.dispatchBatch rfl nofun) fun _ => F.pure _

end Routing

/-! ## Relations between calls -/

section Adds

variable {P : InstanceId × String × Call → Prop}

theorem Adds.flow : Flow (Adds P : Context σ → Context σ → Prop) :=
  .of_emit (fun _ => .of_eq rfl) Adds.trans fun _ c h => .of_eq (calls_emit (Event.call?_of_isRoutine h) c)

theorem Adds.aloof (hteardown : ∀ id name, P (id, name, .teardown)) :
    Aloof (Adds P : Context σ → Context σ → Prop) :=
  .of_note (fun _ => .of_eq rfl) Adds.trans (fun _ c h => .of_eq (calls_emit h c))
    (fun _ c => .of_call (hteardown _ _) c) fun _ _ => .of_eq rfl

end Adds

end Context

end StorageDispatch
