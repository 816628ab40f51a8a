import StorageDispatch.Proofs.Context.Flow

set_option autoImplicit false

/-! # What work does, exactly

`Does work c result made d` says all that can be said of one run of `work`: started in the context `c` it
ends with `result`, it makes the calls `made` in that order and no other one, and it leaves the context
`d`, but for the record of events, which grows by the calls and by metrics and lines of the log.

The lemmas go along the way operations are written: one for each small step, and `Does.bind` for a
sequence. As the record of events tells nobody what to do next, what follows a step is described for every
record that the step may have left.
-/

namespace StorageDispatch

namespace Context

variable {σ α β ε : Type}

def inWorld (c : Context σ) (world : σ) : Context σ := { c with world }

def recording (c : Context σ) (events : List Event) : Context σ := { c with events }

/-- **One run of work**: its result, the calls that it makes, and the context that it leaves but for the
record of events. -/
def Does (work : ExceptT ε (Act σ) α) (c : Context σ) (result : Except ε α)
    (made : List (InstanceId × String × Call)) (d : Context σ) : Prop :=
  ∃ events : List Event, events.filterMap Event.call? = made ∧
    work.run.run c = (result, d.recording (c.events ++ events))

namespace Does

variable {work : ExceptT ε (Act σ) α} {c d e : Context σ} {result : Except ε α}
  {made more : List (InstanceId × String × Call)}

theorem result_eq (h : Does work c result made d) : (work.run.run c).1 = result := by
  obtain ⟨events, -, hrun⟩ := h
  rw [hrun]

/-- What a run leaves is what it is said to leave, up to the record of events. -/
theorem context_eq (h : Does work c result made d) :
    ∃ events, (work.run.run c).2 = d.recording events := by
  obtain ⟨events, -, hrun⟩ := h
  exact ⟨c.events ++ events, congrArg Prod.snd hrun⟩

theorem calls_eq (h : Does work c result made d) : (work.run.run c).2.calls = c.calls ++ made := by
  obtain ⟨events, hmade, hrun⟩ := h
  rw [hrun, ← hmade]
  exact List.filterMap_append

/-- The record of events in the context that is left does not matter. -/
theorem congr (h : Does work c result made d) (hleft : ∀ events, d.recording events = e.recording events) :
    Does work c result made e := by
  obtain ⟨events, hmade, hrun⟩ := h
  exact ⟨events, hmade, hrun.trans (congrArg (Prod.mk result) (hleft _))⟩

/-! ## Sequences -/

/-- Nothing is done by work that leaves the context alone. -/
theorem of_run (h : work.run.run c = (result, c)) : Does work c result [] c := by
  refine ⟨[], rfl, ?_⟩
  rw [h, List.append_nil]
  rfl

theorem pure (a : α) (c : Context σ) : Does (Pure.pure a : ExceptT ε (Act σ) α) c (.ok a) [] c :=
  of_run rfl

theorem throw (error : ε) (c : Context σ) :
    Does (throw error : ExceptT ε (Act σ) α) c (.error error) [] c := of_run rfl

theorem fromOutcome (outcome : Except ε α) (c : Context σ) :
    Does (Context.fromOutcome outcome) c outcome [] c := of_run rfl

/-- A sequence goes on in the context that its first part leaves. -/
theorem andThen {a : α} {f : α → ExceptT ε (Act σ) β} {result : Except ε β}
    (hwork : Does work c (.ok a) made d) (hrest : Does (f a) (work.run.run c).2 result more e) :
    Does (work >>= f) c result (made ++ more) e := by
  obtain ⟨events, hmade, hrun⟩ := hwork
  obtain ⟨later, hmore, hrest⟩ := hrest
  refine ⟨events ++ later, ?_, ?_⟩
  · rw [List.filterMap_append, hmade, hmore]
  · rw [hrun] at hrest
    rw [run_bindE, hrun]
    have hevents : (c.events ++ events) ++ later = c.events ++ (events ++ later) := List.append_assoc _ _ _
    rw [← hevents]
    exact hrest

/-- A sequence goes on with one certain record of events, on which what follows may depend. -/
theorem goOn {a : α} (hwork : Does work c (.ok a) made d) :
    ∃ events : List Event, ∀ {β : Type} {f : α → ExceptT ε (Act σ) β} {result : Except ε β}
      {more : List (InstanceId × String × Call)} {e : Context σ},
      Does (f a) (d.recording events) result more e → Does (work >>= f) c result (made ++ more) e := by
  obtain ⟨events, hleft⟩ := hwork.context_eq
  refine ⟨events, fun hrest => hwork.andThen ?_⟩
  rw [hleft]
  exact hrest

/-- A sequence makes the calls of its two parts, if the first one succeeds. -/
theorem bind {a : α} {f : α → ExceptT ε (Act σ) β} {result : Except ε β}
    (hwork : Does work c (.ok a) made d)
    (hrest : ∀ events, Does (f a) (d.recording events) result more e) :
    Does (work >>= f) c result (made ++ more) e := by
  obtain ⟨events, hgo⟩ := hwork.goOn
  exact hgo (hrest events)

/-- A sequence ends with the failure of its first part. -/
theorem bind_error {error : ε} (f : α → ExceptT ε (Act σ) β)
    (hwork : Does work c (.error error) made d) : Does (work >>= f) c (.error error) made d := by
  obtain ⟨events, hmade, hrun⟩ := hwork
  refine ⟨events, hmade, ?_⟩
  rw [run_bindE, hrun]

theorem map (f : α → β) (h : Does work c result made d) : Does (f <$> work) c (f <$> result) made d := by
  obtain ⟨events, hmade, hrun⟩ := h
  refine ⟨events, hmade, ?_⟩
  rw [run_map, hrun]

/-- Work that can fail, as a part of work that looks at how it ended. -/
theorem attempt {τ : Type} (h : Does work c result made d) :
    Does (perform work.run : ExceptT τ (Act σ) (Except ε α)) c (.ok result) made d := by
  obtain ⟨events, hmade, hrun⟩ := h
  refine ⟨events, hmade, ?_⟩
  show ((Except.ok (work.run.run c).1 : Except τ (Except ε α)), (work.run.run c).2) = _
  rw [hrun]

/-- A sequence of work that cannot fail. -/
theorem perform_bind {x : Act σ α} {f : α → Act σ β} {result : Except ε β}
    (h : Does (perform x >>= fun a => perform (f a)) c result made d) :
    Does (perform (x >>= f)) c result made d := h

/-! ## Small steps -/

/-- An event that is no call leaves nothing but its record. -/
theorem emit {event : Event} (h : event.call? = none) (c : Context σ) :
    Does (perform (Context.emit event) : ExceptT ε (Act σ) Unit) c (.ok ()) [] c := by
  refine ⟨[event], ?_, rfl⟩
  simp [h]

theorem log (entry : LogEntry) (c : Context σ) :
    Does (perform (Context.log entry) : ExceptT ε (Act σ) Unit) c (.ok ()) [] c := emit rfl c

theorem measure (change : Metric) (c : Context σ) :
    Does (perform (Context.measure change) : ExceptT ε (Act σ) Unit) c (.ok ()) [] c := emit rfl c

/-- A call is recorded, and the backend may change the world. -/
theorem call (backend : Backend σ) (request : Call) (c : Context σ) :
    Does (perform (Context.call backend request) : ExceptT ε (Act σ) request.Answer) c
      (.ok (backend.respond request c.world).1) [(backend.id, backend.name, request)]
      (c.inWorld (backend.respond request c.world).2) :=
  ⟨[.call backend.id backend.name request], rfl, rfl⟩

/-- A call whose answer is known. -/
theorem answered {backend : Backend σ} {request : Call} {answer : request.Answer} {c : Context σ}
    (h : (backend.respond request c.world).1 = answer) :
    Does (perform (Context.call backend request) : ExceptT ε (Act σ) request.Answer) c (.ok answer)
      [(backend.id, backend.name, request)] (c.inWorld (backend.respond request c.world).2) := by
  rw [← h]
  exact call backend request c

/-- If the list of plugins is known, there is nothing to discover. -/
theorem discover {c : Context σ} (hknown : c.registry.phase.isKnown) :
    Does Registry.discover c (.ok c.registry.plugins) [] c := of_run (run_discover hknown)

/-- Nor is there with another record of events. -/
theorem discover_recording {c : Context σ} {plugins : List (Plugin σ)} (hknown : c.registry.phase.isKnown)
    (hplugins : c.registry.plugins = plugins) (events : List Event) :
    Does Registry.discover (c.recording events) (.ok plugins) [] c := by
  have hthere : (c.recording events).registry.phase.isKnown := hknown
  rw [← hplugins]
  exact (discover hthere).congr fun _ => rfl

theorem openHandle (id : HandleId) (c : Context σ) :
    Does (perform (Context.openHandle id) : ExceptT ε (Act σ) OpenHandle) c
      (.ok ⟨id, (c.handles[id]?).getD default⟩) [] c := of_run rfl

/-! ## Counting -/

/-- A failure is counted and logged, and stays a failure. -/
theorem counted (operation : Operation) {work : Engine σ α} {result : Except Error α}
    (h : Does work c result made d) : Does (Context.counted operation work) c result made d := by
  obtain ⟨events, hmade, hrun⟩ := h
  unfold Does Context.counted
  simp only [ExceptT.run_mk, run_bind, hrun]
  cases result with
  | ok a => exact ⟨events, hmade, rfl⟩
  | error error =>
      refine ⟨events ++ ([.metric (.failed operation)] ++ [.log (.dispatchFailed operation error)]),
        ?_, ?_⟩
      · rw [List.filterMap_append, hmade]
        exact List.append_nil _
      · rw [← List.append_assoc, ← List.append_assoc]
        rfl

/-- Work that is timed does what it does otherwise. -/
theorem timedEngine (operation : Operation) (plugin : String) {work : Engine σ α}
    {result : Except Error α} (h : ∀ events, Does work (c.recording events) result made d) :
    Does (Context.timedEngine operation plugin work) c result made d := by
  obtain ⟨events, hmade, hrun⟩ := h (c.events ++ [.metric (.dispatched operation plugin)])
  refine ⟨[.metric (.dispatched operation plugin)] ++ (events ++ [.metric (.timed operation)]), ?_, ?_⟩
  · rw [List.filterMap_append, List.filterMap_append, hmade]
    exact List.append_nil _
  · have hmeasure : ((Context.measure (.dispatched operation plugin) : Act σ Unit).run c).2 =
        c.recording (c.events ++ [.metric (.dispatched operation plugin)]) := rfl
    unfold Context.timedEngine Context.timed
    simp only [ExceptT.run_mk, run_bind, hmeasure, hrun]
    rw [← List.append_assoc, ← List.append_assoc]
    rfl

end Does

end Context

end StorageDispatch
