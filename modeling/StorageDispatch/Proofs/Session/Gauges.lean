import StorageDispatch.Proofs.Context.Batches
import StorageDispatch.Proofs.Context.Gauges
import StorageDispatch.Proofs.Session.Steps
import StorageDispatch.Proofs.Session.Turn

set_option autoImplicit false

/-! # Gauges and samples over whole runs

Every step keeps the gauges true and samples as many durations as it hands operations to backends, so the
gauges are true after every run from the start (`gauges_after`). A step that fails sets no gauge, unless it is
the first one to look for the plugins and finds them.
-/

namespace StorageDispatch

variable {σ α : Type}

namespace Context

/-! ## Failures of the registry and of openings -/

theorem failsAlong_rediscover : FailsAlong Quiet (Registry.rediscover : Engine σ (List (Plugin σ))) := by
  intro c error d hrun
  have hforgot : ((Registry.forgetFailure : Act σ Unit).run c).2.gauges = c.gauges := by
    unfold Registry.forgetFailure
    rw [run_get_bind]
    cases c.registry.phase with
    | failed reason => exact gauges_log (.discoveryRetried reason) c
    | uninitialized | ready | tornDown => rfl
  have hsettles := discover_settles ((Registry.forgetFailure : Act σ Unit).run c).2
  unfold Registry.rediscover at hrun
  rw [run_perform_bindE] at hrun
  rw [hrun] at hsettles
  cases hsettles with
  | still h => exact .inl (h.gauges.trans hforgot)
  | gaveUp _ _ _ hgauges => exact .inl (hgauges.trans hforgot)

end Context

open Context

/-- An opening that fails changed no table. -/
theorem Opening.failsAlong_serve {R : Context σ → Context σ → Prop} (F : Lenient R) (o : Opening) :
    FailsAlong R (o.request : Request σ).serve := by
  rw [o.serve_request]
  refine FailsAlong.map (F.failsAlong_bind (F.routing.dispatchUrl o.about?_part o.part_ne_teardown) ?_) Value.key
  intro handle
  refine F.failsAlong_bind (Respects.perform fun c => F.still (.adopt _ c)) fun id => ?_
  exact F.failsAlong_storeAdopted o.operation o.resource id

/-- Ordinary requests that fail set no gauge, unless the plugins are discovered. -/
theorem Request.failsAlong_serve {request : Request σ} (h : request.ordinary = true) :
    FailsAlong Quiet request.serve := by
  suffices hfails : FailsAlong Unset request.serve from hfails.mono fun _ _ hunset => hunset.quiet
  by_cases hsteady : request.steady = true
  · exact (handling_serve unset_lenient.routing unset_lenient.handling hsteady).failsAlong
  · -- Those that are not steady open or close something, or edit a table.
    cases request with
    | openFile url flags mode => exact (Opening.file url flags mode).failsAlong_serve unset_lenient
    | opendir url => exact (Opening.directory url).failsAlong_serve unset_lenient
    | close | closedir => exact (unset_lenient.failsAlong_closeKey _ _ _).map _
    | insertHandle resource handle =>
        refine unset_path.failsAlong_bind (Respects.perform fun c => unset_lenient.still (.adopt handle c)) ?_
        intro id
        exact (unset_lenient.failsAlong_insertHandle resource id).bind fun _ => failsAlong_pure _
    | removeHandle resource key =>
        refine (unset_lenient.failsAlong_removeHandle resource key).bind fun id => ?_
        exact (failsAlong_perform _).bind fun _ => failsAlong_pure _
    | clearTable resource => exact (failsAlong_perform _).map _
    | _ => exact absurd h hsteady

namespace Session

/-! ## Steps -/

/-- Steady steps move the context along every relation that does not mind still work. -/
theorem lenient_step {R : Context σ → Context σ → Prop} (F : Lenient R) {step : Step σ}
    (h : step.steady = true) (s : Session σ) : R s.context (s.step step).2.context :=
  handling_step F.routing F.handling (fun c world => F.still (.ofWorld c world))
    (fun c host => F.still (.ofHost c host)) h s

/-- **Every step keeps the gauges true.** -/
theorem truth_step (step : Step σ) (s : Session σ) : Truth s.context (s.step step).2.context := by
  rcases step.cases with hsteady | hregisters | rfl | ⟨request, rfl, hordinary⟩
  · exact lenient_step truth_lenient hsteady s
  · cases step with
    | register make =>
        exact truth_path.bindE (ε := Error) (truth_register _).perform (fun _ => truth_path.pureE ()) s.context
    | tearDownHeld label =>
        exact moves_withKept truth_path s.held label
          (fun plugin => (truth_tearDownPlugin plugin).perform.map Value.flag) s
    | request request =>
        cases request with
        | rediscover =>
            refine truth_path.bindE truth_rediscover (fun _ => ?_) s.context
            exact truth_path.bindE (truth_path.describePlugins _).perform fun _ => truth_path.pureE _
        | tearDownRegistry => exact truth_tearDownRegistry.perform.map (ε := Error) (fun _ => Value.unit) s.context
        | _ => exact Bool.noConfusion hregisters
    | _ => exact Bool.noConfusion hregisters
  · exact truth_teardown.perform.map (ε := Error) (fun _ => Value.unit) s.context
  · exact Request.storing_serve truth_lenient.routing truth_storing hordinary s.context

/-- **Every step samples as many durations as it hands operations to backends.** -/
theorem sampled_step (step : Step σ) (s : Session σ) : Sampled s.context (s.step step).2.context := by
  rcases step.cases with hsteady | hregisters | rfl | ⟨request, rfl, hordinary⟩
  · exact handling_step sampled_frame.routing sampled_frame.storing.toHandling (fun _ _ => .of_eq rfl)
      (fun _ _ => .of_eq rfl) hsteady s
  · exact aloof_step sampled_aloof hregisters s
  · exact (sampled_aloof.teardown sampled_frame.table).perform.map (ε := Error) (fun _ => Value.unit) s.context
  · exact Request.respects_serve sampled_frame hordinary s.context

/-- **A step that fails sets no gauge**, unless it discovers the plugins. -/
theorem quiet_step {step : Step σ} {s : Session σ} {error : Error} (h : (s.step step).1 = .error error) :
    Quiet s.context (s.step step).2.context := by
  -- The session's own steps can hardly fail, so what is left are requests and new discoveries.
  rcases step.cases with hsteady | hregisters | rfl | ⟨request, rfl, hordinary⟩
  · exact (lenient_step unset_lenient hsteady s).quiet
  · cases step with
    | register make => cases h
    | tearDownHeld label =>
        change (s.withKept s.held label _).1 = _ at h
        show Quiet s.context (s.withKept s.held label _).2.context
        unfold withKept at h ⊢
        cases hlookup : s.held.lookup label with
        | none => exact .inl rfl
        | some plugin =>
            rw [hlookup] at h
            cases h
    | request request =>
        cases request with
        | rediscover =>
            have hfails : FailsAlong Quiet (Request.rediscover : Request σ).serve :=
              failsAlong_rediscover.bind fun _ => (failsAlong_perform _).bind fun _ => failsAlong_pure _
            exact hfails s.context error _ (Prod.ext h rfl)
        | tearDownRegistry => cases h
        | _ => exact Bool.noConfusion hregisters
    | _ => exact Bool.noConfusion hregisters
  · cases h
  · exact Request.failsAlong_serve hordinary s.context error _ (Prod.ext h rfl)

/-- **No operation on a list sets a gauge**, unless it discovers the plugins: not one all of whose outcomes are
errors, nor any other. -/
theorem quiet_list (op : ListOperation) (s : Session σ) :
    Quiet s.context (s.step (.request op.request)).2.context := by
  have hsteady : (Step.request op.request : Step σ).steady = true := by
    cases op <;> rfl
  exact (lenient_step unset_lenient hsteady s).quiet

/-! ## Runs -/

/-- **Every run keeps the gauges true.** -/
theorem truth_run (steps : List (Step σ)) (s : Session σ) : Truth s.context (run steps s).2.context := by
  induction steps generalizing s with
  | nil => exact truth_path.refl s.context
  | cons step steps ih => exact truth_path.trans (truth_step step s) (ih (s.step step).2)

/-- In a new context, no gauge is set, and there is nothing to show. -/
theorem truthful_start (config : Config) (host : Host σ) (world : σ) :
    (start config host world).context.Truthful := by
  intro gauge
  cases gauge with
  | plugins => rfl
  | handles resource => cases resource <;> rfl

/-- **Gauges and samples tell the truth over whole runs.** After every run of a new context, every gauge shows
what it is to show. Whatever the next step is, it samples as many durations as it counts operations handed to
backends, of every operation; and if it fails, or is about a list, whose entries may all be errors, it sets no
gauge, unless the plugins are discovered in it. -/
theorem gauges_after (config : Config) (host : Host σ) (world : σ) (steps : List (Step σ)) (step : Step σ) :
    let s := after config host world steps
    let t := s.step step
    (∀ gauge, s.context.shows gauge = s.context.measured gauge) ∧
      (∃ made, t.2.context.metrics = s.context.metrics ++ made ∧
        ∀ operation, made.count (.timed operation) = made.countP (Metric.dispatches operation)) ∧
      (∀ error, t.1 = .error error → t.2.context.gauges = s.context.gauges ∨
        s.context.registry.phase = .uninitialized ∧ t.2.context.registry.phase = .ready) ∧
      ∀ op : ListOperation, step = .request op.request → t.2.context.gauges = s.context.gauges ∨
        s.context.registry.phase = .uninitialized ∧ t.2.context.registry.phase = .ready := by
  intro s t
  refine ⟨?_, sampled_step step s, fun error herror => quiet_step herror, ?_⟩
  · exact truth_run steps (start config host world) (truthful_start config host world)
  · rintro op rfl
    exact quiet_list op s

end Session

end StorageDispatch
