import StorageDispatch.Proofs.Context.Counters
import StorageDispatch.Proofs.Context.Owners

set_option autoImplicit false

/-! # What gauges show

A gauge shows the last value that it was set to, and what it is to show is a number of the context: how many
entries a descriptor table has, or how many plugins there are. A context is `Truthful` if every gauge shows
what it is to show.

Three relations follow operations on their way. Work keeps the gauges true (`Truth`); it samples as many
durations as it dispatches operations (`Sampled`); and most work sets no gauge at all, unless it discovers the
plugins (`Unset`).
-/

namespace StorageDispatch

variable {σ α ε : Type}

inductive Gauge
  /-- The number of entries of a descriptor table. -/
  | handles (resource : Resource)
  /-- The number of plugins. -/
  | plugins
  deriving DecidableEq, Repr

namespace Metric

/-- The gauge that a change of a metric sets, and to what. -/
def gauge? : Metric → Option (Gauge × Nat)
  | openHandles resource live => some (.handles resource, live)
  | pluginsLoaded count => some (.plugins, count)
  | dispatched .. | failed _ | timed _ | emulated _ => none

/-- Whether a change of a metric counts an operation as handed to a backend. -/
def dispatches (operation : Operation) : Metric → Bool
  | dispatched other _ => other == operation
  | _ => false

theorem gauge?_eq_none {change : Metric} (h : change.isGauge = false) : change.gauge? = none := by
  cases change with
  | openHandles | pluginsLoaded => cases h
  | _ => rfl

end Metric

namespace Context

def gauges (c : Context σ) : List (Gauge × Nat) := c.metrics.filterMap Metric.gauge?

/-- What a gauge shows: the last value that it was set to, or zero. -/
def shows (c : Context σ) (gauge : Gauge) : Nat :=
  ((c.gauges.reverse.find? fun setting => setting.1 == gauge).map Prod.snd).getD 0

/-- What a gauge is to show. -/
def measured (c : Context σ) : Gauge → Nat
  | .handles resource => (c.table resource).live
  | .plugins => c.registry.size

def Truthful (c : Context σ) : Prop := ∀ gauge, c.shows gauge = c.measured gauge

theorem gauges_measure (change : Metric) (c : Context σ) :
    ((measure change).run c).2.gauges = c.gauges ++ change.gauge?.toList := by
  rw [gauges, metrics_measure, List.filterMap_append, gauges]
  cases h : change.gauge? <;> simp [h]

theorem gauges_log (entry : LogEntry) (c : Context σ) : ((log entry).run c).2.gauges = c.gauges := by
  rw [gauges, metrics_log, gauges]

theorem gauges_call (backend : Backend σ) (request : Call) (c : Context σ) :
    ((call backend request).run c).2.gauges = c.gauges := by
  rw [gauges, metrics_call, gauges]

/-- Once a gauge is set, it shows that value. -/
theorem shows_of_set {c d : Context σ} {gauge : Gauge} {value : Nat} (h : d.gauges = c.gauges ++ [(gauge, value)]) :
    d.shows gauge = value := by
  simp [shows, h]

/-- Setting a gauge leaves the others alone. -/
theorem shows_of_set_ne {c d : Context σ} {gauge other : Gauge} {value : Nat}
    (h : d.gauges = c.gauges ++ [(gauge, value)]) (hne : other ≠ gauge) : d.shows other = c.shows other := by
  simp [shows, h, hne.symm]

/-! ## Work that is still -/

/-- No gauge is set, and nothing changes that a gauge is to show. -/
structure Still (c d : Context σ) : Prop where
  gauges : d.gauges = c.gauges
  table : ∀ resource, d.table resource = c.table resource
  plugins : d.registry.plugins = c.registry.plugins
  phase : d.registry.phase = c.registry.phase

namespace Still

theorem refl (c : Context σ) : Still c c := ⟨rfl, fun _ => rfl, rfl, rfl⟩

theorem trans {c d e : Context σ} (h : Still c d) (h' : Still d e) : Still c e where
  gauges := h'.gauges.trans h.gauges
  table resource := (h'.table resource).trans (h.table resource)
  plugins := h'.plugins.trans h.plugins
  phase := h'.phase.trans h.phase

/-- An event is no more than its record. -/
theorem emit {event : Event} {c : Context σ} (h : ((Context.emit event).run c).2.gauges = c.gauges) :
    Still c ((Context.emit event).run c).2 where
  gauges := h
  table resource := by cases resource <;> rfl
  plugins := rfl
  phase := rfl

theorem log (entry : LogEntry) (c : Context σ) : Still c ((Context.log entry).run c).2 :=
  emit (gauges_log entry c)

theorem measure (change : Metric) (h : change.isGauge = false) (c : Context σ) :
    Still c ((Context.measure change).run c).2 := by
  refine emit ?_
  have hmeasure := gauges_measure change c
  rwa [Metric.gauge?_eq_none h, Option.toList_none, List.append_nil] at hmeasure

theorem call (backend : Backend σ) (request : Call) (c : Context σ) :
    Still c ((Context.call backend request).run c).2 where
  gauges := gauges_call backend request c
  table resource := by cases resource <;> rfl
  plugins := rfl
  phase := rfl

theorem useTable (resource : Resource) (c : Context σ) : Still c ((Context.useTable resource).run c).2 where
  gauges := by cases resource <;> rfl
  table := table_made c resource
  plugins := by cases resource <;> rfl
  phase := by cases resource <;> rfl

theorem adopt (handle : FileHandle) (c : Context σ) : Still c ((Context.adopt handle).run c).2 where
  gauges := rfl
  table := table_adopt handle c
  plugins := rfl
  phase := rfl

theorem updateHandle (id : HandleId) (change : FileHandle → FileHandle) (c : Context σ) :
    Still c ((Context.updateHandle id change).run c).2 where
  gauges := rfl
  table resource := by cases resource <;> rfl
  plugins := rfl
  phase := rfl

/-- The stored files change by themselves. -/
theorem ofWorld (c : Context σ) (world : σ) : Still c { c with world } where
  gauges := rfl
  table resource := by cases resource <;> rfl
  plugins := rfl
  phase := rfl

/-- The machine changes. -/
theorem ofHost (c : Context σ) (host : Host σ) : Still c { c with host } where
  gauges := rfl
  table resource := by cases resource <;> rfl
  plugins := rfl
  phase := rfl

theorem scanning : Scanning (Still : Context σ → Context σ → Prop) where
  refl := refl
  trans := trans
  entry := log
  tearDown backend := call backend .teardown
  made c _ := { gauges := rfl, table := fun resource => by cases resource <;> rfl, plugins := rfl, phase := rfl }

end Still

/-! ## Discovery -/

/-- What a lookup of the plugins comes to, as far as the gauges are concerned. -/
inductive Settles (c : Context σ) : Except Error (List (Plugin σ)) × Context σ → Prop
  /-- Whether the plugins are known was decided before. -/
  | still {outcome : Except Error (List (Plugin σ))} {d : Context σ} (h : Still c d) : Settles c (outcome, d)
  /-- The plugins are known from now on, and their number is published. -/
  | filled {plugins : List (Plugin σ)} {d : Context σ} (hbefore : c.registry.phase = .uninitialized)
      (hafter : d.registry.phase = .ready) (htable : ∀ resource, d.table resource = c.table resource)
      (hgauges : d.gauges = c.gauges ++ [(.plugins, d.registry.size)]) : Settles c (.ok plugins, d)
  /-- The discovery fails. -/
  | gaveUp {error : Error} {d : Context σ} (hbefore : c.registry.phase = .uninitialized)
      (htable : ∀ resource, d.table resource = c.table resource)
      (hplugins : d.registry.plugins = c.registry.plugins) (hgauges : d.gauges = c.gauges) :
      Settles c (.error error, d)

theorem runDiscovery_settles {c : Context σ} (h : c.registry.phase = .uninitialized) :
    Settles c (Registry.runDiscovery.run.run c) := by
  have hload : Still c (Registry.loadModules.run.run c).2 := Still.scanning.loadModules c
  unfold Registry.runDiscovery
  rw [run_perform_bindE]
  rcases hmodules : Registry.loadModules.run.run c with ⟨outcome, d⟩
  rw [hmodules] at hload
  cases outcome with
  | ok modules =>
      -- The modules are listed before their number is published.
      set e := ((Registry.update (Registry.afterDiscovery modules)).run d).2 with he
      have htable (resource : Resource) : e.table resource = c.table resource := by
        rw [← hload.table resource]
        cases resource <;> rfl
      have hgauges : ((measure (.pluginsLoaded e.registry.size)).run e).2.gauges =
          c.gauges ++ [(.plugins, e.registry.size)] := by
        rw [gauges_measure, ← hload.gauges]
        rfl
      refine .filled h rfl (fun resource => ?_) ?_
      · rw [← htable resource]
        cases resource <;> rfl
      · exact (gauges_log _ _).trans hgauges
  | error error =>
      refine .gaveUp h (fun resource => ?_) hload.plugins ?_
      · rw [← hload.table resource]
        cases resource <;> rfl
      · exact (gauges_log (.discoveryFailed error) d).trans hload.gauges

theorem discover_settles (c : Context σ) : Settles c (Registry.discover.run.run c) := by
  unfold Registry.discover
  rw [run_get_bindE]
  dsimp only
  cases hphase : c.registry.phase with
  | uninitialized => exact runDiscovery_settles hphase
  | ready | tornDown | failed => exact .still (.refl c)

/-! ## Relations that work follows -/

/-- **Relations that do not mind still work**, nor a discovery. -/
structure Lenient (R : Context σ → Context σ → Prop) : Prop extends Path R where
  still : ∀ {c d}, Still c d → R c d
  discover : Keeps R Registry.discover

namespace Lenient

variable {R : Context σ → Context σ → Prop} (F : Lenient R)

include F

theorem finding : Finding R where
  toPath := F.toPath
  line entry c _ := F.still (.log entry c)
  failed operation c := F.still (.measure (.failed operation) rfl c)
  emulated operation c := F.still (.measure (.emulated operation) rfl c)
  sampled operation plugin c d h := by
    have hbefore : R c (c.dispatched operation plugin) :=
      F.still (.measure (.dispatched operation plugin) rfl c)
    exact F.trans (F.trans hbefore h) (F.still (.measure (.timed operation) rfl d))
  discover := F.discover

theorem routing : Routing R where
  toFinding := F.finding
  ask backend request c _ _ := F.still (.call backend request c)

theorem handling : Handling (fun _ _ => True) R where
  toFinding := F.finding
  use resource c := F.still (.useTable resource c)
  found _ _ _ _ _ := trivial
  stays _ _ _ _ _ := trivial
  handle operation id serve c _ hserve := by
    refine F.finding.dispatchHandleAt operation id fun plugin d _ _ _ => hserve plugin R ?_ _
    exact {
      toFlow := F.finding.toFlow
      talk := fun request _ c _ _ _ => F.still (.call plugin.backend request c)
      move := fun _ c => F.still (.updateHandle id _ c) }

theorem closeWithOwner (operation : Operation) (resource : Resource) (id : HandleId) :
    Keeps R (Context.closeWithOwner operation resource id : Engine σ Unit) := fun _ =>
  F.finding.closeWithOwnerAt operation resource id fun plugin _ _ _ _ _ _ =>
    F.still (.call plugin.backend _ _)

theorem storing (hstore : ∀ resource table, Respects R (Context.storeTable resource table)) : Storing R where
  toHandling := F.handling
  adopt handle c := F.still (.adopt handle c)
  storeTable := hstore
  closeWithOwner := F.closeWithOwner

end Lenient

/-! ## Gauges stay true -/

def Truth (c d : Context σ) : Prop := c.Truthful → d.Truthful

/-- The numbers that gauges are to show are the same. -/
theorem measured_congr {c d : Context σ} (htable : ∀ resource, d.table resource = c.table resource)
    (hplugins : d.registry.plugins = c.registry.plugins) (gauge : Gauge) : d.measured gauge = c.measured gauge := by
  cases gauge with
  | handles resource => exact congrArg DescriptorTable.live (htable resource)
  | plugins => exact congrArg List.length hplugins

theorem Truth.of_eq {c d : Context σ} (hgauges : d.gauges = c.gauges)
    (htable : ∀ resource, d.table resource = c.table resource)
    (hplugins : d.registry.plugins = c.registry.plugins) : Truth c d := by
  intro h gauge
  rw [shows, hgauges, measured_congr htable hplugins]
  exact h gauge

/-- One gauge is set to what it is to show. -/
theorem Truth.of_set {c d : Context σ} (gauge : Gauge) (hgauges : d.gauges = c.gauges ++ [(gauge, d.measured gauge)])
    (hothers : ∀ other, other ≠ gauge → d.measured other = c.measured other) : Truth c d := by
  intro h other
  by_cases hother : other = gauge
  · rw [hother]
    exact shows_of_set hgauges
  · rw [shows_of_set_ne hgauges hother, hothers other hother]
    exact h other

/-- The plugins change, and their number is published. -/
theorem Truth.of_published {c d : Context σ} (hgauges : d.gauges = c.gauges ++ [(.plugins, d.registry.size)])
    (htable : ∀ resource, d.table resource = c.table resource) : Truth c d := by
  refine .of_set .plugins hgauges fun other hother => ?_
  cases other with
  | handles resource => exact congrArg DescriptorTable.live (htable resource)
  | plugins => exact absurd rfl hother

theorem truth_path : Path (Truth : Context σ → Context σ → Prop) where
  refl _ h := h
  trans hcd hde h := hde (hcd h)

theorem truth_lenient : Lenient (Truth : Context σ → Context σ → Prop) where
  toPath := truth_path
  still h := .of_eq h.gauges h.table h.plugins
  discover c := by
    have hsettles := discover_settles c
    show Truth c (Registry.discover.run.run c).2
    generalize Registry.discover.run.run c = result at hsettles ⊢
    cases hsettles with
    | still h => exact .of_eq h.gauges h.table h.plugins
    | gaveUp _ htable hplugins hgauges => exact .of_eq hgauges htable hplugins
    | filled _ _ htable hgauges => exact .of_published hgauges htable

/-- A table's number of entries is published whenever it changes. -/
theorem truth_storeTable (resource : Resource) (table : DescriptorTable HandleId) :
    Respects Truth (storeTable resource table : Act σ Unit) := by
  intro c
  have hleft (other : Resource) : ((storeTable resource table).run c).2.table other =
      (c.withTable resource table).table other := by
    cases other <;> cases resource <;> rfl
  refine .of_set (.handles resource) ?_ fun other hother => ?_
  · have hlive : ((storeTable resource table).run c).2.measured (.handles resource) = table.live := by
      rw [measured, hleft, table_withTable]
    rw [hlive]
    show ((measure (.openHandles resource table.live)).run (c.withTable resource table)).2.gauges = _
    rw [gauges_measure]
    cases resource <;> rfl
  · cases other with
    | handles other =>
        have hne : other ≠ resource := fun heq => hother (congrArg Gauge.handles heq)
        rw [measured, hleft, table_withTable_ne c hne, measured]
    | plugins => cases resource <;> rfl

theorem truth_storing : Storing (Truth : Context σ → Context σ → Prop) := truth_lenient.storing truth_storeTable

theorem truth_log (entry : LogEntry) : Respects Truth (log entry : Act σ Unit) :=
  fun c => truth_lenient.still (.log entry c)

theorem truth_call (backend : Backend σ) (request : Call) : Respects Truth (call backend request) :=
  fun c => truth_lenient.still (.call backend request c)

/-- The registry is changed in something but its plugins. -/
theorem truth_update {change : Registry σ → Registry σ}
    (h : ∀ registry, (change registry).plugins = registry.plugins) : Respects Truth (Registry.update change) :=
  fun c => .of_eq rfl (fun resource => by cases resource <;> rfl) (h c.registry)

theorem truth_forgetFailure : Respects Truth (Registry.forgetFailure : Act σ Unit) := by
  refine truth_path.bind truth_path.get fun c => ?_
  cases c.registry.phase with
  | failed error => exact truth_path.bind (truth_log _) fun _ => truth_update fun _ => rfl
  | uninitialized | ready | tornDown => exact truth_path.pure _

theorem truth_rediscover : Keeps Truth (Registry.rediscover : Engine σ (List (Plugin σ))) :=
  truth_path.bindE truth_forgetFailure.perform fun _ => truth_lenient.discover

theorem truth_register (backend : Backend σ) : Respects Truth (Registry.register backend) := by
  refine truth_path.bind truth_path.get fun c => ?_
  cases c.registry.phase with
  | uninitialized | failed => exact truth_path.bind (truth_log _) fun _ => truth_update fun _ => rfl
  | tornDown => exact truth_path.bind (truth_log _) fun _ => truth_call backend .teardown
  | ready =>
      refine truth_path.bind (truth_log _) fun _ d => ?_
      exact .of_published (gauges_measure _ _) fun resource => by cases resource <;> rfl

theorem truth_tearDownPlugin (plugin : Plugin σ) : Respects Truth plugin.teardown := by
  refine truth_path.bind truth_path.get fun c => ?_
  split
  · exact truth_path.pure _
  · exact truth_path.bind (truth_update fun _ => rfl) fun _ => truth_path.bind (truth_log _) fun _ =>
      truth_path.bind (truth_call plugin.backend .teardown) fun _ => truth_path.pure _

/-- The number of plugins is published as soon as there is none; what is torn down after that stays off the list. -/
theorem truth_tearDownRegistry : Respects Truth (Registry.teardown : Act σ Unit) := by
  refine truth_path.bind truth_path.get fun c => ?_
  dsimp only
  split
  · exact truth_path.pure _
  · intro d
    let emptied : Context σ :=
      { d with registry := { d.registry.withPlugins [] with phase := .tornDown, pending := [] } }
    let logged : Context σ :=
      ((log (.registryTornDown (c.registry.plugins.length + c.registry.pending.length))).run emptied).2
    have hset : Truth d ((measure (.pluginsLoaded 0)).run logged).2 := by
      have hlogged : logged.gauges = d.gauges := gauges_log _ emptied
      refine .of_published ?_ fun resource => by cases resource <;> rfl
      rw [gauges_measure, hlogged]
      rfl
    have hplugins : Respects Truth (c.registry.plugins.forM fun plugin => discard plugin.teardown : Act σ Unit) :=
      truth_path.forM fun plugin => truth_path.discard (truth_tearDownPlugin plugin)
    have hpending : Respects Truth (c.registry.pending.forM fun backend => call backend .teardown : Act σ Unit) :=
      truth_path.forM fun backend => truth_call backend .teardown
    exact truth_path.trans hset (truth_path.bind hplugins (fun _ => hpending) _)

theorem truth_teardown : Respects Truth (Context.teardown : Act σ Unit) := by
  refine truth_path.bind (truth_storing.clearMadeTable .file) fun files => ?_
  refine truth_path.bind (truth_storing.clearMadeTable .directory) fun directories => ?_
  split
  · exact truth_path.bind (truth_log _) fun _ => truth_tearDownRegistry
  · exact truth_tearDownRegistry

/-! ## Samples -/

/-- As many durations are sampled as operations are handed to backends, of every operation. -/
def Sampled (c d : Context σ) : Prop :=
  ∃ made, d.metrics = c.metrics ++ made ∧
    ∀ operation, made.count (.timed operation) = made.countP (Metric.dispatches operation)

namespace Sampled

variable {c d e : Context σ}

theorem of_eq (h : d.metrics = c.metrics) : Sampled c d :=
  ⟨[], by rw [h, List.append_nil], fun _ => rfl⟩

theorem trans (h : Sampled c d) (h' : Sampled d e) : Sampled c e := by
  obtain ⟨made, hmade, hcount⟩ := h
  obtain ⟨more, hmore, hcount'⟩ := h'
  refine ⟨made ++ more, ?_, fun operation => ?_⟩
  · rw [hmore, hmade, List.append_assoc]
  · rw [List.count_append, List.countP_append, hcount, hcount']

/-- A change of a metric that is neither a dispatch nor a sample. -/
theorem measure {change : Metric} (htimed : ∀ operation, change ≠ .timed operation)
    (hdispatches : ∀ operation, change.dispatches operation = false) (c : Context σ) :
    Sampled c ((Context.measure change).run c).2 := by
  refine ⟨[change], metrics_measure change c, fun operation => ?_⟩
  simp [htimed operation, hdispatches operation]

theorem call (backend : Backend σ) (request : Call) (c : Context σ) :
    Sampled c ((Context.call backend request).run c).2 := .of_eq (metrics_call backend request c)

/-- Between being handed over and being sampled, an operation is counted once for each. -/
theorem bracket (operation : Operation) (plugin : String) (h : Sampled (c.dispatched operation plugin) d) :
    Sampled c ((Context.measure (.timed operation)).run d).2 := by
  obtain ⟨made, hmade, hcount⟩ := h
  refine ⟨.dispatched operation plugin :: (made ++ [.timed operation]), ?_, fun other => ?_⟩
  · rw [metrics_measure, hmade, dispatched, metrics_measure]
    simp
  · -- Both numbers of the operation itself grow by one, and those of the others stay.
    have hmiddle := hcount other
    by_cases hother : operation = other
    · simp [Metric.dispatches, hother, hmiddle]
    · simp [Metric.dispatches, hother, hmiddle]

end Sampled

theorem sampled_aloof : Aloof (Sampled : Context σ → Context σ → Prop) where
  refl _ := .of_eq rfl
  trans := Sampled.trans
  line entry c _ := .of_eq (metrics_log entry c)
  failed _ := .measure nofun fun _ => rfl
  emulated _ := .measure nofun fun _ => rfl
  sampled operation plugin _ _ := .bracket operation plugin
  entry entry c := .of_eq (metrics_log entry c)
  gauge change h := by
    cases change with
    | openHandles | pluginsLoaded => exact .measure nofun fun _ => rfl
    | _ => cases h
  tearDown backend := .call backend .teardown
  registry _ _ := .of_eq rfl

theorem sampled_frame : Frame (Sampled : Context σ → Context σ → Prop) where
  toFlow := sampled_aloof.toFlow
  call backend request c _ := .call backend request c
  handles _ _ := .of_eq rfl
  table c resource table := .of_eq (by cases resource <;> rfl)
  publish _ _ := .measure nofun fun _ => rfl
  discover := sampled_aloof.discover

/-! ## Work that sets no gauge -/

/-- No gauge is set, unless the plugins are discovered. -/
def Quiet (c d : Context σ) : Prop :=
  d.gauges = c.gauges ∨ c.registry.phase = .uninitialized ∧ d.registry.phase = .ready

/-- No gauge is set, unless the plugins are discovered, and they are so once at most. -/
structure Unset (c d : Context σ) : Prop where
  phase : c.registry.phase = .uninitialized ∨ d.registry.phase = c.registry.phase
  quiet : Quiet c d

theorem unset_path : Path (Unset : Context σ → Context σ → Prop) where
  refl _ := ⟨.inr rfl, .inl rfl⟩
  trans := by
    intro c d e h h'
    -- The phase moves on once at most, and only a discovery sets a gauge.
    have hphase := h.phase
    have hphase' := h'.phase
    constructor
    · rcases hphase with hc | hd
      · exact .inl hc
      · rw [hd] at hphase'
        exact hphase'
    · rcases h.quiet with hgauges | ⟨hc, hd⟩
      · rcases h'.quiet with hgauges' | ⟨hd, he⟩
        · exact .inl (hgauges'.trans hgauges)
        · rcases hphase with hc | hsame
          · exact .inr ⟨hc, he⟩
          · exact .inr ⟨hsame ▸ hd, he⟩
      · rw [hd] at hphase'
        rcases hphase' with hne | he
        · cases hne
        · exact .inr ⟨hc, he⟩

theorem unset_lenient : Lenient (Unset : Context σ → Context σ → Prop) where
  toPath := unset_path
  still h := ⟨.inr h.phase, .inl h.gauges⟩
  discover c := by
    have hsettles := discover_settles c
    show Unset c (Registry.discover.run.run c).2
    generalize Registry.discover.run.run c = result at hsettles ⊢
    cases hsettles with
    | still h => exact ⟨.inr h.phase, .inl h.gauges⟩
    | filled hbefore hafter => exact ⟨.inl hbefore, .inr ⟨hbefore, hafter⟩⟩
    | gaveUp hbefore _ _ hgauges => exact ⟨.inl hbefore, .inl hgauges⟩

/-! ## Failures -/

/-- Where work fails, it moved a context along a relation. -/
def FailsAlong (R : Context σ → Context σ → Prop) (work : ExceptT ε (Act σ) α) : Prop :=
  ∀ c error d, work.run.run c = (.error error, d) → R c d

section FailsAlong

variable {β : Type} {R : Context σ → Context σ → Prop}

theorem Keeps.failsAlong {work : ExceptT ε (Act σ) α} (h : Keeps R work) : FailsAlong R work := by
  intro c error d hrun
  have hmoved := h c
  rwa [hrun] at hmoved

theorem FailsAlong.mono {S : Context σ → Context σ → Prop} {work : ExceptT ε (Act σ) α} (h : FailsAlong R work)
    (hle : ∀ c d, R c d → S c d) : FailsAlong S work := fun c error d hrun => hle c d (h c error d hrun)

/-- Work that cannot fail. -/
theorem failsAlong_perform (work : Act σ α) : FailsAlong R (perform work : ExceptT ε (Act σ) α) := by
  intro c error d hrun
  cases congrArg Prod.fst hrun

theorem failsAlong_pure (a : α) : FailsAlong R (pure a : ExceptT ε (Act σ) α) := by
  intro c error d hrun
  cases congrArg Prod.fst hrun

/-- Work whose second part cannot fail. -/
theorem FailsAlong.bind {x : ExceptT ε (Act σ) α} {f : α → ExceptT ε (Act σ) β} (hx : FailsAlong R x)
    (hf : ∀ a, FailsAlong (fun _ _ => False) (f a)) : FailsAlong R (x >>= f) := by
  intro c error d hrun
  rw [run_bindE] at hrun
  rcases hfirst : x.run.run c with ⟨outcome, e⟩
  rw [hfirst] at hrun
  cases outcome with
  | ok a => exact (hf a e error d hrun).elim
  | error reason =>
      cases hrun
      exact hx c _ _ hfirst

theorem FailsAlong.map {work : ExceptT ε (Act σ) α} (h : FailsAlong R work) (f : α → β) :
    FailsAlong R (f <$> work) := by
  rw [← bind_pure_comp]
  exact h.bind fun a => failsAlong_pure (f a)

/-- Work that fails in its second part moved along in the first. -/
theorem Path.failsAlong_bind (F : Path R) {x : ExceptT ε (Act σ) α} {f : α → ExceptT ε (Act σ) β}
    (hx : Keeps R x) (hf : ∀ a, FailsAlong R (f a)) : FailsAlong R (x >>= f) := by
  intro c error d hrun
  have hmoved := hx c
  rw [run_bindE] at hrun
  rcases hfirst : x.run.run c with ⟨outcome, e⟩
  rw [hfirst] at hrun hmoved
  cases outcome with
  | ok a => exact F.trans hmoved (hf a e error d hrun)
  | error reason =>
      cases hrun
      exact hmoved

theorem Flow.failsAlong_counted (F : Flow R) (operation : Operation) {work : Engine σ α}
    (h : FailsAlong R work) : FailsAlong R (Context.counted operation work) := by
  intro c error d hrun
  rw [run_counted] at hrun
  rcases hwork : work.run.run c with ⟨outcome, e⟩
  rw [hwork] at hrun
  cases outcome with
  | ok a => cases hrun
  | error reason =>
      cases hrun
      exact F.trans (h c error e hwork) (F.recordFailure operation error e)

end FailsAlong

namespace Lenient

variable {R : Context σ → Context σ → Prop} (F : Lenient R)

include F

/-- A handle that is not stored changes no table. -/
theorem failsAlong_insertHandle (resource : Resource) (id : HandleId) :
    FailsAlong R (Context.insertHandle resource id : Engine σ DescriptorKey) := by
  refine F.failsAlong_bind (F.handling.useTable resource).perform fun table => ?_
  refine F.failsAlong_bind (F.fromOutcome _) fun inserted => ?_
  exact (failsAlong_perform _).map _

theorem failsAlong_removeHandle (resource : Resource) (key : DescriptorKey) :
    FailsAlong R (Context.removeHandle resource key : Engine σ HandleId) := by
  refine F.failsAlong_bind (F.handling.useTable resource).perform fun table => ?_
  refine F.failsAlong_bind (F.fromOutcome _) fun removed => ?_
  exact (failsAlong_perform _).map _

theorem failsAlong_closeKey (operation : Operation) (resource : Resource) (key : DescriptorKey) :
    FailsAlong R (Context.closeKey operation resource key : Engine σ Unit) := by
  refine F.failsAlong_bind (F.handling.lookupHandle operation resource key) fun id => ?_
  refine F.failsAlong_bind (F.closeWithOwner operation resource id) fun _ => ?_
  exact (F.finding.failsAlong_counted operation (F.failsAlong_removeHandle resource key)).map _

theorem failsAlong_storeAdopted (operation : Operation) (resource : Resource) (id : HandleId) :
    FailsAlong R (Context.storeAdopted operation resource id : Engine σ DescriptorKey) := by
  intro c error d hrun
  rw [run_storeAdopted] at hrun
  rcases hinsert : (insertHandle resource id).run.run c with ⟨stored, e⟩
  rw [hinsert] at hrun
  cases stored with
  | ok key => cases hrun
  | error reason =>
      cases hrun
      -- The insertion has failed, and the closing that follows it stores nothing either.
      have hinserted : R c e := F.failsAlong_insertHandle resource id c error e hinsert
      have hclosed : Respects R (closeRejected operation resource id error : Act σ Unit) := by
        refine F.bind (F.finding.log rfl) fun _ => F.bind (F.closeWithOwner operation resource id) fun closed => ?_
        cases closed with
        | ok _ => exact F.pure _
        | error error => exact F.finding.log rfl
      exact F.trans hinserted (hclosed e)

end Lenient

end Context

end StorageDispatch
