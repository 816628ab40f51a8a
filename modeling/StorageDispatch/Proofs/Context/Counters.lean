import StorageDispatch.Proofs.Context.Closing
import StorageDispatch.Proofs.Context.Surface

set_option autoImplicit false

/-! # What an operation is counted as

Every operation with a single result is made of two parts. First it is found out which plugin has to do the
work (`Request.selection?`): nothing is counted meanwhile, and backends are asked questions at most. Then the
plugin is called, and the call is counted as dispatched, sampled, and perhaps counted as emulated. Wherever
that fails, in either part, the failure is counted once, and under the name of the operation.

`Bills P extra c d` says what counts between two contexts: the counters `extra` come to the record, and all
calls that are made meet `P`. Bills add up (`Bills.trans`), and from those of the two parts follows the account
of an operation (`Request.serve_accounts`).
-/

namespace StorageDispatch

variable {σ α β γ : Type}

/-- Whether a call is an action: neither a question about a URL nor a teardown. -/
def Call.isAction : Call → Bool
  | .checkUrl .. | .teardown => false
  | _ => true

namespace Context

/-! ## Counters -/

def metrics (c : Context σ) : List Metric := c.events.filterMap Event.metric?

def counters (c : Context σ) : List Metric := c.metrics.filter fun change => !change.isGauge

theorem metrics_measure (change : Metric) (c : Context σ) :
    ((measure change).run c).2.metrics = c.metrics ++ [change] := List.filterMap_append

theorem metrics_log (entry : LogEntry) (c : Context σ) : ((log entry).run c).2.metrics = c.metrics := by
  show (c.events ++ [Event.log entry]).filterMap Event.metric? = _
  simp [metrics, Event.metric?]

theorem metrics_call (backend : Backend σ) (request : Call) (c : Context σ) :
    ((call backend request).run c).2.metrics = c.metrics := by
  show (c.events ++ [Event.call backend.id backend.name request]).filterMap Event.metric? = _
  simp [metrics, Event.metric?]

theorem counters_measure {change : Metric} (h : change.isGauge = false) (c : Context σ) :
    ((measure change).run c).2.counters = c.counters ++ [change] := by
  simp [counters, metrics_measure, h]

theorem counters_gauge {change : Metric} (h : change.isGauge = true) (c : Context σ) :
    ((measure change).run c).2.counters = c.counters := by
  simp [counters, metrics_measure, h]

theorem counters_log (entry : LogEntry) (c : Context σ) : ((log entry).run c).2.counters = c.counters := by
  rw [counters, metrics_log, counters]

theorem counters_call (backend : Backend σ) (request : Call) (c : Context σ) :
    ((call backend request).run c).2.counters = c.counters := by
  rw [counters, metrics_call, counters]

theorem counters_withTable (c : Context σ) (resource : Resource) (table : DescriptorTable HandleId) :
    (c.withTable resource table).counters = c.counters := by
  cases resource <;> rfl

theorem calls_withTable (c : Context σ) (resource : Resource) (table : DescriptorTable HandleId) :
    (c.withTable resource table).calls = c.calls := by
  cases resource <;> rfl

/-! ## Bills -/

/-- Between two contexts the counters `extra` came to the record, and the calls that were made are of a kind. -/
structure Bills (P : InstanceId × String × Call → Prop) (extra : List Metric) (c d : Context σ) : Prop where
  counters : d.counters = c.counters ++ extra
  calls : Adds P c d

namespace Bills

variable {P Q : InstanceId × String × Call → Prop} {extra more : List Metric} {c d e : Context σ}

theorem of_eq (hcounters : d.counters = c.counters) (hcalls : d.calls = c.calls) : Bills P [] c d :=
  ⟨by rw [hcounters, List.append_nil], .of_eq hcalls⟩

/-- Bills add up. -/
theorem trans (h : Bills P extra c d) (h' : Bills P more d e) : Bills P (extra ++ more) c e where
  counters := by rw [h'.counters, h.counters, List.append_assoc]
  calls := h.calls.trans h'.calls

theorem mono (h : Bills P extra c d) (hPQ : ∀ entry, P entry → Q entry) : Bills Q extra c d :=
  ⟨h.counters, h.calls.mono hPQ⟩

theorem measure (change : Metric) (h : change.isGauge = false) (c : Context σ) :
    Bills P [change] c ((Context.measure change).run c).2 := ⟨counters_measure h c, .of_eq (calls_emit rfl c)⟩

theorem gauge {change : Metric} (h : change.isGauge = true) (c : Context σ) :
    Bills P [] c ((Context.measure change).run c).2 := .of_eq (counters_gauge h c) (calls_emit rfl c)

theorem log (entry : LogEntry) (c : Context σ) : Bills P [] c ((Context.log entry).run c).2 :=
  .of_eq (counters_log entry c) (calls_emit rfl c)

theorem call {backend : Backend σ} {request : Call} (h : P (backend.id, backend.name, request))
    (c : Context σ) : Bills P [] c ((Context.call backend request).run c).2 where
  counters := by rw [counters_call, List.append_nil]
  calls := .of_call h c

theorem useTable (resource : Resource) (c : Context σ) :
    Bills P [] c ((Context.useTable resource).run c).2 :=
  .of_eq (counters_withTable c resource _) (calls_withTable c resource _)

/-- Work that nobody is billed for. -/
theorem path : Path (Bills P [] : Context σ → Context σ → Prop) where
  refl _ := .of_eq rfl rfl
  trans h h' := h.trans h'

theorem findHandle (resource : Resource) (key : DescriptorKey) :
    Keeps (Bills P []) (Context.findHandle resource key : Engine σ HandleId) :=
  path.bindE (Respects.perform (useTable resource)) fun _ => path.fromOutcome _

theorem removeHandle (resource : Resource) (key : DescriptorKey) :
    Keeps (Bills P []) (Context.removeHandle resource key : Engine σ HandleId) := by
  refine path.bindE (Respects.perform (useTable resource)) fun _ => ?_
  refine path.bindE (path.fromOutcome _) fun removed => ?_
  refine path.bindE (Respects.perform (path.bind (fun c => ?_) fun _ => gauge rfl)) fun _ => path.pureE _
  exact .of_eq (counters_withTable c resource _) (calls_withTable c resource _)

/-- Whatever the registry does by itself, nobody is billed for it. -/
theorem heedless (h : ∀ id name, P (id, name, .teardown)) :
    Heedless (Bills P [] : Context σ → Context σ → Prop) where
  toPath := path
  entry := log
  gauge _ h := gauge h
  tearDown _ := call (h _ _)
  registry _ _ := .of_eq rfl rfl

end Bills

/-! ## Selecting a plugin -/

def IsQuestion (entry : InstanceId × String × Call) : Prop := entry.2.2.isAction = false

theorem questions_heedless : Heedless (Bills IsQuestion [] : Context σ → Context σ → Prop) :=
  Bills.heedless fun _ _ => rfl

theorem questions_seeking : Seeking (Bills IsQuestion [] : Context σ → Context σ → Prop) where
  toPath := Bills.path
  discover := questions_heedless.discover
  question _ _ _ := .call rfl
  matched _ _ _ := .log _

def selectUrl (operation : Operation) (url : String) : Engine σ (Plugin σ) := do
  perform (log (.urlSpan operation url))
  resolveUrl operation url

/-- The plugin for an operation on two URLs: the one for the first, if the one for the second has its name. -/
def selectPair (operation : Operation) (first second : String) : Engine σ (Plugin σ) := do
  perform (log (.urlSpan operation first))
  let source ← resolveUrl operation first
  let destination ← resolveUrl operation second
  if source.name = destination.name then
    return source
  else
    throw (.crossBackend operation.name source.name destination.name)

/-- The handle under a key, and the plugin that opened it. -/
def selectOwner (operation : Operation) (resource : Resource) (key : DescriptorKey) :
    Engine σ (HandleId × Plugin σ) := do
  let id ← findHandle resource key
  let owner := (← perform (openHandle id)).handle.owner
  perform (log (.handleSpan operation owner))
  return (id, ← resolveOwner owner)

theorem questions_selectUrl (operation : Operation) (url : String) :
    Keeps (Bills IsQuestion []) (selectUrl operation url : Engine σ (Plugin σ)) :=
  Bills.path.bindE (Respects.perform (.log _)) fun _ => questions_seeking.resolveUrl operation url

theorem questions_selectPair (operation : Operation) (first second : String) :
    Keeps (Bills IsQuestion []) (selectPair operation first second : Engine σ (Plugin σ)) := by
  refine Bills.path.bindE (Respects.perform (.log _)) fun _ => ?_
  refine Bills.path.bindE (questions_seeking.resolveUrl operation first) fun source => ?_
  refine Bills.path.bindE (questions_seeking.resolveUrl operation second) fun destination => ?_
  split
  · exact Bills.path.pureE _
  · exact Bills.path.throwE _

theorem questions_selectOwner (operation : Operation) (resource : Resource) (key : DescriptorKey) :
    Keeps (Bills IsQuestion []) (selectOwner operation resource key : Engine σ (HandleId × Plugin σ)) := by
  refine Bills.path.bindE (Bills.findHandle resource key) fun id => ?_
  refine Bills.path.bindE (Bills.path.openHandle id).perform fun opened => ?_
  refine Bills.path.bindE (Respects.perform (.log _)) fun _ => ?_
  refine Bills.path.bindE (Bills.path.resolveOwner questions_seeking.discover _) fun plugin => ?_
  exact Bills.path.pureE _

/-! ## The plugin at work -/

/-- Calls of actions on a plugin. -/
def IsWorkOf (plugin : Plugin σ) (entry : InstanceId × String × Call) : Prop :=
  entry.1 = plugin.id ∧ entry.2.1 = plugin.name ∧ entry.2.2.isAction = true

/-- A plugin was at work: it was called, and nobody else was. -/
structure Works (plugin : Plugin σ) (extra : List Metric) (c d : Context σ) : Prop
    extends Bills (IsWorkOf plugin) extra c d where
  called : d.calls ≠ c.calls

theorem Adds.length_le {P : InstanceId × String × Call → Prop} {c d : Context σ} (h : Adds P c d) :
    c.calls.length ≤ d.calls.length := by
  obtain ⟨made, hmade, -⟩ := h
  rw [hmade, List.length_append]
  exact Nat.le_add_right _ _

section Works

variable {plugin : Plugin σ} {extra before after : List Metric} {c d e : Context σ} {operation : Operation}

/-- What comes before the work and after it goes on the same bill. -/
theorem Works.within (hbefore : Bills (IsWorkOf plugin) before c d) (h : Works plugin extra d e)
    {f : Context σ} (hafter : Bills (IsWorkOf plugin) after e f) :
    Works plugin (before ++ extra ++ after) c f where
  toBills := (hbefore.trans h.toBills).trans hafter
  called hsame := by
    obtain ⟨made, hmade, -⟩ := h.calls
    have hle := hbefore.calls.length_le
    have hle' := hafter.calls.length_le
    have hnil : made = [] := by
      rw [hsame] at hle'
      rw [hmade, List.length_append] at hle'
      exact List.length_eq_zero_iff.mp (by omega)
    exact h.called (by rw [hmade, hnil, List.append_nil])

theorem Works.of_call {request : Call} (haction : request.isAction = true)
    (hrest : Bills (IsWorkOf plugin) extra ((call plugin.backend request).run c).2 d) :
    Works plugin extra c d where
  toBills := (Bills.call ⟨rfl, rfl, haction⟩ c).trans hrest
  called hsame := by
    have hle := hrest.calls.length_le
    rw [hsame, calls_call, List.length_append, List.length_singleton] at hle
    omega

/-- A plugin is called, and nobody else is. -/
theorem works_call {request : Call} {f : request.Answer → Engine σ α} (haction : request.isAction = true)
    (hf : ∀ answer, Keeps (Bills (IsWorkOf plugin) []) (f answer)) (c : Context σ) :
    Works plugin [] c ((perform (call plugin.backend request) >>= f).run.run c).2 := by
  rw [run_perform_bindE]
  exact .of_call haction (hf _ _)

/-- Moving the position of a handle is not billed. -/
theorem bills_update (id : HandleId) (change : FileHandle → FileHandle) :
    Respects (Bills (IsWorkOf plugin) []) (updateHandle id change : Act σ Unit) := fun _ => .of_eq rfl rfl

/-- An emulated transfer is counted as such, and works with the one plugin. -/
theorem bills_emulate (plugin : Plugin σ) (operation : Operation) (id : HandleId) (offset size : Nat)
    {transfer : OpenHandle → Act σ (Reply α)}
    (htransfer : ∀ opened, Respects (Bills (IsWorkOf plugin) []) (transfer opened)) (count : α → Nat)
    (c : Context σ) :
    Bills (IsWorkOf plugin) [.emulated operation] c
      ((emulate operation plugin id offset size transfer count).run.run c).2 := by
  unfold emulate
  rw [run_perform_bindE, run_perform_bindE, run_perform_bindE]
  have hlog := Bills.log (P := IsWorkOf plugin)
    (.emulatingTransfer operation (c.shown id).handle.owner offset size) c
  have hemulated := hlog.trans (.measure (.emulated operation) rfl _)
  suffices hrest : Keeps (Bills (IsWorkOf plugin) []) _ from hemulated.trans (hrest _)
  refine Bills.path.bindE (Respects.perform (.call ⟨rfl, rfl, rfl⟩)) fun answer => ?_
  refine Bills.path.bindE (Bills.path.fromReply _ _) fun landed => ?_
  split
  · refine Bills.path.bindE (htransfer _).perform fun reply => ?_
    refine Bills.path.bindE (Bills.path.fromReply _ _) fun a => ?_
    exact Bills.path.bindE (bills_update _ _).perform fun _ => Bills.path.pureE _
  · exact Bills.path.throwE _

end Works

/-! ## Accounts -/

/-- What an operation is counted as if a plugin serves it. -/
def served (operation : Operation) (plugin : String) (emulated : Bool) : List Metric :=
  .dispatched operation plugin :: (if emulated then [.emulated operation] else []) ++ [.timed operation]

/-- **How an operation is accounted for**, from the selection of its plugin on. The calls that are made are
actions, and made on the plugin that was selected. -/
inductive Accounts (operation : Operation) (emulates : Plugin σ → Context σ → Bool) :
    Except Error (Plugin σ) × Context σ → Except Error α × Context σ → Prop
  /-- No plugin was selected: the failure is counted, and nobody is called. -/
  | refused {error : Error} {d e : Context σ} (h : Bills (fun _ => False) [.failed operation] d e) :
      Accounts operation emulates (.error error, d) (.error error, e)
  | succeeded {plugin : Plugin σ} {a : α} {d e : Context σ}
      (h : Works plugin (served operation plugin.name (emulates plugin d)) d e) :
      Accounts operation emulates (.ok plugin, d) (.ok a, e)
  | failed {plugin : Plugin σ} {error : Error} {d e : Context σ}
      (h : Works plugin (served operation plugin.name (emulates plugin d) ++ [.failed operation]) d e) :
      Accounts operation emulates (.ok plugin, d) (.error error, e)

theorem bills_recordFailure {P : InstanceId × String × Call → Prop} (operation : Operation) (error : Error)
    (c : Context σ) : Bills P [.failed operation] c ((recordFailure operation error).run c).2 :=
  (Bills.measure _ rfl c).trans (.log _ _)

section Accounts

variable {operation : Operation} {emulates : Plugin σ → Context σ → Bool}
  {selected : Except Error (Plugin σ) × Context σ} {c : Context σ}

theorem Accounts.map {x : Engine σ α} (f : α → β) (h : Accounts operation emulates selected (x.run.run c)) :
    Accounts operation emulates selected ((f <$> x).run.run c) := by
  rw [run_map]
  generalize x.run.run c = result at h ⊢
  cases h with
  | refused h => exact .refused h
  | succeeded h => exact .succeeded h
  | failed h => exact .failed h

/-- Work on the tables at the end of an operation is no longer billed. -/
theorem Accounts.andThen {x : Engine σ α} {f : α → Engine σ β}
    (h : Accounts operation emulates selected (x.run.run c))
    (hf : ∀ a, Keeps (Bills (fun _ => False) []) (f a)) :
    Accounts operation emulates selected ((x >>= fun a => counted operation (f a)).run.run c) := by
  rw [run_bindE]
  generalize x.run.run c = result at h ⊢
  cases h with
  | refused h => exact .refused h
  | failed h => exact .failed h
  | @succeeded plugin a d e h =>
      dsimp only
      rw [run_counted]
      have hrest := (hf a e).mono (Q := IsWorkOf plugin) (fun _ => False.elim)
      generalize (f a).run.run e = rest at hrest ⊢
      rcases rest with ⟨outcome, f⟩
      cases outcome with
      | ok b =>
          have hall := Works.within (.of_eq rfl rfl) h hrest
          rw [List.append_nil] at hall
          exact .succeeded hall
      | error error =>
          exact .failed (Works.within (.of_eq rfl rfl) h (hrest.trans (bills_recordFailure operation error f)))

/-- **The account of work that is counted**: a plugin is selected, and works while it is timed. -/
theorem accounts_counted (select : Engine σ β) (pick : β → Plugin σ) (work : β → Engine σ α)
    (hwork : ∀ b d, select.run.run c = (.ok b, d) →
      Works (pick b) (if emulates (pick b) d then [.emulated operation] else [])
        (d.dispatched operation (pick b).name)
        ((work b).run.run (d.dispatched operation (pick b).name)).2) :
    Accounts operation emulates ((pick <$> select).run.run c)
      ((counted operation (select >>= fun b => timedEngine operation (pick b).name (work b))).run.run c) := by
  rw [run_map, run_counted, run_bindE]
  rcases hselect : select.run.run c with ⟨outcome, d⟩
  cases outcome with
  | error error => exact .refused (bills_recordFailure operation error d)
  | ok b =>
      have hworks := Works.within (.measure _ rfl d) (hwork b d hselect) (.measure (.timed operation) rfl _)
      have hrun : (timedEngine operation (pick b).name (work b)).run.run d =
          (((work b).run.run (d.dispatched operation (pick b).name)).1,
            ((measure (.timed operation)).run
              ((work b).run.run (d.dispatched operation (pick b).name)).2).2) := rfl
      dsimp only
      rw [hrun]
      generalize (work b).run.run (d.dispatched operation (pick b).name) = result at hworks ⊢
      rcases result with ⟨outcome, e⟩
      cases outcome with
      | ok a => exact .succeeded hworks
      | error error => exact .failed (Works.within (.of_eq rfl rfl) hworks (bills_recordFailure _ error _))

end Accounts

end Context

end StorageDispatch
