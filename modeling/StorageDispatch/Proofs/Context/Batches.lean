import StorageDispatch.Proofs.Context.Counters
import StorageDispatch.Proofs.Context.Lookup

set_option autoImplicit false

/-! # Operations on lists of URLs

A list is served by the plugin of its first URL, and no plugin is asked about another one. Its answer is spread
over the list (`Filled`): entry by entry if it has the right number of them, and otherwise as one error for every
URL. Where a plugin cannot remove a list of files it removes them one by one (`unlinking`).

`Costs` says of one run of such work what it returns, what it calls and what it counts, and is composed along
the work.

**The result** is `ListOperation.serve_batched`: the five operations on lists go that way (`Batched`), in every
context and for every list, and return one outcome for every URL.
-/

namespace StorageDispatch

variable {σ : Type}

namespace Context

def errorCount {α : Type} (outcomes : List (Except Error α)) : Nat := outcomes.countP fun outcome => !outcome.isOk

theorem errorCount_cons {α : Type} (outcome : Except Error α) (outcomes : List (Except Error α)) :
    errorCount (outcome :: outcomes) = errorCount [outcome] + errorCount outcomes := by
  unfold errorCount
  rw [← List.countP_append, List.singleton_append]

/-! ## What work costs -/

section Work

variable {α β : Type} {work : Act σ α} {c d e : Context σ} {a : α} {made more : List (InstanceId × String × Call)}
  {counted extra : List Metric}

/-- **One run of work that cannot fail**: what it returns, the calls that it makes, what it counts and samples,
and the context that it leaves but for the record of events. -/
def Costs (work : Act σ α) (c : Context σ) (a : α) (made : List (InstanceId × String × Call))
    (counted : List Metric) (d : Context σ) : Prop :=
  ∃ events : List Event, events.filterMap Event.call? = made ∧
    ((events.filterMap Event.metric?).filter fun change => !change.isGauge) = counted ∧
      work.run c = (a, d.recording (c.events ++ events))

theorem counters_recording_append (c d : Context σ) (events : List Event) :
    (d.recording (c.events ++ events)).counters =
      c.counters ++ (events.filterMap Event.metric?).filter fun change => !change.isGauge := by
  show ((c.events ++ events).filterMap Event.metric?).filter _ = _
  rw [List.filterMap_append, List.filter_append]
  rfl

/-- What is counted is told by the counters. -/
theorem Does.costs {ε : Type} {work : ExceptT ε (Act σ) α} {result : Except ε α} (h : Does work c result made d)
    (hcounted : (work.run.run c).2.counters = c.counters ++ counted) : Costs work.run c result made counted d := by
  obtain ⟨events, hmade, hrun⟩ := h
  rw [hrun, counters_recording_append] at hcounted
  exact ⟨events, hmade, List.append_cancel_left hcounted, hrun⟩

namespace Costs

theorem does {ε : Type} {work : ExceptT ε (Act σ) α} {result : Except ε α}
    (h : Costs work.run c result made counted d) : Does work c result made d := by
  obtain ⟨events, hmade, -, hrun⟩ := h
  exact ⟨events, hmade, hrun⟩

theorem counters_eq (h : Costs work c a made counted d) : (work.run c).2.counters = c.counters ++ counted := by
  obtain ⟨events, -, rfl, hrun⟩ := h
  rw [hrun]
  exact counters_recording_append c d events

theorem calls_eq (h : Costs work c a made counted d) : (work.run c).2.calls = c.calls ++ made := by
  obtain ⟨events, rfl, -, hrun⟩ := h
  rw [hrun]
  exact List.filterMap_append

theorem result_eq (h : Costs work c a made counted d) : (work.run c).1 = a := by
  obtain ⟨events, -, -, hrun⟩ := h
  rw [hrun]

theorem world_eq (h : Costs work c a made counted d) : (work.run c).2.world = d.world := by
  obtain ⟨events, -, -, hrun⟩ := h
  rw [hrun]
  rfl

theorem pure (a : α) (c : Context σ) : Costs (Pure.pure a : Act σ α) c a [] [] c :=
  ⟨[], rfl, rfl, by rw [List.append_nil]; rfl⟩

theorem log (entry : LogEntry) (c : Context σ) : Costs (Context.log entry : Act σ Unit) c () [] [] c :=
  ⟨[.log entry], rfl, rfl, rfl⟩

/-- A counter or a sample is what it costs. -/
theorem measure {change : Metric} (h : change.isGauge = false) (c : Context σ) :
    Costs (Context.measure change : Act σ Unit) c () [] [change] c :=
  ⟨[.metric change], rfl, List.filter_cons_of_pos (by rw [h]; rfl), rfl⟩

theorem call (backend : Backend σ) (request : Call) (c : Context σ) :
    Costs (Context.call backend request) c (backend.respond request c.world).1
      [(backend.id, backend.name, request)] [] (c.inWorld (backend.respond request c.world).2) :=
  ⟨[.call backend.id backend.name request], rfl, rfl, rfl⟩

/-- A call whose answer is known. -/
theorem answered {backend : Backend σ} {request : Call} {answer : request.Answer}
    (h : (backend.respond request c.world).1 = answer) :
    Costs (Context.call backend request) c answer [(backend.id, backend.name, request)] []
      (c.inWorld (backend.respond request c.world).2) := by
  rw [← h]
  exact call backend request c

/-- A call of which also the world is known that it leaves. -/
theorem called {backend : Backend σ} {request : Call} {answer : request.Answer} {world : σ}
    (h : backend.respond request c.world = (answer, world)) :
    Costs (Context.call backend request) c answer [(backend.id, backend.name, request)] [] (c.inWorld world) := by
  have hcall := call backend request c
  rw [h] at hcall
  exact hcall

/-- A sequence goes on with one certain record of events, and its costs add up. -/
theorem goOn (h : Costs work c a made counted d) :
    ∃ events : List Event, ∀ {β : Type} {f : α → Act σ β} {b : β} {more : List (InstanceId × String × Call)}
      {extra : List Metric} {e : Context σ},
      Costs (f a) (d.recording events) b more extra e →
        Costs (work >>= f) c b (made ++ more) (counted ++ extra) e := by
  obtain ⟨events, hmade, hcounted, hrun⟩ := h
  refine ⟨c.events ++ events, ?_⟩
  rintro β f b more extra e ⟨later, hmore, hextra, hrest⟩
  refine ⟨events ++ later, ?_, ?_, ?_⟩
  · rw [List.filterMap_append, hmade, hmore]
  · rw [List.filterMap_append, List.filter_append, hcounted, hextra]
  · rw [run_bind, hrun]
    dsimp only
    rw [hrest, ← List.append_assoc]
    rfl

/-- The costs of a sequence, whatever is recorded when it goes on. -/
theorem bind {f : α → Act σ β} {b : β} (h : Costs work c a made counted d)
    (hrest : ∀ events, Costs (f a) (d.recording events) b more extra e) :
    Costs (work >>= f) c b (made ++ more) (counted ++ extra) e := by
  obtain ⟨events, hgo⟩ := h.goOn
  exact hgo (hrest events)

theorem map (f : α → β) (h : Costs work c a made counted d) : Costs (f <$> work) c (f a) made counted d := by
  obtain ⟨events, hmade, hcounted, hrun⟩ := h
  refine ⟨events, hmade, hcounted, ?_⟩
  show (f (work.run c).1, (work.run c).2) = _
  rw [hrun]

/-- Work that is timed is counted as dispatched, and sampled when it is done. -/
theorem timed {operation : Operation} {plugin : String}
    (h : ∀ events, Costs work (c.recording events) a made counted d) :
    Costs (Context.timed operation plugin work) c a made
      (.dispatched operation plugin :: (counted ++ [.timed operation])) d := by
  rw [← List.append_nil made, ← List.append_nil [Metric.timed operation]]
  exact (measure rfl c).bind fun events => (h events).bind fun later =>
    (measure rfl (d.recording later)).bind fun last => pure a _

/-- A failure is counted once. -/
theorem recordFailure (operation : Operation) (error : Error) (c : Context σ) :
    Costs (Context.recordFailure operation error) c () [] [.failed operation] c :=
  (measure rfl c).bind fun _ => log _ _

theorem failBatch (operation : Operation) (count : Nat) (error : Error) (c : Context σ) :
    Costs (Context.failBatch operation count error : Act σ (List (Except Error α))) c
      (List.replicate count (.error error)) [] [.failed operation] c :=
  (recordFailure operation error c).bind fun _ => pure _ _

/-- An entry of a batch is counted if it is an error. -/
theorem settle (operation : Operation) (reply : Reply α) (c : Context σ) :
    Costs (Context.settle operation reply) c (tag operation reply) []
      (List.replicate (errorCount [tag operation reply]) (.failed operation)) c := by
  cases reply with
  | ok a => exact pure _ _
  | error source =>
      let error : Error := .backend operation.name source
      show Costs (Context.recordFailure operation error >>= fun _ => Pure.pure (Except.error error)) c _ _ _ _
      exact (recordFailure operation error c).bind fun _ => pure _ _

/-- The entries of a batch are settled one after the other. -/
theorem settleAll (operation : Operation) (replies : List (Reply α)) (c : Context σ) :
    Costs (replies.mapM (Context.settle operation)) c (replies.map (tag operation)) []
      (List.replicate (errorCount (replies.map (tag operation))) (.failed operation)) c := by
  induction replies generalizing c with
  | nil => exact pure _ _
  | cons reply replies ih =>
      rw [List.mapM_cons, List.map_cons, errorCount_cons, List.replicate_add]
      exact (settle operation reply c).bind fun events => (ih _).map _

/-- An answer with the right number of entries is spread by settling them. -/
theorem spread (operation : Operation) (plugin : String) {count : Nat} {replies : List (Reply α)}
    (hcount : replies.length = count) (c : Context σ) :
    Costs (Context.spread operation plugin count (.ok replies)) c (replies.map (tag operation)) []
      (List.replicate (errorCount (replies.map (tag operation))) (.failed operation)) c := by
  unfold Context.spread
  dsimp only
  rw [if_pos hcount]
  exact settleAll operation replies c

end Costs

end Work

/-- **Looking for the plugin of a URL is a lookup**, and counts nothing. -/
theorem resolveUrl_costs (operation : Operation) (url : String) (c : Context σ) (events : List Event) :
    ∃ found made d, Lookup url operation.capability c found made d ∧
      Costs (resolveUrl operation url).run (c.recording events) found made [] d := by
  obtain ⟨found, made, d, hlookup, hdoes⟩ := resolveUrl_looks operation url c events
  refine ⟨found, made, d, hlookup, hdoes.costs ?_⟩
  exact (questions_seeking.resolveUrl operation url _).counters

/-! ## Answers for a list -/

/-- **What a plugin's answer to a batch means for its URLs**: one outcome for each of them. -/
inductive Filled {α : Type} (operation : Operation) (plugin : String) (count : Nat) :
    Reply (List (Reply α)) → List (Except Error α) → List Metric → Prop
  | each {replies : List (Reply α)} (hcount : replies.length = count) :
      Filled operation plugin count (.ok replies) (replies.map (tag operation))
        (List.replicate (errorCount (replies.map (tag operation))) (.failed operation))
  /-- With the wrong number of entries, nobody knows which is whose. -/
  | miscounted {replies : List (Reply α)} (hcount : replies.length ≠ count) :
      Filled operation plugin count (.ok replies)
        (List.replicate count (.error (.backend operation.name
          ⟨.io, s!"{plugin} returned {replies.length} results for {count} urls"⟩)))
        [.failed operation]
  | failed {source : BackendError} :
      Filled operation plugin count (.error source)
        (List.replicate count (.error (.backend operation.name source))) [.failed operation]

theorem Filled.length_eq {α : Type} {operation : Operation} {plugin : String} {count : Nat}
    {reply : Reply (List (Reply α))} {outcomes : List (Except Error α)} {counted : List Metric}
    (h : Filled operation plugin count reply outcomes counted) : outcomes.length = count := by
  cases h with
  | each hcount => rw [List.length_map, hcount]
  | miscounted | failed => exact List.length_replicate

/-- An answer is spread over the URLs. -/
theorem spread_costs {α : Type} (operation : Operation) (plugin : String) (count : Nat)
    (reply : Reply (List (Reply α))) :
    ∃ outcomes counted, Filled operation plugin count reply outcomes counted ∧
      ∀ c : Context σ, Costs (spread operation plugin count reply) c outcomes [] counted c := by
  cases reply with
  | ok replies =>
      by_cases hcount : replies.length = count
      · exact ⟨_, _, .each hcount, .spread operation plugin hcount⟩
      · refine ⟨_, _, .miscounted hcount, fun c => ?_⟩
        unfold spread
        dsimp only
        rw [if_neg hcount]
        exact .failBatch operation count _ c
  | error source => exact ⟨_, _, .failed, fun c => .failBatch operation count _ c⟩

/-! ## One by one -/

/-- What a plugin answers when it removes files one after the other, and the world that it leaves. -/
def unlinking (backend : Backend σ) : List String → σ → List (Reply Unit) × σ
  | [], world => ([], world)
  | url :: urls, world =>
    let rest := unlinking backend urls (backend.respond (.unlink url) world).2
    ((backend.respond (.unlink url) world).1 :: rest.1, rest.2)

theorem length_unlinking (backend : Backend σ) (urls : List String) (world : σ) :
    (unlinking backend urls world).1.length = urls.length := by
  induction urls generalizing world with
  | nil => rfl
  | cons url urls ih => exact congrArg (· + 1) (ih _)

/-- Files are removed in the order of the list, and a failure does not keep those after it. -/
theorem unlinkEach_costs (plugin : Plugin σ) (urls : List String) (c : Context σ) :
    Costs (unlinkEach plugin urls) c ((unlinking plugin.backend urls c.world).1.map (tag .unlinkList))
      (urls.map fun url => (plugin.id, plugin.name, .unlink url))
      (List.replicate (errorCount ((unlinking plugin.backend urls c.world).1.map (tag .unlinkList)))
        (.failed .unlinkList))
      (c.inWorld (unlinking plugin.backend urls c.world).2) := by
  have hall (urls : List String) (c : Context σ) :
      Costs (urls.mapM fun url => do settle .unlinkList (← call plugin.backend (.unlink url))) c
        ((unlinking plugin.backend urls c.world).1.map (tag .unlinkList))
        (urls.map fun url => (plugin.id, plugin.name, .unlink url))
        (List.replicate (errorCount ((unlinking plugin.backend urls c.world).1.map (tag .unlinkList)))
          (.failed .unlinkList))
        (c.inWorld (unlinking plugin.backend urls c.world).2) := by
    -- Each file is removed in the world that the one before has left.
    induction urls generalizing c with
    | nil => exact .pure _ _
    | cons url urls ih =>
        rw [List.mapM_cons, unlinking, List.map_cons]
        dsimp only
        rw [List.map_cons, errorCount_cons, List.replicate_add]
        have hfirst : Costs (do settle .unlinkList (← call plugin.backend (.unlink url))) c _ _ _ _ :=
          (Costs.call plugin.backend (.unlink url) c).bind fun _ => .settle .unlinkList _ _
        exact hfirst.bind fun events =>
          (ih ((c.inWorld (plugin.backend.respond (.unlink url) c.world).2).recording events)).map _
  exact (Costs.log _ c).bind fun events => hall urls (c.recording events)

/-! ## The plugin of a list -/

section Resolved

variable {α β γ : Type}

/-- **How a list finds its plugin and is served**: with what comes out, the calls that are made, what is counted,
and the context that is left. What the plugin does is told by `Work`. -/
inductive Resolved (operation : Operation) (kind : Capability) (urls : List String)
    (otherwise : List (Except Error α) → β)
    (Work : Plugin σ → σ → β → List (InstanceId × String × Call) → List Metric → σ → Prop) (c : Context σ) :
    β → List (InstanceId × String × Call) → List Metric → Context σ → Prop
  | nothing (hurls : urls = []) : Resolved operation kind urls otherwise Work c (otherwise []) [] [] c
  /-- Nobody serves the first URL. -/
  | lost {url : String} {rest : List String} (hurls : urls = url :: rest) {error : Error}
      {made : List (InstanceId × String × Call)} {d : Context σ}
      (hlookup : Lookup url kind c (.error error) made d) :
      Resolved operation kind urls otherwise Work c (otherwise (List.replicate urls.length (.error error))) made
        [.failed operation] d
  | served {url : String} {rest : List String} (hurls : urls = url :: rest) {plugin : Plugin σ}
      {made more : List (InstanceId × String × Call)} {d : Context σ} {b : β} {counted : List Metric} {world : σ}
      (hlookup : Lookup url kind c (.ok plugin) made d)
      (hwork : Work plugin d.world b more counted world) :
      Resolved operation kind urls otherwise Work c b (made ++ more)
        (.dispatched operation plugin.name :: (counted ++ [.timed operation])) (d.inWorld world)

variable {operation : Operation} {kind : Capability} {urls : List String} {otherwise : List (Except Error α) → β}
  {Work : Plugin σ → σ → β → List (InstanceId × String × Call) → List Metric → σ → Prop} {c d : Context σ} {b : β}
  {made : List (InstanceId × String × Call)} {counted : List Metric}

theorem Resolved.map (h : Resolved operation kind urls otherwise Work c b made counted d) (f : β → γ)
    {Work' : Plugin σ → σ → γ → List (InstanceId × String × Call) → List Metric → σ → Prop}
    (hwork : ∀ {plugin world b more extra world'}, Work plugin world b more extra world' →
      Work' plugin world (f b) more extra world') :
    Resolved operation kind urls (fun outcomes => f (otherwise outcomes)) Work' c (f b) made counted d := by
  cases h with
  | nothing hurls => exact .nothing hurls
  | lost hurls hlookup => exact .lost hurls hlookup
  | served hurls hlookup hdone => exact .served hurls hlookup (hwork hdone)

/-- An empty list is served by nobody. -/
theorem resolveBatch_nil (operation : Operation) (serve : Plugin σ → Act σ β)
    (otherwise : List (Except Error α) → β) (c : Context σ) :
    Costs (resolveBatch operation [] serve otherwise) c (otherwise []) [] [] c :=
  (Costs.log (.urlSpan operation "") c).bind fun _ => .pure _ _

/-- A list goes on with one certain record of events, with which the plugin of its first URL is looked for. -/
theorem resolveBatch_goOn (operation : Operation) (url : String) (rest : List String) (serve : Plugin σ → Act σ β)
    (otherwise : List (Except Error α) → β) (c : Context σ) :
    ∃ events : List Event,
      (∀ {error : Error} {made : List (InstanceId × String × Call)} {d : Context σ},
        Costs (resolveUrl operation url).run (c.recording events) (.error error) made [] d →
          Costs (resolveBatch operation (url :: rest) serve otherwise) c
            (otherwise (List.replicate (url :: rest).length (.error error))) made [.failed operation] d) ∧
      ∀ {plugin : Plugin σ} {made more : List (InstanceId × String × Call)} {d : Context σ} {b : β}
        {counted : List Metric} {world : σ},
        Costs (resolveUrl operation url).run (c.recording events) (.ok plugin) made [] d →
          (∀ later, Costs (serve plugin) (d.recording later) b more counted (d.inWorld world)) →
            Costs (resolveBatch operation (url :: rest) serve otherwise) c b (made ++ more)
              (.dispatched operation plugin.name :: (counted ++ [.timed operation])) (d.inWorld world) := by
  obtain ⟨begun, hbegun⟩ := (Costs.log (.urlSpan operation url) c).goOn
  refine ⟨begun, fun {error made d} hlost => hbegun ?_, fun hfound hserve => hbegun ?_⟩
  · rw [← List.append_nil made]
    exact hlost.bind fun events => (Costs.failBatch operation _ error _).map otherwise
  · -- The dispatch is counted before the plugin is at work, and the sample comes after it.
    exact hfound.bind fun events => .timed fun later => hserve later

/-- **A list is served by the plugin of its first URL.** -/
theorem resolveBatch_costs (operation : Operation) (urls : List String) {serve : Plugin σ → Act σ β}
    (otherwise : List (Except Error α) → β)
    (Work : Plugin σ → σ → β → List (InstanceId × String × Call) → List Metric → σ → Prop) (c : Context σ)
    (hserve : ∀ plugin (d : Context σ), ∃ b more extra world, Work plugin d.world b more extra world ∧
      ∀ events, Costs (serve plugin) (d.recording events) b more extra (d.inWorld world)) :
    ∃ b made counted d, Resolved operation operation.capability urls otherwise Work c b made counted d ∧
      Costs (resolveBatch operation urls serve otherwise) c b made counted d := by
  cases urls with
  | nil => exact ⟨_, _, _, _, .nothing rfl, resolveBatch_nil operation serve otherwise c⟩
  | cons url rest =>
      obtain ⟨begun, hlost, hserved⟩ := resolveBatch_goOn operation url rest serve otherwise c
      obtain ⟨found, made, d, hlookup, hcosts⟩ := resolveUrl_costs operation url c begun
      cases found with
      | error error => exact ⟨_, _, _, _, .lost rfl hlookup, hlost hcosts⟩
      | ok plugin =>
          obtain ⟨b, more, extra, world, hwork, hserve⟩ := hserve plugin d
          exact ⟨_, _, _, _, .served rfl hlookup hwork, hserved hcosts hserve⟩

/-- A list that goes to its plugin as a whole. -/
theorem dispatchBatch_costs (request : BatchRequest α) (c : Context σ) :
    ∃ outcome made counted d,
      Resolved request.operation request.operation.capability request.urls (fun outcomes => (none, outcomes))
        (fun plugin world outcome more extra world' =>
          outcome.1 = (request.accept (plugin.backend.respond request.call world).1).1 ∧
          Filled request.operation plugin.name request.urls.length
            (request.accept (plugin.backend.respond request.call world).1).2 outcome.2 extra ∧
          more = [(plugin.id, plugin.name, request.call)] ∧
          world' = (plugin.backend.respond request.call world).2)
        c outcome made counted d ∧
      Costs (dispatchBatch request) c outcome made counted d := by
  refine resolveBatch_costs request.operation request.urls _ _ c fun plugin d => ?_
  obtain ⟨outcomes, counted, hfilled, hspread⟩ := spread_costs (σ := σ) request.operation plugin.name
    request.urls.length (request.accept (plugin.backend.respond request.call d.world).1).2
  refine ⟨(_, outcomes), _, _, _, ⟨rfl, hfilled, rfl, rfl⟩, fun events => ?_⟩
  exact (Costs.call plugin.backend request.call _).bind fun later => (hspread _).map _

/-- A list whose answer carries no token. -/
theorem dispatchBatch_tokenless (call : Call) (accept : call.Answer → Reply (List (Reply α))) (c : Context σ)
    {Work : Plugin σ → σ → Option String × List (Except Error α) → List (InstanceId × String × Call) →
      List Metric → σ → Prop}
    (hwork : ∀ plugin world outcomes extra,
      Filled operation plugin.name urls.length (accept (plugin.backend.respond call world).1) outcomes extra →
        Work plugin world (none, outcomes) [(plugin.id, plugin.name, call)] extra
          (plugin.backend.respond call world).2) :
    ∃ outcome made counted d,
      Resolved operation operation.capability urls (fun outcomes => (none, outcomes)) Work c outcome made counted
        d ∧
      Costs ((fun outcomes => (none, outcomes)) <$> (Prod.snd <$>
        dispatchBatch ⟨operation, urls, call, fun answer => (none, accept answer)⟩)) c outcome made counted d := by
  obtain ⟨outcome, made, counted, d, hresolved, hcosts⟩ :=
    dispatchBatch_costs ⟨operation, urls, call, fun answer => (none, accept answer)⟩ c
  refine ⟨_, _, _, _, hresolved.map (fun outcome => (none, outcome.2)) ?_, (hcosts.map Prod.snd).map _⟩
  rintro plugin world ⟨_, outcomes⟩ _ extra _ ⟨-, hfilled, rfl, rfl⟩
  exact hwork plugin world outcomes extra hfilled

end Resolved

end Context

/-! ## The public operations -/

inductive ListOperation
  | unlinkList (urls : List String)
  | bringOnlineList (urls : List String) (options : StageOptions)
  | bringOnlinePollList (urls : List String) (token : String)
  | releaseFileList (urls : List String) (token : String)
  | abortFiles (urls : List String) (token : String)

namespace ListOperation

open Context

@[reducible] def Entry : ListOperation → Type
  | bringOnlineList .. | bringOnlinePollList .. => Bool
  | unlinkList .. | releaseFileList .. | abortFiles .. => Unit

/-- The operation at work, with the token that it returns, if any. -/
def serve : (op : ListOperation) → Act σ (Option String × List (Except Error op.Entry))
  | unlinkList urls => (fun outcomes => (none, outcomes)) <$> Context.unlinkList urls
  | bringOnlineList urls options =>
    (fun batch => (batch.token, batch.files)) <$> Context.bringOnlineList urls options
  | bringOnlinePollList urls token => (fun outcomes => (none, outcomes)) <$> Context.bringOnlinePollList urls token
  | releaseFileList urls token => (fun outcomes => (none, outcomes)) <$> Context.releaseFileList urls token
  | abortFiles urls token => (fun outcomes => (none, outcomes)) <$> Context.abortFiles urls token

def request : ListOperation → Request σ
  | unlinkList urls => .unlinkList urls
  | bringOnlineList urls options => .bringOnlineList urls options
  | bringOnlinePollList urls token => .bringOnlinePollList urls token
  | releaseFileList urls token => .releaseFileList urls token
  | abortFiles urls token => .abortFiles urls token

def urls : ListOperation → List String
  | unlinkList urls | bringOnlineList urls _ | bringOnlinePollList urls _ | releaseFileList urls _
  | abortFiles urls _ => urls

def operation : ListOperation → Operation
  | unlinkList .. => .unlinkList
  | bringOnlineList .. => .bringOnlineList
  | bringOnlinePollList .. => .bringOnlinePollList
  | releaseFileList .. => .releaseFileList
  | abortFiles .. => .abortFiles

def kind : ListOperation → Capability
  | unlinkList .. => .unlink
  | bringOnlineList .. | bringOnlinePollList .. | releaseFileList .. | abortFiles .. => .bringOnline

@[reducible] def action : ListOperation → Call
  | unlinkList urls => .unlinkList urls
  | bringOnlineList urls options => .bringOnlineList urls options
  | bringOnlinePollList urls token => .bringOnlinePollList urls token
  | releaseFileList urls token => .releaseFileList urls token
  | abortFiles urls token => .abortFiles urls token

/-- The token of an answer and what it says of the list, unless the plugin has no action for lists. -/
def answer : (op : ListOperation) → op.action.Answer → Option (Option String × Reply (List (Reply op.Entry)))
  | unlinkList _, replies => replies.map fun replies => (none, .ok replies)
  | bringOnlineList .., .ok batch => some (batch.token, .ok batch.files)
  | bringOnlineList .., .error error => some (none, .error error)
  | bringOnlinePollList .., reply | releaseFileList .., reply | abortFiles .., reply => some (none, reply)

/-- **What a plugin does for a list**: with what comes out, the calls that it gets, the failures that are counted,
and the world that it leaves. -/
inductive Served : (op : ListOperation) → Plugin σ → σ → Option String × List (Except Error op.Entry) →
    List (InstanceId × String × Call) → List Metric → σ → Prop
  /-- It is called once, with all URLs. -/
  | whole {op : ListOperation} {plugin : Plugin σ} {world : σ} {token : Option String}
      {reply : Reply (List (Reply op.Entry))} {outcomes : List (Except Error op.Entry)} {counted : List Metric}
      (hanswer : op.answer (plugin.backend.respond op.action world).1 = some (token, reply))
      (hfilled : Filled op.operation plugin.name op.urls.length reply outcomes counted) :
      Served op plugin world (token, outcomes) [(plugin.id, plugin.name, op.action)] counted
        (plugin.backend.respond op.action world).2
  /-- It has no action for lists, and removes the files in order. -/
  | oneByOne {urls : List String} {plugin : Plugin σ} {world left : σ} {replies : List (Reply Unit)}
      (hanswer : (unlinkList urls).answer (plugin.backend.respond (.unlinkList urls) world).1 = none)
      (hreplies : unlinking plugin.backend urls (plugin.backend.respond (.unlinkList urls) world).2 =
        (replies, left)) :
      Served (unlinkList urls) plugin world (none, replies.map (tag .unlinkList))
        ((plugin.id, plugin.name, .unlinkList urls) :: urls.map fun url => (plugin.id, plugin.name, .unlink url))
        (List.replicate (errorCount (replies.map (tag .unlinkList))) (.failed .unlinkList)) left

/-- **How an operation on a list goes**: with the token and the outcomes that it returns, the calls that it makes,
what it counts, and the context that it leaves. -/
def Batched (op : ListOperation) (c : Context σ) : Option String × List (Except Error op.Entry) →
    List (InstanceId × String × Call) → List Metric → Context σ → Prop :=
  Resolved op.operation op.kind op.urls (fun outcomes => (none, outcomes)) op.Served c

section Batched

variable {op : ListOperation} {plugin : Plugin σ} {world world' : σ} {c d : Context σ}
  {outcome : Option String × List (Except Error op.Entry)} {made : List (InstanceId × String × Call)}
  {counted : List Metric}

theorem Served.length_eq (h : op.Served plugin world outcome made counted world') :
    outcome.2.length = op.urls.length := by
  cases h with
  | whole hanswer hfilled => exact hfilled.length_eq
  | @oneByOne urls _ _ _ replies _ hreplies =>
      have hlength := length_unlinking plugin.backend urls (plugin.backend.respond (.unlinkList urls) world).2
      rw [hreplies] at hlength
      exact (List.length_map _).trans hlength

/-- All calls are actions of the plugin. -/
theorem Served.calls (h : op.Served plugin world outcome made counted world')
    {entry : InstanceId × String × Call} (hentry : entry ∈ made) :
    entry.1 = plugin.id ∧ entry.2.1 = plugin.name ∧ entry.2.2.isAction = true := by
  cases h with
  | whole =>
      rw [List.mem_singleton.mp hentry]
      exact ⟨rfl, rfl, by cases op <;> rfl⟩
  | oneByOne =>
      rcases List.mem_cons.mp hentry with rfl | hmem
      · exact ⟨rfl, rfl, rfl⟩
      · obtain ⟨url, -, rfl⟩ := List.mem_map.mp hmem
        exact ⟨rfl, rfl, rfl⟩

theorem Batched.length_eq (h : op.Batched c outcome made counted d) : outcome.2.length = op.urls.length := by
  cases h with
  | nothing hurls =>
      rw [hurls]
      rfl
  | lost => exact List.length_replicate
  | served _ _ hwork => exact hwork.length_eq

theorem Batched.of_nil (h : op.Batched c outcome made counted d) (hurls : op.urls = []) :
    made = [] ∧ counted = [] ∧ d = c := by
  cases h with
  | nothing => exact ⟨rfl, rfl, rfl⟩
  | lost hcons | served hcons => exact absurd (hurls.symm.trans hcons) (List.cons_ne_nil _ _).symm

/-- The calls are questions about the first URL, actions of the plugin that claims it, and the teardowns of a
discovery that fails. -/
theorem Batched.calls (h : op.Batched c outcome made counted d) {entry : InstanceId × String × Call}
    (hentry : entry ∈ made) :
    (∃ url, op.urls.head? = some url ∧ entry.2.2 = .checkUrl url op.kind) ∨ entry.2.2 = .teardown ∨
      (entry.2.2.isAction = true ∧ ∃ url plugin asked e, op.urls.head? = some url ∧
        Lookup url op.kind c (.ok plugin) asked e ∧ entry.1 = plugin.id ∧ entry.2.1 = plugin.name) := by
  have hasked {url : String} {rest : List String} (hurls : op.urls = url :: rest) {found : Except Error (Plugin σ)}
      {made : List (InstanceId × String × Call)} {d : Context σ} (hlookup : Lookup url op.kind c found made d)
      (hentry : entry ∈ made) :
      (∃ url, op.urls.head? = some url ∧ entry.2.2 = .checkUrl url op.kind) ∨ entry.2.2 = .teardown :=
    (hlookup.asks hentry).imp_left fun hcall => ⟨url, by rw [hurls]; rfl, hcall⟩
  cases h with
  | nothing => cases hentry
  | lost hurls hlookup => exact (hasked hurls hlookup hentry).imp_right .inl
  | @served url rest hurls plugin asked _ e _ _ _ hlookup hwork =>
      rcases List.mem_append.mp hentry with hasks | hacts
      · exact (hasked hurls hlookup hasks).imp_right .inl
      · obtain ⟨hid, hname, haction⟩ := hwork.calls hacts
        exact .inr (.inr ⟨haction, url, plugin, asked, e, by rw [hurls]; rfl, hlookup, hid, hname⟩)

end Batched

/-- Removing a list with the plugin that was found. -/
theorem unlinkList_served (urls : List String) (plugin : Plugin σ) (d : Context σ) :
    ∃ outcomes made counted world, (unlinkList urls).Served plugin d.world (none, outcomes) made counted world ∧
      ∀ events, Costs (do
        match ← call plugin.backend (.unlinkList urls) with
        | some replies => spread .unlinkList plugin.name urls.length (.ok replies)
        | none => unlinkEach plugin urls) (d.recording events) outcomes made counted (d.inWorld world) := by
  cases hanswer : (plugin.backend.respond (.unlinkList urls) d.world).1 with
  | some replies =>
      obtain ⟨outcomes, counted, hfilled, hspread⟩ :=
        spread_costs (σ := σ) .unlinkList plugin.name urls.length (.ok replies)
      have hserved : (unlinkList urls).Served plugin d.world (none, outcomes) _ counted _ :=
        .whole (by rw [hanswer]; rfl) hfilled
      refine ⟨outcomes, _, counted, _, hserved, fun events => ?_⟩
      exact (Costs.answered (c := d.recording events) hanswer).bind fun later => hspread _
  | none =>
      refine ⟨_, _, _, _, .oneByOne (by rw [hanswer]; rfl) rfl, fun events => ?_⟩
      exact (Costs.answered (c := d.recording events) hanswer).bind fun later =>
        unlinkEach_costs plugin urls
          ((d.inWorld (plugin.backend.respond (.unlinkList urls) d.world).2).recording later)

/-- Each of the operations goes that way. -/
theorem serve_costs (op : ListOperation) (c : Context σ) :
    ∃ outcome made counted d, op.Batched c outcome made counted d ∧ Costs op.serve c outcome made counted d := by
  cases op with
  | unlinkList urls =>
      obtain ⟨outcomes, made, counted, d, hresolved, hcosts⟩ :=
        resolveBatch_costs .unlinkList urls id
          (fun plugin world outcomes => (unlinkList urls).Served plugin world (none, outcomes)) c
          (unlinkList_served urls)
      exact ⟨_, _, _, _, hresolved.map (fun outcomes => (none, outcomes)) id, hcosts.map _⟩
  | bringOnlineList urls options =>
      have haccept (answer : (Call.bringOnlineList urls options).Answer) :
          (bringOnlineList urls options).answer answer =
            some ((BatchRequest.bringOnline urls options).accept answer) := by
        rcases answer with _ | _ <;> rfl
      obtain ⟨outcome, made, counted, d, hresolved, hcosts⟩ := dispatchBatch_costs (.bringOnline urls options) c
      refine ⟨_, _, _, _, hresolved.map (fun outcome => (outcome.1, outcome.2)) ?_,
        (hcosts.map fun outcome => StageBatch.mk outcome.1 outcome.2).map _⟩
      rintro plugin world ⟨_, outcomes⟩ _ extra _ ⟨rfl, hfilled, rfl, rfl⟩
      exact .whole (haccept _) hfilled
  | bringOnlinePollList urls token =>
      exact dispatchBatch_tokenless (.bringOnlinePollList urls token) id c fun _ _ _ _ => .whole rfl
  | releaseFileList urls token =>
      exact dispatchBatch_tokenless (.releaseFileList urls token) id c fun _ _ _ _ => .whole rfl
  | abortFiles urls token =>
      exact dispatchBatch_tokenless (.abortFiles urls token) id c fun _ _ _ _ => .whole rfl

/-- **Operations on lists.** Whatever the list, one outcome is returned for every URL. The first URL alone is
looked up: if nobody serves it, that error is the outcome of every URL and one failure is counted. Otherwise the
plugin that was found gets the whole list, or the URLs one by one if it has no action for lists; one dispatch and
one sample are counted, and the failures among the outcomes, or one failure of the list. An empty list is served
by nobody. -/
theorem serve_batched (op : ListOperation) (c : Context σ) :
    ∃ outcome made counted d, op.Batched c outcome made counted d ∧ Costs op.serve c outcome made counted d ∧
      outcome.2.length = op.urls.length ∧ (op.urls = [] → made = [] ∧ counted = [] ∧ d = c) ∧
      ∀ entry ∈ made,
        (∃ url, op.urls.head? = some url ∧ entry.2.2 = .checkUrl url op.kind) ∨ entry.2.2 = .teardown ∨
          (entry.2.2.isAction = true ∧ ∃ url plugin asked e, op.urls.head? = some url ∧
            Lookup url op.kind c (.ok plugin) asked e ∧ entry.1 = plugin.id ∧ entry.2.1 = plugin.name) := by
  obtain ⟨outcome, made, counted, d, hbatched, hcosts⟩ := op.serve_costs c
  exact ⟨outcome, made, counted, d, hbatched, hcosts, hbatched.length_eq, hbatched.of_nil,
    fun entry => hbatched.calls⟩

end ListOperation

end StorageDispatch
