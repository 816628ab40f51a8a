import StorageDispatch.Proofs.Context.Accounts
import StorageDispatch.Proofs.Context.Owners
import StorageDispatch.Proofs.Registry.Discovery

set_option autoImplicit false

/-! # Transfers at a position

Reading and writing at a position go the same way (`Positioned`): the backend may position the transfer
itself, and if it does not, a seek and a plain transfer stand for it.

`Positioned.Goes` lists the ways in which that ends, with the calls that are made and with what becomes of the
recorded position. What carries it over to whole operations is that finding the owner of a handle calls nobody,
if it succeeds (`selectOwner_does`): what is done on a handle is what its owner is made to do (`served_does`).
-/

namespace StorageDispatch

variable {σ α β : Type}

namespace Context

/-! ## Moving a handle -/

def moving (c : Context σ) (id : HandleId) (offset : FileHandle → Nat) : Context σ :=
  { c with handles := c.handles.modify id fun handle => handle.setOffset (offset handle) }

/-! Changes of a context that come after one another: the record of events is always the last that was left, and so
is the world. -/

@[simp] theorem id_shown (c : Context σ) (id : HandleId) : (c.shown id).id = id := rfl

@[simp] theorem recording_recording (c : Context σ) (events later : List Event) :
    (c.recording events).recording later = c.recording later := rfl

@[simp] theorem inWorld_recording (c : Context σ) (events : List Event) (world : σ) :
    (c.recording events).inWorld world = (c.inWorld world).recording events := rfl

@[simp] theorem inWorld_inWorld (c : Context σ) (world later : σ) :
    (c.inWorld world).inWorld later = c.inWorld later := rfl

@[simp] theorem moving_recording (c : Context σ) (events : List Event) (id : HandleId)
    (offset : FileHandle → Nat) : (c.recording events).moving id offset = (c.moving id offset).recording events := rfl

theorem Does.move {ε : Type} (id : HandleId) (offset : FileHandle → Nat) (c : Context σ) :
    Does (perform (updateHandle id fun handle => handle.setOffset (offset handle)) : ExceptT ε (Act σ) Unit) c
      (.ok ()) [] (c.moving id offset) := by
  refine ⟨[], rfl, ?_⟩
  rw [List.append_nil]
  rfl

/-- A call that is known to answer this in a world, and to leave that one. -/
theorem Does.called {ε : Type} {backend : Backend σ} {request : Call} {answer : request.Answer} {before after : σ}
    (h : backend.respond request before = (answer, after)) {c : Context σ} (hc : c.world = before) :
    Does (perform (Context.call backend request) : ExceptT ε (Act σ) request.Answer) c (.ok answer)
      [(backend.id, backend.name, request)] (c.inWorld after) := by
  have hdoes := Does.call (ε := ε) backend request c
  rwa [hc, h] at hdoes

/-- A value made of the result changes nothing else. -/
theorem Does.bind_pure {ε : Type} {work : ExceptT ε (Act σ) α} {c d : Context σ} {result : Except ε α}
    {made : List (InstanceId × String × Call)} (f : α → β) (h : Does work c result made d) :
    Does (work >>= fun a => Pure.pure (f a)) c (f <$> result) made d := by
  rw [← map_eq_pure_bind]
  exact h.map f

/-! ## Finding an owner calls nobody -/

/-- Plugins that are found were known before, or all modules have loaded. -/
theorem discover_does_ok {c d : Context σ} {plugins : List (Plugin σ)}
    (h : Registry.discover.run.run c = (.ok plugins, d)) :
    ∃ registry, Does Registry.discover c (.ok plugins) [] { c with registry } := by
  have hknown (hknown : c.registry.phase.isKnown) :
      ∃ registry, Does Registry.discover c (.ok plugins) [] { c with registry } := by
    rw [run_discover hknown] at h
    cases h
    exact ⟨c.registry, Does.discover hknown⟩
  cases hphase : c.registry.phase with
  | ready | tornDown => exact hknown (by rw [hphase]; trivial)
  | failed error =>
      unfold Registry.discover at h
      rw [run_get_bindE] at h
      dsimp only at h
      rw [hphase] at h
      cases h
  | uninitialized =>
      obtain ⟨result, made, e, hdiscovered, hdoes⟩ := Registry.discover_discovered hphase
      have hresult : result = .ok plugins := by rw [← hdoes.result_eq, h]
      subst hresult
      cases hdiscovered with
      | ready => exact ⟨_, hdoes⟩

theorem findByName_does_ok {name : String} {c d : Context σ} {plugin : Plugin σ}
    (h : (Registry.findByName name).run.run c = (.ok plugin, d)) :
    ∃ registry, Does (Registry.findByName name) c (.ok plugin) [] { c with registry } := by
  obtain ⟨plugins, e, hdiscover, hfound⟩ := run_bindE_ok h
  obtain ⟨registry, hdoes⟩ := discover_does_ok hdiscover
  refine ⟨registry, hdoes.bind fun events => ?_⟩
  cases hfind : plugins.find? fun plugin => plugin.name == name with
  | none =>
      rw [hfind] at hfound
      cases hfound
  | some found =>
      rw [hfind] at hfound
      cases hfound
      exact .pure _ _

/-- An owner that is found is one that a lookup by its name finds. -/
theorem run_resolveOwner_ok {owner : String} {c d : Context σ} {plugin : Plugin σ} :
    (resolveOwner owner).run.run c = (.ok plugin, d) ↔
      (Registry.findByName owner).run.run c = (.ok plugin, d) := by
  unfold resolveOwner
  rw [ExceptT.run_tryCatch, run_bind]
  rcases (Registry.findByName owner).run.run c with ⟨outcome, e⟩
  cases outcome with
  | ok found => rfl
  | error error => cases error <;> exact ⟨nofun, nofun⟩

theorem resolveOwner_does_ok {owner : String} {c d : Context σ} {plugin : Plugin σ}
    (h : (resolveOwner owner).run.run c = (.ok plugin, d)) :
    ∃ registry, plugin ∈ registry.plugins ∧
      Does (resolveOwner owner) c (.ok plugin) [] { c with registry } := by
  obtain ⟨registry, events, hmade, hrun⟩ := findByName_does_ok (run_resolveOwner_ok.mp h)
  have hdoes : Does (resolveOwner owner) c (.ok plugin) [] { c with registry } :=
    ⟨events, hmade, run_resolveOwner_ok.mpr hrun⟩
  exact ⟨registry, (resolveOwner_ok (run_resolveOwner_ok.mpr hrun)).2, hdoes⟩

/-- **Selecting the owner of a handle calls nobody**, if it succeeds. All that may happen is that the table is
made, and that the modules are loaded. -/
theorem selectOwner_does {operation : Operation} {resource : Resource} {key : DescriptorKey} {id : HandleId}
    {plugin : Plugin σ} {c d : Context σ}
    (h : (selectOwner operation resource key).run.run c = (.ok (id, plugin), d)) :
    (c.table resource).find? key = some id ∧ plugin.name = (c.shown id).handle.owner ∧
      ∃ registry, plugin ∈ registry.plugins ∧
        Does (selectOwner operation resource key) c (.ok (id, plugin)) []
          { c.withTable resource (c.table resource) with registry } := by
  obtain ⟨found, e, hfind, hrest⟩ := run_bindE_ok h
  have hlookup : (lookupHandle operation resource key).run.run c = (.ok found, e) := by
    rw [lookupHandle, run_counted, hfind]
  obtain ⟨hentry, he⟩ := lookupHandle_ok hlookup
  have hhandles : e.handles = c.handles := by
    rw [he]
    cases resource <;> rfl
  have hdone : Does (findHandle resource key) c (.ok found) [] (c.withTable resource (c.table resource)) := by
    refine ⟨[], rfl, ?_⟩
    rw [hfind, he, List.append_nil]
    cases resource <;> rfl
  rw [run_perform_bindE, run_perform_bindE] at hrest
  obtain ⟨owner, f, hresolve, hpure⟩ := run_bindE_ok hrest
  cases hpure
  have hshown : (e.shown id).handle.owner = (c.shown id).handle.owner := by rw [shown, shown, hhandles]
  refine ⟨hentry, (resolveOwner_ok hresolve).1.trans hshown, ?_⟩
  obtain ⟨registry, hmem, hdoes⟩ := resolveOwner_does_ok hresolve
  refine ⟨registry, hmem, hdone.andThen ?_⟩
  rw [hfind]
  refine Does.andThen (Does.openHandle id e) ?_
  refine Does.andThen (Does.log _ _) ?_
  refine (hdoes.bind_pure (Prod.mk id)).congr fun events => ?_
  rw [he]
  cases resource <;> rfl

/-- **What is done on a handle is what its owner is made to do**, once it is found. -/
theorem served_does {operation : Operation} {resource : Resource} {key : DescriptorKey} {id : HandleId}
    {plugin : Plugin σ} {c d e : Context σ} {serve : HandleId → Plugin σ → Engine σ α}
    {result : Except Error α} {made : List (InstanceId × String × Call)}
    (h : Does (selectOwner operation resource key) c (.ok (id, plugin)) [] d)
    (hserve : ∀ events, Does (serve id plugin) (d.recording events) result made e) :
    Does (lookupHandle operation resource key >>= fun id => dispatchHandle operation id (serve id)) c result
      made e := by
  have hdoes : Does (counted operation (selectOwner operation resource key >>= fun found =>
      timedEngine operation found.2.name (serve found.1 found.2))) c result made e :=
    .counted operation (h.bind fun events => .timedEngine _ _ hserve)
  unfold Does
  rw [run_served]
  exact hdoes

end Context

/-! ## Transfers at a position -/

/-- **A transfer at a position**: the call by which a backend may position it itself, the plain call by which it
is emulated else, and what their answers mean. -/
structure Positioned (α : Type) where
  operation : Operation
  offset : Nat
  native : OpenHandle → Call
  nativeReply : (opened : OpenHandle) → (native opened).Answer → Option (Reply α)
  plain : OpenHandle → Call
  plainReply : (opened : OpenHandle) → (plain opened).Answer → Reply α
  /-- How many bytes a transfer reports. -/
  count : α → Nat

namespace Positioned

def reading (buffer : Bytes) (offset : Nat) : Positioned Received where
  operation := .pread
  offset := offset
  native opened := .pread opened buffer.length offset
  nativeReply _ reply := reply
  plain opened := .read opened buffer.length
  plainReply _ reply := reply
  count := Received.count

def writing (data : Bytes) (offset : Nat) : Positioned Nat where
  operation := .pwrite
  offset := offset
  native opened := .pwrite opened data offset
  nativeReply _ reply := reply
  plain opened := .write opened data
  plainReply _ reply := reply
  count count := count

/-- **How an emulated transfer goes**: its result, the calls that are made, the world that they leave, and the
position that is recorded, if one is. -/
inductive Emulated (t : Positioned α) (backend : Backend σ) (opened : OpenHandle) (world : σ) :
    Except Error α → List Call → σ → Option Nat → Prop
  /-- The backend does not seek. -/
  | unsought {source : BackendError} {sought : σ}
      (hseek : backend.respond (.lseek opened (.start t.offset)) world = (.error source, sought)) :
      Emulated t backend opened world (.error (.backend t.operation.name source))
        [.lseek opened (.start t.offset)] sought none
  /-- The seek lands elsewhere, so nothing is transferred. -/
  | misplaced {landed : Nat} {sought : σ}
      (hseek : backend.respond (.lseek opened (.start t.offset)) world = (.ok landed, sought))
      (hlanded : landed ≠ t.offset) :
      Emulated t backend opened world (.error (.overflow t.operation.name t.offset landed))
        [.lseek opened (.start t.offset)] sought none
  | failed {source : BackendError} {sought after : σ} {answer : (t.plain opened).Answer}
      (hseek : backend.respond (.lseek opened (.start t.offset)) world = (.ok t.offset, sought))
      (hplain : backend.respond (t.plain opened) sought = (answer, after))
      (hreply : t.plainReply opened answer = .error source) :
      Emulated t backend opened world (.error (.backend t.operation.name source))
        [.lseek opened (.start t.offset), t.plain opened] after none
  | transferred {a : α} {sought after : σ} {answer : (t.plain opened).Answer}
      (hseek : backend.respond (.lseek opened (.start t.offset)) world = (.ok t.offset, sought))
      (hplain : backend.respond (t.plain opened) sought = (answer, after))
      (hreply : t.plainReply opened answer = .ok a) :
      Emulated t backend opened world (.ok a) [.lseek opened (.start t.offset), t.plain opened] after
        (some (min (t.offset + t.count a) maxOffset))

/-- **How a transfer at a position goes**, in the same terms. -/
inductive Goes (t : Positioned α) (backend : Backend σ) (opened : OpenHandle) (world : σ) :
    Except Error α → List Call → σ → Option Nat → Prop
  /-- The backend positions the transfer itself. -/
  | native {reply : Reply α} {after : σ} {answer : (t.native opened).Answer}
      (hnative : backend.respond (t.native opened) world = (answer, after))
      (hreply : t.nativeReply opened answer = some reply) :
      Goes t backend opened world (Context.tag t.operation reply) [t.native opened] after none
  /-- It leaves the transfer to the dispatcher. -/
  | emulated {asked after : σ} {answer : (t.native opened).Answer} {result : Except Error α} {calls : List Call}
      {moved : Option Nat} (hnative : backend.respond (t.native opened) world = (answer, asked))
      (hnone : t.nativeReply opened answer = none)
      (h : t.Emulated backend opened asked result calls after moved) :
      Goes t backend opened world result (t.native opened :: calls) after moved

end Positioned

namespace Context

open Positioned

/-- The context after a position was recorded for a handle, or none was. -/
def placing (c : Context σ) (id : HandleId) : Option Nat → Context σ
  | some offset => c.moving id fun _ => offset
  | none => c

def madeOn (plugin : Plugin σ) (calls : List Call) : List (InstanceId × String × Call) :=
  calls.map fun request => (plugin.id, plugin.name, request)

theorem Does.opened {ε : Type} {id : HandleId} {opened : OpenHandle} {c : Context σ} (h : c.shown id = opened) :
    Does (perform (Context.openHandle id) : ExceptT ε (Act σ) OpenHandle) c (.ok opened) [] c := by
  rw [← h]
  exact .openHandle id c

section Transfer

variable {key : DescriptorKey} {id : HandleId} {plugin : Plugin σ} {opened : OpenHandle} {c d : Context σ}
  {asked : σ}

/-- An emulated transfer goes in one of these ways, and nothing else happens. -/
theorem emulate_goes (t : Positioned α) (size : Nat) (transfer : OpenHandle → Act σ (Reply α))
    (htransfer : ∀ e answer after, plugin.backend.respond (t.plain opened) e.world = (answer, after) →
      Does (perform (transfer opened) : Engine σ (Reply α)) e (.ok (t.plainReply opened answer))
        (madeOn plugin [t.plain opened]) (e.inWorld after))
    (hshown : d.shown id = opened) (hworld : d.world = asked) :
    ∃ result calls world moved, t.Emulated plugin.backend opened asked result calls world moved ∧
      ∀ events, Does (emulate t.operation plugin id t.offset size transfer t.count) (d.recording events) result
        (madeOn plugin calls) ((d.inWorld world).placing id moved) := by
  -- Whatever comes of the seek, it has been called for then.
  have hsought {answer : Reply Nat} {sought : σ} {result : Except Error α} {calls : List Call} {e : Context σ}
      (hseek : plugin.backend.respond (.lseek opened (.start t.offset)) asked = (answer, sought))
      (hrest : ∀ events, Does (fromReply t.operation answer >>= fun landed =>
        if landed = t.offset then do
          let a ← fromReply t.operation (← perform (transfer opened))
          perform (updateHandle id fun handle => handle.setOffset (min (t.offset + t.count a) maxOffset))
          return a
        else throw (.overflow t.operation.name t.offset landed))
        ((d.inWorld sought).recording events) result (madeOn plugin calls) e) (events : List Event) :
      Does (emulate t.operation plugin id t.offset size transfer t.count) (d.recording events) result
        (madeOn plugin (.lseek opened (.start t.offset) :: calls)) e := by
    have hthere : (d.recording events).shown id = opened := hshown
    refine (Does.opened hthere).bind fun events => (Does.log _ _).bind fun events => ?_
    refine (Does.measure _ _).bind fun events => (Does.called hseek (by exact hworld)).bind fun events => ?_
    exact hrest events
  rcases hseek : plugin.backend.respond (.lseek opened (.start t.offset)) asked with ⟨answer, sought⟩
  cases answer with
  | error source =>
      refine ⟨_, _, _, _, .unsought hseek, hsought hseek fun events => ?_⟩
      exact (Does.fromOutcome _ _).bind_error _
  | ok landed =>
      by_cases hlanded : landed = t.offset
      · rw [hlanded] at hseek
        rcases hplain : plugin.backend.respond (t.plain opened) sought with ⟨answer, after⟩
        have hdone (events : List Event) := htransfer ((d.inWorld sought).recording events) answer after hplain
        cases hreply : t.plainReply opened answer with
        | error source =>
            rw [hreply] at hdone
            refine ⟨_, _, _, _, .failed hseek hplain hreply, hsought hseek fun events => ?_⟩
            refine (Does.fromOutcome _ _).bind fun events => ?_
            rw [if_pos rfl]
            exact (hdone _).bind fun events => (Does.fromOutcome _ _).bind_error _
        | ok a =>
            rw [hreply] at hdone
            refine ⟨_, _, _, _, .transferred hseek hplain hreply, hsought hseek fun events => ?_⟩
            refine (Does.fromOutcome _ _).bind fun events => ?_
            rw [if_pos rfl]
            refine (hdone _).bind fun events => (Does.fromOutcome _ _).bind fun events => ?_
            exact (Does.move id _ _).bind fun events => .pure a _
      · refine ⟨_, _, _, _, .misplaced hseek hlanded, hsought hseek fun events => ?_⟩
        refine (Does.fromOutcome _ _).bind fun events => ?_
        rw [if_neg hlanded]
        exact .throw _ _

/-- **Reading at a position**, once the owner of the handle is found. -/
theorem pread_goes (h : Does (selectOwner .pread .file key) c (.ok (id, plugin)) [] d)
    (hshown : d.shown id = opened) (buffer : Bytes) (offset : Nat) :
    ∃ result calls world moved,
      (reading buffer offset).Goes plugin.backend opened d.world result calls world moved ∧
        Does (pread key buffer offset) c
          ((fun received => (received.count, received.data.overlay buffer)) <$> result) (madeOn plugin calls)
          ((d.inWorld world).placing id moved) := by
  have hthere (events : List Event) : (d.recording events).shown id = opened := hshown
  rcases hnative : plugin.backend.respond (.pread opened buffer.length offset) d.world with ⟨answer, asked⟩
  cases answer with
  | some reply =>
      refine ⟨_, _, _, _, .native hnative rfl, served_does h fun events => ?_⟩
      refine (Does.opened (hthere events)).bind fun events => ?_
      refine (Does.called hnative (by rfl)).bind fun events => ?_
      exact (Does.fromOutcome _ _).bind_pure _
  | none =>
      -- The plain call by which the transfer is emulated, wherever the seek leaves the world.
      have htransfer (e : Context σ) (answer : Reply Received) (after : σ)
          (hplain : plugin.backend.respond (.read opened buffer.length) e.world = (answer, after)) :
          Does (perform (call plugin.backend (.read opened buffer.length)) : Engine σ (Reply Received)) e
            (.ok answer) (madeOn plugin [.read opened buffer.length]) (e.inWorld after) := .called hplain rfl
      obtain ⟨result, calls, world, moved, hgoes, hdoes⟩ :=
        emulate_goes (reading buffer offset) buffer.length
          (fun file => call plugin.backend (.read file buffer.length)) htransfer (d := d.inWorld asked) hshown rfl
      refine ⟨_, _, _, _, .emulated hnative rfl hgoes, served_does h fun events => ?_⟩
      refine (Does.opened (hthere events)).bind fun events => ?_
      refine (Does.called hnative (by rfl)).bind fun events => ?_
      exact (hdoes events).bind_pure _

/-- **Writing at a position**, once the owner of the handle is found. -/
theorem pwrite_goes (h : Does (selectOwner .pwrite .file key) c (.ok (id, plugin)) [] d)
    (hshown : d.shown id = opened) (data : Bytes) (offset : Nat) :
    ∃ result calls world moved,
      (writing data offset).Goes plugin.backend opened d.world result calls world moved ∧
        Does (pwrite key data offset) c result (madeOn plugin calls) ((d.inWorld world).placing id moved) := by
  have hthere (events : List Event) : (d.recording events).shown id = opened := hshown
  rcases hnative : plugin.backend.respond (.pwrite opened data offset) d.world with ⟨answer, asked⟩
  cases answer with
  | some reply =>
      refine ⟨_, _, _, _, .native hnative rfl, served_does h fun events => ?_⟩
      refine (Does.opened (hthere events)).bind fun events => ?_
      exact (Does.called hnative (by rfl)).bind fun events => .fromOutcome _ _
  | none =>
      have htransfer (e : Context σ) (answer : Reply Nat) (after : σ)
          (hplain : plugin.backend.respond (.write opened data) e.world = (answer, after)) :
          Does (perform (call plugin.backend (.write opened data)) : Engine σ (Reply Nat)) e (.ok answer)
            (madeOn plugin [.write opened data]) (e.inWorld after) := .called hplain rfl
      obtain ⟨result, calls, world, moved, hgoes, hdoes⟩ :=
        emulate_goes (writing data offset) data.length
          (fun file => call plugin.backend (.write file data)) htransfer (d := d.inWorld asked) hshown rfl
      refine ⟨_, _, _, _, .emulated hnative rfl hgoes, served_does h fun events => ?_⟩
      refine (Does.opened (hthere events)).bind fun events => ?_
      exact (Does.called hnative (by rfl)).bind fun events => hdoes events

end Transfer

/-! ## What is recorded of an emulated transfer -/

/-- The handles after an emulated transfer: one has moved behind what was transferred, or none has. -/
def handlesAfter (c : Context σ) (id : HandleId) (offset : Nat) : Except Error Nat → Array FileHandle
  | .ok count => c.handles.modify id fun handle => handle.setOffset (min (offset + count) maxOffset)
  | .error _ => c.handles

/-- What the registry does by itself leaves the handles alone. -/
theorem sameHandles_heedless : Heedless (fun c d : Context σ => d.handles = c.handles) where
  refl _ := rfl
  trans h h' := h'.trans h
  entry _ _ := rfl
  gauge _ _ _ := rfl
  tearDown _ _ := rfl
  registry _ _ := rfl

section Recorded

variable {operation : Operation} {resource : Resource} {key : DescriptorKey} {id : HandleId} {c : Context σ}

theorem handles_selectOwner (operation : Operation) (resource : Resource) (key : DescriptorKey) :
    Keeps (fun c d : Context σ => d.handles = c.handles) (selectOwner operation resource key) := by
  have F : Heedless (fun c d : Context σ => d.handles = c.handles) := sameHandles_heedless
  have huse : Respects (fun c d : Context σ => d.handles = c.handles) (useTable resource) := by
    intro c
    cases resource <;> rfl
  refine F.bindE (F.bindE huse.perform fun _ => F.fromOutcome _) fun id => ?_
  refine F.bindE (F.openHandle id).perform fun opened => F.bindE (Respects.perform (F.entry _)) fun _ => ?_
  exact F.bindE (F.resolveOwner F.discover _) fun _ => F.pureE _

/-- Whatever may be recorded at the end, nothing is if the owner is not found. -/
theorem handles_served {serve : HandleId → Plugin σ → Engine σ α} {offset : Nat} {count : α → Nat}
    (hkey : (c.table resource).find? key = some id)
    (hserve : ∀ plugin d, (selectOwner operation resource key).run.run c = (.ok (id, plugin), d) →
      ∃ result made e, Does (lookupHandle operation resource key >>= fun id =>
          dispatchHandle operation id (serve id)) c result made e ∧
        e.handles = c.handlesAfter id offset (count <$> result)) :
    let t := (lookupHandle operation resource key >>= fun id => dispatchHandle operation id (serve id)).run.run c
    t.2.handles = c.handlesAfter id offset (count <$> t.1) := by
  have hhandles := handles_selectOwner operation resource key c
  rcases hselect : (selectOwner operation resource key).run.run c with ⟨outcome, d⟩
  cases outcome with
  -- Looking for the owner moves no handle, and counting the failure moves none either.
  | error error =>
      have hleft : d.handles = c.handles := by
        rw [← hhandles]
        exact congrArg (·.2.handles) hselect.symm
      intro t
      have ht : t = (.error error, ((recordFailure operation error).run d).2) := by
        refine (run_served operation resource key serve c).trans ?_
        rw [run_counted, run_bindE, hselect]
      rw [ht]
      exact hleft
  | ok found =>
      have hfound : found.1 = id := by
        have hselect : (selectOwner operation resource key).run.run c = (.ok (found.1, found.2), d) := hselect
        have hentry := (selectOwner_does hselect).1
        exact Option.some.inj (hentry.symm.trans hkey)
      subst hfound
      obtain ⟨result, made, e, hdoes, he⟩ := hserve found.2 d hselect
      obtain ⟨events, hleft⟩ := hdoes.context_eq
      intro t
      rw [show t.2 = _ from hleft, show t.1 = _ from hdoes.result_eq]
      exact he

end Recorded

end Context

namespace Positioned

open Context

/-- A position is recorded if the transfer succeeds, and only then. -/
theorem Emulated.handles_eq {t : Positioned α} {backend : Backend σ} {opened : OpenHandle} {before after : σ}
    {result : Except Error α} {calls : List Call} {moved : Option Nat}
    (h : t.Emulated backend opened before result calls after moved) (c : Context σ) (id : HandleId) :
    (c.placing id moved).handles = c.handlesAfter id t.offset (t.count <$> result) := by
  cases h <;> rfl

/-- A backend that answers nothing to the native call leaves the transfer to the dispatcher. -/
theorem Goes.emulated_of_none {t : Positioned α} {backend : Backend σ} {opened : OpenHandle} {before after : σ}
    {result : Except Error α} {calls : List Call} {moved : Option Nat}
    (h : t.Goes backend opened before result calls after moved)
    (hnone : t.nativeReply opened (backend.respond (t.native opened) before).1 = none) :
    ∃ asked later, t.Emulated backend opened asked result later after moved := by
  cases h with
  | native hnative hreply =>
      rw [hnative, hreply] at hnone
      cases hnone
  | emulated _ _ h => exact ⟨_, _, h⟩

end Positioned

namespace Context

open Positioned

/-- **The position that is recorded of an emulated transfer.** If it succeeds, the handle is recorded to be behind
what was transferred. If it fails, whether in the seek, because the seek landed elsewhere, or in the transfer,
every handle keeps the position that it had, wherever the backend has moved to. -/
theorem emulated_recorded {c : Context σ} {key : DescriptorKey} {id : HandleId}
    (hkey : (c.table .file).find? key = some id) (offset : Nat) :
    (∀ buffer : Bytes, (∀ plugin d, (selectOwner .pread .file key).run.run c = (.ok (id, plugin), d) →
        (plugin.backend.respond (.pread (c.shown id) buffer.length offset) c.world).1 = none) →
      let t := (pread key buffer offset).run.run c
      t.2.handles = c.handlesAfter id offset (Prod.fst <$> t.1)) ∧
    (∀ data : Bytes, (∀ plugin d, (selectOwner .pwrite .file key).run.run c = (.ok (id, plugin), d) →
        (plugin.backend.respond (.pwrite (c.shown id) data offset) c.world).1 = none) →
      let t := (pwrite key data offset).run.run c
      t.2.handles = c.handlesAfter id offset t.1) := by
  constructor
  · intro buffer hnone
    refine handles_served hkey fun plugin d hselect => ?_
    obtain ⟨-, -, registry, -, hdoes⟩ := selectOwner_does hselect
    have hgoes := pread_goes hdoes (rfl : _ = c.shown id) buffer offset
    obtain ⟨result, calls, world, moved, hgoes, hdoes⟩ := hgoes
    obtain ⟨asked, later, hemulated⟩ := hgoes.emulated_of_none (hnone plugin d hselect)
    refine ⟨_, _, _, hdoes, ?_⟩
    rw [hemulated.handles_eq]
    cases result <;> rfl
  · intro data hnone t
    rw [← id_map' t.1]
    refine handles_served hkey fun plugin d hselect => ?_
    obtain ⟨-, -, registry, -, hdoes⟩ := selectOwner_does hselect
    have hgoes := pwrite_goes hdoes (rfl : _ = c.shown id) data offset
    obtain ⟨result, calls, world, moved, hgoes, hdoes⟩ := hgoes
    obtain ⟨asked, later, hemulated⟩ := hgoes.emulated_of_none (hnone plugin d hselect)
    exact ⟨_, _, _, hdoes, hemulated.handles_eq _ id⟩

/-- A backend that seeks to the same position whatever it is asked for, and has no other action. -/
def stuckBackend : Backend Unit where
  id := .registered 0
  name := "stuck"
  respond
    | .lseek .., world => (.ok 5, world)
    | request, world => (request.unimplemented, world)

/-- A context with one open file, of that backend. -/
def stuckContext : Context Unit where
  config := {}
  world := ()
  registry := { phase := .ready, plugins := [{ backend := stuckBackend, loadOrder := 0, origin := .static }] }
  files := some { name := "file", limit := 1, slots := #[{ entry := some 0 }], live := 1 }
  handles := #[{ owner := "stuck" }]

theorem emulated_recorded_stuck :
    (stuckContext.table .file).find? (.pack 0 0) = some 0 ∧
      let t := (pread (.pack 0 0) [0] 3).run.run stuckContext
      t.2.handles = stuckContext.handlesAfter 0 3 (Prod.fst <$> t.1) := by
  refine ⟨by decide, (emulated_recorded (by decide) 3).1 [0] fun plugin d hselect => ?_⟩
  have hrun : (selectOwner .pread .file (.pack 0 0)).run.run stuckContext =
      (.ok (0, { backend := stuckBackend, loadOrder := 0, origin := .static }), _) := rfl
  rw [hrun] at hselect
  cases hselect
  rfl

/-- **A seek that lands elsewhere is not recorded**, though the position is known from the backend. -/
theorem misplaced_unrecorded :
    let t := (pread (.pack 0 0) [0] 3).run.run stuckContext
    t.2.calls = [(.registered 0, "stuck", .pread (stuckContext.shown 0) 1 3),
        (.registered 0, "stuck", .lseek (stuckContext.shown 0) (.start 3))] ∧
      (stuckBackend.respond (.lseek (stuckContext.shown 0) (.start 3)) ()).1 = .ok 5 ∧
      t.1 = .error (.overflow "pread" 3 5) ∧ (t.2.shown 0).handle.offset ≠ 5 := by
  refine ⟨by decide, rfl, by decide, by decide⟩

end Context

end StorageDispatch
