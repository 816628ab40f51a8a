import StorageDispatch.Proofs.Context.Silence
import StorageDispatch.Proofs.Registry.Listing
import StorageDispatch.Proofs.Session.Steps
import StorageDispatch.Proofs.Session.Teardown

set_option autoImplicit false

/-! # Silence after teardown

Once its context was torn down, a session goes on, but nothing happens in it any more. A step calls no
backend, unless it hands one over, and then that one is torn down at once (`silent_step`). So nothing but
such teardowns is ever called, whatever follows (`silent_run`).

What the operations return from then on is `Mute`. The whole is `silence_after_teardown`, for every run that
has a teardown in it.
-/

namespace StorageDispatch

variable {σ : Type}

namespace Session

open Context

variable {s t : Session σ}

def tearingDown (backend : Backend σ) : InstanceId × String × Call := (backend.id, backend.name, .teardown)

/-! ## One step -/

/-- A plugin that is still held when all is over was torn down. -/
theorem mem_tornDown_of_held (hs : s.Accounted) (hsilent : s.context.Silent) {entry : String × Plugin σ}
    (hentry : entry ∈ s.held) : entry.2.id ∈ s.context.registry.tornDown := by
  refine (hs.knows_held entry hentry).resolve_right fun hmem => ?_
  rw [show s.ledger.registry.plugins = [] from hsilent.plugins_eq] at hmem
  cases hmem

/-- **A step in silence** leaves the registry as it is, and tears down what it hands over. -/
theorem silent_step (hs : s.Accounted) (hsilent : s.context.Silent) (step : Step σ) :
    (s.step step).2.context.registry = s.context.registry ∧
      (s.step step).2.context.calls = s.context.calls ++ (handed s.arrivals step).map tearingDown := by
  -- Most steps call nobody, and hand nothing over.
  have hushed (h : Hushed s.context (s.step step).2.context) (hnone : ∀ make, step ≠ .register make) :
      (s.step step).2.context.registry = s.context.registry ∧
        (s.step step).2.context.calls = s.context.calls ++ (handed s.arrivals step).map tearingDown := by
    obtain ⟨hregistry, hcalls⟩ := h hsilent
    rw [handed_eq_nil hnone, List.map_nil, List.append_nil]
    exact ⟨hregistry, hcalls⟩
  have hworld (c : Context σ) (world : σ) : Hushed c { c with world } := fun _ => ⟨rfl, rfl⟩
  have hhost (c : Context σ) (host : Host σ) : Hushed c { c with host } := fun _ => ⟨rfl, rfl⟩
  cases step with
  | request request => exact hushed (hushed_serve request s.context) nofun
  | register make =>
      -- A torn-down registry refuses the backend, and calls its teardown.
      have hdoes := (register_of_silent hsilent (newcomer s.arrivals make)).map fun _ => Value.unit
      obtain ⟨events, hleft⟩ := hdoes.context_eq
      have hregistry := congrArg Context.registry hleft
      exact ⟨hregistry, hdoes.calls_eq⟩
  | tearDownHeld label =>
      refine hushed (fun _ => ?_) nofun
      show (s.withKept s.held label _).2.context.registry = _ ∧
        (s.withKept s.held label _).2.context.calls = _
      unfold withKept
      cases hlookup : s.held.lookup label with
      | none => exact ⟨rfl, rfl⟩
      | some plugin =>
          have hrun := run_teardown_of_mem (mem_tornDown_of_held hs hsilent (mem_of_lookup hlookup))
          have hleft : (plugin.teardown.run s.context).2 = s.context := congrArg Prod.snd hrun
          exact ⟨congrArg Context.registry hleft, congrArg Context.calls hleft⟩
  | _ =>
      have hserve (request : Request σ) (_ : request.steady = true) := hushed_serve request
      exact hushed (steady_step hushed_storing.toHandling hserve hworld hhost rfl s) nofun

/-! ## What follows -/

/-- **A run in silence** tears down all that it hands over, in order, and calls nothing else. -/
theorem silent_run (hs : s.Accounted) (hsilent : s.context.Silent) (later : List (Step σ)) :
    (run later s).2.context.Silent ∧
      (run later s).2.context.calls = s.context.calls ++ (registered s.arrivals later).map tearingDown := by
  induction later generalizing s with
  | nil => exact ⟨hsilent, (List.append_nil _).symm⟩
  | cons step later ih =>
      obtain ⟨hregistry, hcalls⟩ := silent_step hs hsilent step
      have hturn := turn_step step s
      obtain ⟨hend, hmore⟩ := ih (accounted_turn hturn hs) (hsilent.congr hregistry)
      refine ⟨hend, hmore.trans ?_⟩
      rw [hcalls, arrivals_turn hturn, registered, List.map_append, List.append_assoc]

theorem calls_dispose_of_silent (hsilent : s.context.Silent) :
    s.dispose.context.calls = s.context.calls := by
  have hushed : Respects Hushed (Context.dispose : Act σ Unit) :=
    hushed_finding.bind hushed_teardown fun _ => hushed_tearDownRegistry
  exact (hushed s.context hsilent).2

theorem calls_release_of_silent (hs : s.Accounted) (hsilent : s.context.Silent) :
    s.release.context.calls = s.context.calls := by
  -- Each plugin that is let go was torn down before.
  have hforM : ∀ held : List (String × Plugin σ),
      (∀ entry ∈ held, entry.2.id ∈ s.context.registry.tornDown) →
        ((held.forM fun entry => discard entry.2.teardown : Act σ Unit).run s.context).2 = s.context := by
    intro held hheld
    induction held with
    | nil => rfl
    | cons entry held ih =>
        have hfirst := run_teardown_of_mem (hheld entry List.mem_cons_self)
        have hleft : (entry.2.teardown.run s.context).2 = s.context := congrArg Prod.snd hfirst
        have hrest := ih fun other hother => hheld other (List.mem_cons_of_mem _ hother)
        show ((held.forM fun entry => discard entry.2.teardown : Act σ Unit).run
          (entry.2.teardown.run s.context).2).2 = _
        rw [hleft, hrest]
  exact congrArg Context.calls (hforM s.held fun entry hentry => mem_tornDown_of_held hs hsilent hentry)

/-! ## What is answered -/

/-- **What a session answers** after its context has ended: nobody is listed, nobody serves a URL, and no
handle is good for anything, whatever may be in the tables. -/
structure Mute (t : Session σ) : Prop where
  silent : t.context.Silent
  discover : (t.step (.request .discover)).1 = .ok (.plugins [])
  rediscover : (t.step (.request .rediscover)).1 = .ok (.plugins [])
  pluginNames : (t.step (.request .pluginNames)).1 = .ok (.texts [])
  /-- An operation on a URL, or on a list whose first URL it is. -/
  refusal : ∀ {request : Request σ} {operation : Operation} {url : String},
    request.operation? = some operation → request.url? = some url → url ≠ "" →
      (t.step (.request request)).1 =
        request.refusal (.protocolNotSupported operation.capability.name url)
  /-- An operation on an open handle. -/
  badHandle : ∀ {request : Request σ} {resource : Resource} {key : DescriptorKey},
    request.handle? = some (resource, key) → request.transfersNothing = false →
      ∃ text, (t.step (.request request)).1 = .error (.badFileDescriptor text) ∧
        t.context.badHandle resource key = .badFileDescriptor text
  emptyBuffer : ∀ {request : Request σ}, request.transfersNothing = true →
    (t.step (.request request)).1 = .error .emptyBuffer

theorem mute_of_silent (h : t.context.Silent) : t.Mute where
  silent := h
  discover := by
    have hdoes : Does Request.discover.serve t.context (.ok (.plugins [])) [] t.context :=
      (discover_of_silent h).bind fun _ => .of_run rfl
    exact hdoes.result_eq
  rediscover := by
    have hdoes : Does Request.rediscover.serve t.context (.ok (.plugins [])) [] t.context :=
      (rediscover_of_silent h).bind fun _ => .of_run rfl
    exact hdoes.result_eq
  pluginNames := ((pluginNames_of_silent h).map Value.texts).result_eq
  refusal hoperation hurl hne := by
    have hdoes := refusal_of_silent h hoperation hurl
    rw [unserved_of_ne hne] at hdoes
    exact hdoes.result_eq
  badHandle {request resource key} hhandle hdata := by
    obtain ⟨text, htext⟩ := t.context.badHandle_eq resource key
    have hdoes := badHandle_of_silent h hhandle hdata
    rw [htext] at hdoes
    exact ⟨text, hdoes.result_eq, htext⟩
  emptyBuffer hdata := (emptyBuffer_does hdata t.context).result_eq

/-! ## Runs with a teardown -/

theorem silent_tearDown (hs : s.Accounted) : (s.step (.request .tearDown)).2.context.Silent := by
  obtain ⟨hphase, hplugins, hpending⟩ := Ledger.registry_tearDown hs.consistent
  have hregistry : (s.step (.request .tearDown)).2.context.registry = s.ledger.tearDown.registry :=
    congrArg Ledger.registry (Context.teardown_run s.context)
  exact ⟨by rw [hregistry, hphase], by rw [hregistry, hplugins], by rw [hregistry, hpending]⟩

/-- The end of a context calls teardowns only. -/
theorem adds_tearDown (s : Session σ) :
    Adds (fun entry => entry.2.2 = .teardown) s.context (s.step (.request .tearDown)).2.context := by
  have F : Aloof (Adds (fun entry => entry.2.2 = .teardown) : Context σ → Context σ → Prop) :=
    Adds.aloof fun _ _ => rfl
  refine F.teardown (fun c resource table => .of_eq ?_) s.context
  cases resource <;> rfl

/-- **Silence after teardown.** Whatever a new session goes through before the teardown of its context, and
whatever after it: the teardown calls nothing but teardowns, and from then on a backend that is handed over
is torn down at once and no other call is made, also not when the context ends and what is held is let go.
Every backend that ever came in was torn down exactly once by then. And the session is mute. -/
theorem silence_after_teardown (config : Config) (host : Host σ) (world : σ) (before later : List (Step σ)) :
    let s := after config host world before
    let ended := (s.step (.request .tearDown)).2
    let t := (run later ended).2
    Adds (fun entry => entry.2.2 = .teardown) s.context ended.context ∧
      t.context.calls = ended.context.calls ++ (registered s.arrivals later).map tearingDown ∧
      t.dispose.context.calls = t.context.calls ∧
      t.release.context.calls = t.context.calls ∧
      (∀ id ∈ (registered 0 (before ++ later)).map Backend.id ++ t.context.accepted,
        t.context.teardowns.count id = 1) ∧
      t.Mute := by
  intro s ended t
  have hs : s.Accounted := accounted_run before (accounted_start config host world)
  have hturn := turn_step (.request .tearDown) s
  have hended : ended.Accounted := accounted_turn hturn hs
  obtain ⟨hsilent, hcalls⟩ := silent_run hended (silent_tearDown hs) later
  have ht : t.Accounted := accounted_run later hended
  refine ⟨adds_tearDown s, hcalls, calls_dispose_of_silent hsilent, calls_release_of_silent ht hsilent,
    fun id hid => ?_, mute_of_silent hsilent⟩
  -- Nothing stands any more, so all that came in was torn down.
  have hstanding : t.ledger.standing = [] := Ledger.standing_of_empty hsilent.plugins_eq hsilent.pending_eq
  refine ht.balanced.count_teardowns hstanding ?_
  have hrun : t = after config host world (before ++ .request .tearDown :: later) :=
    (run_append before (.request .tearDown :: later) _).symm
  have hentered := entered_after config host world (before ++ .request .tearDown :: later)
  rw [← hrun] at hentered
  rw [hentered]
  have hregistered : registered 0 (before ++ .request .tearDown :: later) =
      registered 0 (before ++ later) := by
    rw [registered_append, registered_append]
    rfl
  rwa [hregistered]

/-- What comes too late: a backend, and a handle that is put into the table of open files. -/
def late : List (Step Unit) :=
  [.register (idle "t" 0), .request (.insertHandle .file { owner := "s" })]

theorem silence_after_late :
    let ended := ((after {} {} () [.register (idle "s" 0)]).step (.request .tearDown)).2
    let t := (run late ended).2
    t.context.calls = [(.registered 0, "s", .teardown), (.registered 1, "t", .teardown)] ∧
      (t.step (.request .rediscover)).1 = .ok (.plugins []) ∧
      (t.step (.request (.unlinkList ["s://a", ""]))).1 =
        .ok (.outcomes (List.replicate 2 (.error (.protocolNotSupported "unlink" "s://a")))) ∧
      (t.context.table .file).find? (.pack 0 0) = some 0 ∧
      (t.step (.request (.close (.pack 0 0)))).1 = .error (.unknownOwner "s") := by
  intro ended t
  obtain ⟨-, hcalls, -, -, -, hmute⟩ :=
    silence_after_teardown {} {} () [.register (idle "s" 0)] late
  have hended : ended.context.calls = [(.registered 0, "s", .teardown)] := rfl
  have hfind : (t.context.table .file).find? (.pack 0 0) = some 0 := by decide +kernel
  have howner : t.context.badHandle .file (.pack 0 0) = .unknownOwner "s" := by
    rw [badHandle, hfind]
    rfl
  obtain ⟨text, hclose, htext⟩ : ∃ text,
      (t.step (.request (.close (.pack 0 0)))).1 = .error (.badFileDescriptor text) ∧
        t.context.badHandle .file (.pack 0 0) = .badFileDescriptor text := hmute.badHandle rfl rfl
  have hrefusal : (t.step (.request (.unlinkList ["s://a", ""]))).1 = _ :=
    hmute.refusal rfl rfl (show "s://a" ≠ "" by decide)
  refine ⟨?_, hmute.rediscover, hrefusal, hfind, ?_⟩
  · rw [hcalls, hended]
    rfl
  · rw [hclose, ← htext, howner]

end Session

end StorageDispatch
