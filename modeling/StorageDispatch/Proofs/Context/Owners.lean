import StorageDispatch.Proofs.Context.Frame
import StorageDispatch.Proofs.Context.Routing
import StorageDispatch.Proofs.Registry.Moves

set_option autoImplicit false

/-! # Who is called about a handle

The plugin that serves a handle is found by the name that the handle carries (`resolveOwner_ok`), and
nobody is asked about a URL on the way (`Unasked`). A handle is `Claimed` by an instance if that is the only
listed one of the name. As long as it is, all calls about the handle are made on that instance, whatever
ordinary request is served: `Loyal` is a relation for routing and for storing handles.

A handle that was taken in keeps its owner's name for good (`Owned`), whether it gets into a table or not.
-/

namespace StorageDispatch

variable {σ α : Type}

/-- The plugins are known, and one instance is the only one of a name among them. -/
structure Registry.Claims (registry : Registry σ) (name : String) (i : InstanceId) : Prop where
  known : registry.phase.isKnown
  listed : registry.phase = .ready → ∃ plugin ∈ registry.plugins, plugin.name = name
  only : ∀ plugin ∈ registry.plugins, plugin.name = name → plugin.id = i

namespace Context

/-! ## Finding the plugin of a URL -/

theorem resolveUrl_ok {operation : Operation} {url : String} {c d : Context σ} {plugin : Plugin σ}
    (h : (resolveUrl operation url).run.run c = (.ok plugin, d)) :
    plugin ∈ d.registry.plugins ∧ d.registry.phase.isKnown := by
  unfold resolveUrl at h
  split at h
  · cases h
  · obtain ⟨plugins, e, hfound, h⟩ := run_bindE_ok h
    obtain ⟨hplugins, hknown⟩ := Registry.discover_ok hfound
    obtain ⟨found, made, world, hsearch⟩ := exists_search url operation.capability plugins e.world
    obtain ⟨events, -, hrun⟩ := firstClaiming_does hsearch
    rw [hrun] at h
    cases h
    cases hsearch with
    | found before hsplit =>
        refine ⟨?_, hknown⟩
        show plugin ∈ e.registry.plugins
        rw [← hplugins, hsplit]
        exact List.mem_append_right _ List.mem_cons_self

/-- The last call of an operation that succeeds is its action, on a listed plugin. -/
theorem dispatchUrl_ok {request : UrlRequest α} {c d : Context σ} {a : α}
    (h : (dispatchUrl request).run.run c = (.ok a, d)) :
    ∃ plugin world, plugin ∈ d.registry.plugins ∧ d.registry.phase.isKnown ∧
      d.calls.getLast? = some (plugin.id, plugin.name, request.call) ∧
      tag request.operation (request.accept (plugin.backend.respond request.call world).1) = .ok a := by
  unfold dispatchUrl at h
  rw [run_perform_bindE] at h
  obtain ⟨plugin, e, hresolved, h⟩ := run_bindE_ok (run_counted_ok h)
  obtain ⟨hmem, hknown⟩ := resolveUrl_ok hresolved
  -- From here on it is known what is done.
  have hdoes := action_does request plugin e
  obtain ⟨events, hleft⟩ := hdoes.context_eq
  have houtcome := hdoes.result_eq
  have hcalls := hdoes.calls_eq
  rw [h] at houtcome hcalls hleft
  have hregistry : d.registry = e.registry := by
    rw [show d = _ from hleft]
    rfl
  rw [hregistry, hcalls]
  exact ⟨plugin, e.world, hmem, hknown, by simp, houtcome.symm⟩

/-! ## Finding the owner -/

theorem resolveOwner_ok {owner : String} {c d : Context σ} {plugin : Plugin σ}
    (h : (resolveOwner owner).run.run c = (.ok plugin, d)) :
    plugin.name = owner ∧ plugin ∈ d.registry.plugins := by
  refine Registry.findByName_ok (c := c) ?_
  unfold resolveOwner at h
  rw [ExceptT.run_tryCatch, run_bind] at h
  generalize (Registry.findByName owner).run.run c = found at h ⊢
  rcases found with ⟨outcome, e⟩
  cases outcome with
  | ok found => exact h
  | error error => cases error <;> cases h

def ownerOf (c : Context σ) (id : HandleId) : String := ((c.handles[id]?).getD default).owner

/-- A handle that is taken in does not touch those that are there. -/
theorem ownerOf_adopt (handle : FileHandle) {c : Context σ} {id : HandleId} (h : id < c.handles.size) :
    ((adopt handle).run c).2.ownerOf id = c.ownerOf id := by
  show (((c.handles.push handle)[id]?).getD default).owner = _
  rw [Array.getElem?_push_lt h, ownerOf, Array.getElem?_eq_getElem h]

/-- Moving the position of a handle leaves all names as they are. -/
theorem ownerOf_move (id : HandleId) (offset : FileHandle → Nat) (c : Context σ) (other : HandleId) :
    ((updateHandle id fun handle => handle.setOffset (offset handle)).run c).2.ownerOf other =
      c.ownerOf other := by
  show (((c.handles.modify id fun handle => handle.setOffset (offset handle))[other]?).getD default).owner = _
  rw [Array.getElem?_modify, ownerOf]
  by_cases hid : id = other
  · rw [if_pos hid]
    cases c.handles[other]? <;> rfl
  · rw [if_neg hid]

/-- Serving a handle may rely on the plugin being a listed one of the handle's name. -/
theorem Finding.dispatchHandleAt {R : Context σ → Context σ → Prop} (F : Finding R) (operation : Operation)
    (id : HandleId) {serve : Plugin σ → Engine σ α} {c : Context σ}
    (hserve : ∀ plugin d, R c d → plugin.name = c.ownerOf id → plugin ∈ d.registry.plugins →
      R (d.dispatched operation plugin.name) ((serve plugin).run.run (d.dispatched operation plugin.name)).2) :
    R c ((dispatchHandle operation id serve).run.run c).2 := by
  unfold dispatchHandle
  rw [run_perform_bindE, run_perform_bindE]
  set d := ((log (.handleSpan operation (c.ownerOf id))).run c).2 with hd
  have hlog : R c d := F.log rfl c
  refine F.trans hlog (F.countedAt operation ?_)
  refine F.bindAt (F.resolveOwner _ d) fun plugin e hresolved => ?_
  obtain ⟨hname, hmem⟩ := resolveOwner_ok hresolved
  have hfound : R d e := by
    have hkeeps := F.resolveOwner (c.ownerOf id) d
    have hleft : ((Context.resolveOwner (c.ownerOf id)).run.run d).2 = e := congrArg Prod.snd hresolved
    rwa [hleft] at hkeeps
  exact F.sampled operation plugin.name e _ (hserve plugin e (F.trans hlog hfound) hname hmem)

theorem Finding.closeWithOwnerAt {R : Context σ → Context σ → Prop} (F : Finding R)
    (operation : Operation) (resource : Resource) (id : HandleId) {c : Context σ}
    (hclose : ∀ plugin d (opened : OpenHandle), R c d → plugin.name = c.ownerOf id →
      plugin ∈ d.registry.plugins → opened.id = id →
        R (d.dispatched operation plugin.name)
          ((Context.call plugin.backend (closingCall resource opened)).run
            (d.dispatched operation plugin.name)).2) :
    R c ((Context.closeWithOwner operation resource id).run.run c).2 := by
  refine F.dispatchHandleAt operation id fun plugin d hcd hname hmem => ?_
  rw [run_perform_bindE, run_perform_bindE]
  exact hclose plugin d ⟨id, ((d.dispatched operation plugin.name).handles[id]?).getD default⟩ hcd hname hmem rfl

/-! ## Handles keep their owners -/

def Owned (c d : Context σ) : Prop :=
  c.handles.size ≤ d.handles.size ∧ ∀ id < c.handles.size, d.ownerOf id = c.ownerOf id

theorem Owned.of_eq {c d : Context σ} (h : d.handles = c.handles) : Owned c d := by
  refine ⟨Nat.le_of_eq (congrArg Array.size h).symm, fun id _ => ?_⟩
  rw [ownerOf, ownerOf, h]

theorem owned_aloof : Aloof (Owned : Context σ → Context σ → Prop) :=
  .of_note (fun _ => .of_eq rfl)
    (fun h h' => ⟨Nat.le_trans h.1 h'.1, fun id hid =>
      (h'.2 id (Nat.lt_of_lt_of_le hid h.1)).trans (h.2 id hid)⟩)
    (fun _ _ _ => .of_eq rfl) (fun _ _ => .of_eq rfl) fun _ _ => .of_eq rfl

theorem owned_storing : Storing (Owned : Context σ → Context σ → Prop) where
  toFinding := owned_aloof.finding
  use resource c := .of_eq (by cases resource <;> rfl)
  found _ _ _ _ _ := trivial
  stays _ _ _ _ _ := trivial
  handle operation id serve c _ hserve := by
    refine owned_aloof.finding.dispatchHandleAt operation id fun plugin d _ _ _ => hserve plugin Owned ?_ _
    exact {
      toFlow := owned_aloof.toFlow
      talk := fun _ _ _ _ _ _ => .of_eq rfl
      move := fun offset c =>
        ⟨Nat.le_of_eq Array.size_modify.symm, fun other _ => ownerOf_move id offset c other⟩ }
  adopt handle c := by
    refine ⟨?_, fun id hid => ownerOf_adopt handle hid⟩
    show c.handles.size ≤ (c.handles.push handle).size
    rw [Array.size_push]
    exact Nat.le_succ _
  storeTable resource _ _ := .of_eq (by cases resource <;> rfl)
  closeWithOwner operation resource id c :=
    owned_aloof.finding.closeWithOwnerAt operation resource id fun _ _ _ _ _ _ _ => .of_eq rfl

/-- A handle that was taken in is there in the end, with its owner. -/
theorem owner_of_adopted {handle : FileHandle} {c d : Context σ} (h : Owned ((adopt handle).run c).2 d)
    {name : String} (hd : ∀ other ∈ d.handles, other.owner ≠ name) : handle.owner ≠ name := by
  have hsize : c.handles.size < ((adopt handle).run c).2.handles.size := by
    show c.handles.size < (c.handles.push handle).size
    rw [Array.size_push]
    exact Nat.lt_succ_self _
  have hlt : c.handles.size < d.handles.size := Nat.lt_of_lt_of_le hsize h.1
  have howner : d.ownerOf c.handles.size = handle.owner := by
    rw [h.2 _ hsize]
    show (((c.handles.push handle)[c.handles.size]?).getD default).owner = _
    rw [Array.getElem?_push_size, Option.getD_some]
  have hthere := hd _ (Array.getElem_mem hlt)
  rw [ownerOf, Array.getElem?_eq_getElem hlt, Option.getD_some] at howner
  rwa [howner] at hthere

/-! ## Work on handles asks nobody about a URL -/

section Adds

variable {P : InstanceId × String × Call → Prop}

/-- Work on handles calls backends about handles only, but for teardowns in a failed discovery. -/
theorem Adds.storing
    (hhandle : ∀ id name request opened, request.about? = some opened → P (id, name, request))
    (hteardown : ∀ id name, P (id, name, .teardown)) :
    Storing (Adds P : Context σ → Context σ → Prop) where
  toFinding := (Adds.aloof hteardown).finding
  use resource c := by
    refine .of_eq ?_
    cases resource <;> rfl
  found _ _ _ _ _ := trivial
  stays _ _ _ _ _ := trivial
  handle operation id serve c _ hserve := by
    refine (Adds.aloof hteardown).finding.dispatchHandleAt operation id fun plugin d _ _ _ => ?_
    refine hserve plugin (Adds P) ?_ _
    exact {
      toFlow := Adds.flow
      talk := fun request opened c h _ _ => .of_call (hhandle _ _ request opened h) c
      move := fun _ _ => .of_eq rfl }
  adopt _ _ := .of_eq rfl
  storeTable resource _ _ := by
    cases resource <;> exact .of_eq (calls_emit rfl _)
  closeWithOwner operation resource id c :=
    (Adds.aloof hteardown).finding.closeWithOwnerAt operation resource id fun _ d opened _ _ _ _ =>
      .of_call (hhandle _ _ _ opened (about?_closingCall resource opened)) _

end Adds

def Unasked (c d : Context σ) : Prop := Adds (fun entry => ∀ url kind, entry.2.2 ≠ .checkUrl url kind) c d

theorem unasked_storing : Storing (Unasked : Context σ → Context σ → Prop) := by
  refine Adds.storing (fun _ _ request opened habout url kind hasked => ?_) (fun _ _ _ _ => nofun)
  rw [show request = .checkUrl url kind from hasked] at habout
  cases habout

/-- A listing that the plugin completes itself is work on the handle only. -/
theorem unasked_readdirPlus {key : DescriptorKey} {c : Context σ}
    (h : ∀ id d, (lookupHandle .readdirPlus .directory key).run.run c = (.ok id, d) →
      ((nativeListing id).run.run d).1 ≠ .ok none) :
    Unasked c ((readdirPlus key).run.run c).2 := by
  have F : Storing (Unasked : Context σ → Context σ → Prop) := unasked_storing
  refine F.bindAt (F.lookupHandle _ _ key c) fun id d hlookup => ?_
  have hlisting : Unasked d ((nativeListing id).run.run d).2 := F.nativeListing trivial
  refine F.bindAt hlisting fun native e hnative => ?_
  cases native with
  | some entry => exact F.pureE _ e
  | none => exact absurd (congrArg Prod.fst hnative) (h id d hlookup)

/-! ## A claimed handle -/

/-- A handle carries the name of which an instance is the only plugin. -/
structure Claimed (h : HandleId) (name : String) (i : InstanceId) (c : Context σ) : Prop where
  claims : c.registry.Claims name i
  lt_size : h < c.handles.size
  owner : c.ownerOf h = name

/-- A claimed handle stays so, and the calls about it are made on the instance that claims it. -/
def Loyal (h : HandleId) (name : String) (i : InstanceId) (c d : Context σ) : Prop :=
  Claimed h name i c →
    Claimed h name i d ∧ Adds (fun entry => ∀ opened, entry.2.2.about? = some opened → opened.id = h →
      entry.1 = i) c d

section Loyal

variable {h : HandleId} {name : String} {i : InstanceId}

theorem Claimed.congr {c d : Context σ} (hc : Claimed h name i c) (hregistry : d.registry = c.registry)
    (hsize : c.handles.size ≤ d.handles.size) (howner : d.ownerOf h = c.ownerOf h) :
    Claimed h name i d := by
  refine ⟨?_, Nat.lt_of_lt_of_le hc.lt_size hsize, howner.trans hc.owner⟩
  rw [hregistry]
  exact hc.claims

/-- What leaves the registry and the handles alone, and calls nobody, is loyal. -/
theorem Loyal.of_eq {c d : Context σ} (hregistry : d.registry = c.registry) (hhandles : d.handles = c.handles)
    (hcalls : d.calls = c.calls) : Loyal h name i c d := by
  intro hc
  have howner : d.ownerOf h = c.ownerOf h := by rw [ownerOf, ownerOf, hhandles]
  have hsize : c.handles.size ≤ d.handles.size := Nat.le_of_eq (congrArg Array.size hhandles.symm)
  exact ⟨hc.congr hregistry hsize howner, .of_eq hcalls⟩

theorem Loyal.of_call {plugin : Backend σ} {request : Call}
    (hcall : ∀ opened, request.about? = some opened → opened.id = h → plugin.id = i) (c : Context σ) :
    Loyal h name i c ((call plugin request).run c).2 :=
  fun hc => ⟨hc.congr rfl (Nat.le_refl _) rfl, .of_call hcall c⟩

theorem loyal_finding : Finding (Loyal h name i : Context σ → Context σ → Prop) where
  toFlow := by
    refine .of_emit (fun _ => .of_eq rfl rfl rfl) (fun hcd hde hc => ?_)
      fun _ c hroutine => .of_eq rfl rfl (calls_emit (Event.call?_of_isRoutine hroutine) c)
    obtain ⟨hd, hadds⟩ := hcd hc
    obtain ⟨he, hmore⟩ := hde hd
    exact ⟨he, hadds.trans hmore⟩
  discover c hc := by
    -- The plugins are known, so that there is nothing to discover.
    show Claimed h name i (Registry.discover.run.run c).2 ∧ Adds _ c (Registry.discover.run.run c).2
    rw [run_discover hc.claims.known]
    exact ⟨hc, .of_eq rfl⟩

/-- The instance that claims a handle may serve it, and every instance may serve another handle. -/
theorem loyal_serves {plugin : Plugin σ} {id : HandleId} (hplugin : id = h → plugin.id = i) :
    Serves plugin id (Loyal h name i : Context σ → Context σ → Prop) where
  toFlow := loyal_finding.toFlow
  talk request opened c habout hid _ := .of_call (fun opened' habout' hopened' => hplugin (by
    rw [← hid, ← hopened', Option.some.inj (habout.symm.trans habout')])) c
  move offset c hc := by
    have hsize : c.handles.size ≤ (c.handles.modify id fun handle => handle.setOffset (offset handle)).size :=
      Nat.le_of_eq Array.size_modify.symm
    exact ⟨hc.congr rfl hsize (ownerOf_move id offset c h), .of_eq rfl⟩

/-- **Ordinary work is loyal.** -/
theorem loyal_storing : Storing (Loyal h name i : Context σ → Context σ → Prop) where
  toFinding := loyal_finding
  use resource c := by
    cases resource <;> exact .of_eq rfl rfl rfl
  found _ _ _ _ _ := trivial
  stays _ _ _ _ _ := trivial
  handle operation id serve c _ hserve hc := by
    refine loyal_finding.dispatchHandleAt operation id (fun plugin d hcd hname hmem => ?_) hc
    refine hserve plugin _ (loyal_serves fun hid => ?_) _
    have hplugin : plugin.name = name := by rw [hname, hid, hc.owner]
    exact (hcd hc).1.claims.only plugin hmem hplugin
  adopt handle c hc := by
    have hsize : c.handles.size ≤ (c.handles.push handle).size := by
      rw [Array.size_push]
      exact Nat.le_succ _
    exact ⟨hc.congr rfl hsize (ownerOf_adopt handle hc.lt_size), .of_eq rfl⟩
  storeTable resource _ _ := by
    cases resource <;> exact .of_eq rfl rfl (calls_emit rfl _)
  closeWithOwner operation resource id c hc := by
    refine loyal_finding.closeWithOwnerAt operation resource id
      (fun plugin d opened hcd hname hmem hopened => ?_) hc
    refine .of_call (fun opened' habout' hopened' => ?_) _
    rw [about?_closingCall] at habout'
    have hplugin : plugin.name = name := by
      rw [hname, ← hopened, Option.some.inj habout', hopened', hc.owner]
    exact (hcd hc).1.claims.only plugin hmem hplugin

theorem loyal_routing : Routing (Loyal h name i : Context σ → Context σ → Prop) where
  toFinding := loyal_finding
  ask backend request c habout _ := .of_call (fun opened habout' => by
    rw [habout] at habout'
    cases habout') c

end Loyal

end Context

namespace Request

/-- Whether a request is served by nobody but the plugin of an open handle. -/
def servesHandle : Request σ → Bool
  | .read .. | .write .. | .pread .. | .pwrite .. | .lseek .. | .close _ | .readdir _ | .closedir _ => true
  | _ => false

open Context in
/-- **Serving an open handle asks no plugin about a URL.** -/
theorem unasked_of_servesHandle (request : Request σ) (h : request.servesHandle = true) :
    Keeps Unasked request.serve := by
  cases request with
  | read | write | pread | pwrite | lseek | close | readdir | closedir =>
      exact storing_unrouted unasked_storing rfl rfl
  | _ => exact Bool.noConfusion h

end Request

end StorageDispatch
