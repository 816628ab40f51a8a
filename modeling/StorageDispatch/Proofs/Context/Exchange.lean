import StorageDispatch.Proofs.Context.Alongside
import StorageDispatch.Proofs.Context.Discovering
import StorageDispatch.Proofs.Context.Routing
import StorageDispatch.Proofs.Registry.Exchange
import StorageDispatch.Proofs.Session.Steps

set_option autoImplicit false

/-! # Contexts with other backends

An `Exchange` says which backend stands in for which, and how handles and worlds may differ while it does. Two
contexts are `Companions` if the one is the other with its backends exchanged. Recorded positions may differ
(`FileHandle.Like`), and the record of events is not looked at.

If the exchange is `Discreet`, which is about single calls, then the registries of companions discover, find and tear
down plugins side by side. If it is `Fair`, then every request that transfers nothing comes to the same in companions,
up to the positions that are told (`Value.Like`), and leaves companions (`Request.like_serve`). What transfers do
depends on what backends do of them, and is not said here.
-/

namespace StorageDispatch

variable {σ α β : Type}

/-! ## Handles at other positions -/

/-- The same handle, at another recorded position perhaps. -/
def FileHandle.Like (handle handle' : FileHandle) : Prop := handle' = handle.setOffset handle'.offset

namespace FileHandle.Like

variable {handle handle' : FileHandle}

theorem refl (handle : FileHandle) : handle.Like handle := rfl

theorem owner_eq (h : handle.Like handle') : handle'.owner = handle.owner := by
  rw [h]
  rfl

theorem path_eq (h : handle.Like handle') : handle'.path = handle.path := by
  rw [h]
  rfl

theorem payload_eq (h : handle.Like handle') : handle'.payload = handle.payload := by
  rw [h]
  rfl

theorem symm (h : handle.Like handle') : handle'.Like handle := by
  unfold FileHandle.Like at h ⊢
  rw [h]
  rfl

theorem trans {handle'' : FileHandle} (h : handle.Like handle') (h' : handle'.Like handle'') : handle.Like handle'' := by
  unfold FileHandle.Like at h h' ⊢
  rw [h', h]
  rfl

theorem setOffset (handle : FileHandle) (offset : Nat) : handle.Like (handle.setOffset offset) := rfl

end FileHandle.Like

/-- A handle as two backends are shown it. -/
structure OpenHandle.Like (opened opened' : OpenHandle) : Prop where
  id_eq : opened'.id = opened.id
  handle : opened.handle.Like opened'.handle

/-- Values that tell the same, but for recorded positions. -/
inductive Value.Like : Value → Value → Prop
  | refl (value : Value) : Like value value
  | handle {handle handle' : FileHandle} (h : handle.Like handle') : Like (.handle handle) (.handle handle')
  /-- The text that describes a handle tells its position. -/
  | described {handle handle' : FileHandle} (h : handle.Like handle') :
      Like (.text handle.debug) (.text handle'.debug)

/-! ## Exchanges -/

/-- **Backends that stand in for others.** -/
structure Exchange (σ : Type) where
  /-- Who stands in for a backend. -/
  swap : Backend σ → Backend σ
  /-- The backends that there may be. -/
  Known : Backend σ → Prop
  /-- How handles and worlds may differ. -/
  Like : Array FileHandle → σ → Array FileHandle → σ → Prop
  /-- Which handles may be taken in. -/
  Fresh : FileHandle → Array FileHandle → σ → Prop

namespace Exchange

variable (E : Exchange σ)

/-- A known backend, and who stands in for it. -/
def Traded (backend backend' : Backend σ) : Prop := backend' = E.swap backend ∧ E.Known backend

/-- A plugin with a known backend, and the one in its place. -/
def Placed (plugin plugin' : Plugin σ) : Prop := plugin' = plugin.exchange E.swap ∧ E.Known plugin.backend

def Listed (plugins plugins' : List (Plugin σ)) : Prop :=
  plugins' = plugins.map (Plugin.exchange E.swap) ∧ ∀ plugin ∈ plugins, E.Known plugin.backend

/-- Calls that are answered in the same way, and leave worlds that are as like as before. -/
def Same {answer : Type} (respond respond' : σ → answer × σ) : Prop :=
  ∀ handles world handles' world', E.Like handles world handles' world' →
    (respond' world').1 = (respond world).1 ∧ E.Like handles (respond world).2 handles' (respond' world').2

/-- **Exchanges that a registry does not notice**: all stay in their places, claim the same URLs, and are torn down
without a trace. -/
structure Discreet : Prop where
  id_eq : ∀ b, (E.swap b).id = b.id
  name_eq : ∀ b, (E.swap b).name = b.name
  priority_eq : ∀ b, (E.swap b).priority = b.priority
  claims : ∀ {b}, E.Known b → ∀ url kind,
    E.Same (b.respond (.checkUrl url kind)) ((E.swap b).respond (.checkUrl url kind))
  teardown : ∀ {b}, E.Known b → E.Same (b.respond .teardown) ((E.swap b).respond .teardown)

/-- **Exchanges that nobody notices** who transfers nothing. -/
structure Fair : Prop where
  id_eq : ∀ b, (E.swap b).id = b.id
  name_eq : ∀ b, (E.swap b).name = b.name
  priority_eq : ∀ b, (E.swap b).priority = b.priority
  size_eq : ∀ {handles world handles' world'}, E.Like handles world handles' world' → handles'.size = handles.size
  handle_like : ∀ {handles world handles' world'}, E.Like handles world handles' world' →
    ∀ id : HandleId, ((handles[id]?).getD default).Like ((handles'[id]?).getD default)
  ask : ∀ {b}, E.Known b → ∀ request : Call, request.about? = none →
    E.Same (b.respond request) ((E.swap b).respond request)
  readdir : ∀ {b}, E.Known b → ∀ {opened opened' : OpenHandle}, opened.Like opened' →
    E.Same (b.respond (.readdir opened)) ((E.swap b).respond (.readdir opened'))
  readdirPlus : ∀ {b}, E.Known b → ∀ {opened opened' : OpenHandle}, opened.Like opened' →
    E.Same (b.respond (.readdirPlus opened)) ((E.swap b).respond (.readdirPlus opened'))
  close : ∀ {b}, E.Known b → ∀ {opened opened' : OpenHandle}, opened.Like opened' →
    E.Same (b.respond (.close opened)) ((E.swap b).respond (.close opened'))
  closedir : ∀ {b}, E.Known b → ∀ {opened opened' : OpenHandle}, opened.Like opened' →
    E.Same (b.respond (.closedir opened)) ((E.swap b).respond (.closedir opened'))
  /-- What a backend opens may be taken in. -/
  opens : ∀ {b}, E.Known b → ∀ {handles world handles' world'}, E.Like handles world handles' world' →
    ∀ (o : Opening) (handle : FileHandle), o.part.accept (b.respond o.part.call world).1 = .ok handle →
      E.Fresh (handle.setPathIfMissing o.url) handles (b.respond o.part.call world).2
  push : ∀ {handle handles world handles' world'}, E.Fresh handle handles world →
    E.Like handles world handles' world' → E.Like (handles.push handle) world (handles'.push handle) world'

variable {E} in
theorem Fair.discreet (F : E.Fair) : E.Discreet where
  id_eq := F.id_eq
  name_eq := F.name_eq
  priority_eq := F.priority_eq
  claims hknown _ _ := F.ask hknown _ rfl
  teardown hknown := F.ask hknown _ rfl

end Exchange

namespace Context

variable {E : Exchange σ} {c c' : Context σ}

/-- **Contexts of which one is the other with its backends exchanged.** -/
structure Companions (E : Exchange σ) (c c' : Context σ) : Prop where
  config_eq : c'.config = c.config
  host_eq : c'.host = c.host
  makes : Makes E.Traded c.host
  registry_eq : c'.registry = c.registry.exchange E.swap
  known : ∀ backend ∈ c.registry.backends, E.Known backend
  files_eq : c'.files = c.files
  directories_eq : c'.directories = c.directories
  like : E.Like c.handles c.world c'.handles c'.world

namespace Companions

theorem listed (h : Companions E c c') : E.Listed c.registry.plugins c'.registry.plugins :=
  ⟨congrArg Registry.plugins h.registry_eq, fun _ hplugin => h.known _ (Registry.backend_mem hplugin)⟩

theorem phase_eq (h : Companions E c c') : c'.registry.phase = c.registry.phase := by
  rw [h.registry_eq]
  rfl

theorem withRegistry (h : Companions E c c') {registry registry' : Registry σ}
    (hregistry : registry' = registry.exchange E.swap) (hknown : ∀ backend ∈ registry.backends, E.Known backend) :
    Companions E { c with registry } { c' with registry := registry' } :=
  { h with registry_eq := hregistry, known := hknown }

/-- The registries have the same backends as before. -/
theorem withSameBackends (h : Companions E c c') {registry registry' : Registry σ}
    (hregistry : registry' = registry.exchange E.swap) (hbackends : registry.backends = c.registry.backends) :
    Companions E { c with registry } { c' with registry := registry' } := by
  refine h.withRegistry hregistry ?_
  rw [hbackends]
  exact h.known

/-- A call on both sides. -/
theorem called {b b' : Backend σ} {request request' : Call} (h : Companions E c c')
    (hlike : E.Like c.handles (b.respond request c.world).2 c'.handles (b'.respond request' c'.world).2) :
    Companions E ((call b request).run c).2 ((call b' request').run c').2 := { h with like := hlike }

/-- A call that is answered in the same way on both sides. -/
theorem callSame {b b' : Backend σ} {request : Call} (hsame : E.Same (b.respond request) (b'.respond request)) :
    Paired (Companions E) Eq (Context.call b request) (Context.call b' request) := by
  intro c c' hc
  obtain ⟨hanswer, hleft⟩ := hsame _ _ _ _ hc.like
  exact ⟨hanswer.symm, hc.called hleft⟩

theorem abreast : Abreast (Companions E) := ⟨fun _ _ h => { h with }⟩

theorem tabled : Tabled (Companions E) where
  toAbreast := abreast
  config_eq h := h.config_eq
  table?_eq h resource := by
    cases resource with
    | file => exact h.files_eq
    | directory => exact h.directories_eq
  withTable h resource table := by
    cases resource with
    | file => exact { h with files_eq := rfl }
    | directory => exact { h with directories_eq := rfl }

section Discreet

variable (F : E.Discreet)

include F

/-! ## The registry at work -/

theorem tearDownBackend {b b' : Backend σ} (hb : E.Traded b b') :
    Paired (Companions E) Eq (Context.call b .teardown) (Context.call b' .teardown) := by
  obtain ⟨rfl, hknown⟩ := hb
  exact callSame (F.teardown hknown)

theorem discovering : Discovering (Companions E) E.Traded E.Listed where
  toAbreast := abreast
  config_eq h := h.config_eq
  host_eq h := h.host_eq
  phase_eq h := h.phase_eq
  makes h := h.makes
  listed h := h.listed
  nextInstance := by
    intro c c' h
    have hloads : c'.registry.loads = c.registry.loads := by
      rw [h.registry_eq]
      rfl
    refine ⟨⟨congrArg InstanceId.loaded hloads, c.registry.loads, rfl⟩, h.withSameBackends ?_ rfl⟩
    rw [h.registry_eq]
    rfl
  tearDown hb := tearDownBackend F hb
  rephase h phase _ := by
    refine h.withSameBackends ?_ rfl
    rw [h.registry_eq]
    rfl
  fill h modules hmodules := by
    refine h.withRegistry ?_ fun backend hbackend => ?_
    · rw [h.registry_eq, Registry.afterDiscovery_exchange F.priority_eq]
      exact fun module hmem => (hmodules module hmem).1.symm
    · rcases Registry.backends_afterDiscovery hbackend with hold | ⟨module, hmem, rfl⟩
      · exact h.known backend hold
      · exact (hmodules module hmem).2
  queue {c c'} h b b' hb := by
    obtain ⟨rfl, hknown⟩ := hb
    refine h.withRegistry ?_ fun backend hbackend => ?_
    · have hpending : (c.registry.pending ++ [b]).map E.swap = c.registry.pending.map E.swap ++ [E.swap b] :=
        List.map_append
      rw [h.registry_eq, Registry.exchange, Registry.exchange, hpending]
    · have hmem : backend ∈ c.registry.backends ∨ backend = b := by
        rw [Registry.backends, ← List.append_assoc, List.mem_append, List.mem_singleton] at hbackend
        exact hbackend
      rcases hmem with hold | rfl
      · exact h.known backend hold
      · exact hknown
  enroll {c c'} h _ b b' hb := by
    obtain ⟨rfl, hknown⟩ := hb
    refine h.withRegistry ?_ fun backend hbackend => ?_
    · rw [h.registry_eq, Registry.enroll_exchange F.priority_eq]
      rfl
    · rcases Registry.backends_enroll hbackend with hold | hnew
      · exact h.known backend hold
      · rw [List.map_singleton, List.mem_singleton] at hnew
        rw [hnew]
        exact hknown

theorem tearDownPlugin {plugin plugin' : Plugin σ} (hplugin : E.Placed plugin plugin') :
    Paired (Companions E) Eq plugin.teardown plugin'.teardown := by
  obtain ⟨rfl, hknown⟩ := hplugin
  have hid : (plugin.exchange E.swap).id = plugin.id := F.id_eq plugin.backend
  refine .get fun c c' h => ?_
  have htorn : c'.registry.tornDown = c.registry.tornDown := by
    rw [h.registry_eq]
    rfl
  rw [htorn, hid]
  split
  · exact Paired.pure rfl c c' h
  · have hmark : Paired (Companions E) Eq
        (Registry.update fun registry => { registry with tornDown := plugin.id :: registry.tornDown })
        (Registry.update fun registry => { registry with tornDown := plugin.id :: registry.tornDown }) := by
      intro c c' h
      refine ⟨rfl, h.withSameBackends ?_ rfl⟩
      rw [h.registry_eq]
      rfl
    exact Paired.bindEq hmark (fun _ => (abreast.log _ _).bindEq fun _ =>
      (tearDownBackend F ⟨rfl, hknown⟩).bindEq fun _ => .pure rfl) c c' h

theorem tearDownRegistry : Paired (Companions E) Eq Registry.teardown Registry.teardown := by
  refine .get fun c c' h => ?_
  dsimp only
  have hgone : (c'.registry.phase = .tornDown ∧ c'.registry.plugins = []) ↔
      (c.registry.phase = .tornDown ∧ c.registry.plugins = []) := by
    rw [h.registry_eq]
    exact and_congr_right fun _ => List.map_eq_nil_iff
  rw [if_congr hgone rfl rfl]
  split
  · exact Paired.pure rfl c c' h
  · have hvacate : Paired (Companions E) Eq
        (Registry.update fun registry => { registry.withPlugins [] with phase := .tornDown, pending := [] })
        (Registry.update fun registry => { registry.withPlugins [] with phase := .tornDown, pending := [] }) := by
      intro c c' h
      refine ⟨rfl, h.withRegistry ?_ nofun⟩
      rw [h.registry_eq]
      rfl
    have hplugins : List.Forall₂ E.Placed c.registry.plugins c'.registry.plugins := by
      rw [h.listed.1, List.forall₂_map_right_iff, List.forall₂_same]
      exact fun plugin hplugin => ⟨rfl, h.listed.2 plugin hplugin⟩
    have hpending : List.Forall₂ E.Traded c.registry.pending c'.registry.pending := by
      rw [h.registry_eq, Registry.exchange, List.forall₂_map_right_iff, List.forall₂_same]
      exact fun backend hbackend => ⟨rfl, h.known backend (List.mem_append_right _ hbackend)⟩
    refine Paired.bindEq hvacate (fun _ => (abreast.log _ _).bindEq fun _ =>
      (abreast.measure _ _).bindEq fun _ => Paired.bindEq ?_ fun _ => ?_) c c' h
    · exact .forM hplugins fun _ _ hplugin => (tearDownPlugin F hplugin).bindEq fun _ => .pure rfl
    · exact .forM hpending fun _ _ hbackend => tearDownBackend F hbackend

/-! ## Looking plugins up -/

theorem firstClaiming (url : String) (capability : Capability) {plugins plugins' : List (Plugin σ)}
    (hplugins : E.Listed plugins plugins') :
    PairedE (Companions E) E.Placed (Registry.firstClaiming url capability plugins)
      (Registry.firstClaiming url capability plugins') := by
  obtain ⟨rfl, hknown⟩ := hplugins
  induction plugins with
  | nil => exact .throw _
  | cons plugin plugins ih =>
      obtain ⟨hhead, htail⟩ := List.forall_mem_cons.mp hknown
      refine .bindEq (callSame (F.claims hhead url capability)).perform fun claimed => ?_
      rcases claimed with source | (_ | _)
      · exact .throw _
      · exact ih htail
      · exact .bindEq (abreast.log _ _).perform fun _ => .pure ⟨rfl, hhead⟩

theorem findFor (url : String) (capability : Capability) :
    PairedE (Companions E) E.Placed (Registry.findFor url capability) (Registry.findFor url capability) :=
  .bind (discovering F).discover fun _ _ hplugins => firstClaiming F url capability hplugins

theorem findByName (name : String) :
    PairedE (Companions E) E.Placed (Registry.findByName name) (Registry.findByName name) := by
  refine .bind (discovering F).discover fun plugins plugins' hplugins => ?_
  obtain ⟨rfl, hknown⟩ := hplugins
  rw [Registry.find?_exchange F.name_eq]
  cases hfind : plugins.find? fun plugin => plugin.name == name with
  | none => exact .throw _
  | some plugin => exact .pure ⟨rfl, hknown plugin (List.mem_of_find?_eq_some hfind)⟩

end Discreet

section Fair

variable (F : E.Fair)

include F

/-! ## URLs -/

theorem ask {b b' : Backend σ} (hb : E.Traded b b') {request : Call} (h : request.about? = none) :
    Paired (Companions E) Eq (Context.call b request) (Context.call b' request) := by
  obtain ⟨rfl, hknown⟩ := hb
  exact callSame (F.ask hknown request h)

theorem alongside : Alongside (Companions E) E.Placed where
  toAbreast := abreast
  name_eq {p p'} hplugin := by
    rw [hplugin.1]
    exact F.name_eq p.backend
  findFor url capability := findFor F.discreet url capability
  ask {p p'} hplugin request h _ := by
    obtain ⟨rfl, hknown⟩ := hplugin
    exact ask F ⟨rfl, hknown⟩ h

/-! ## Handles -/

theorem openHandle (id : HandleId) :
    Paired (Companions E) OpenHandle.Like (Context.openHandle id) (Context.openHandle id) :=
  fun _ _ h => ⟨⟨rfl, F.handle_like h.like id⟩, h⟩

theorem attending : Attending (Companions E) E.Placed OpenHandle.Like fun _ => True where
  toAlongside := alongside F
  opened {id} _ := openHandle F id
  owner_eq ho := ho.handle.owner_eq
  path_eq ho := ho.handle.path_eq
  findOwner _ := findByName F.discreet _
  readdir hplugin ho := by
    obtain ⟨rfl, hknown⟩ := hplugin
    intro c c' hc
    have hsame := F.readdir hknown ho _ _ _ _ hc.like
    exact ⟨hsame.1.symm, hc.called hsame.2⟩
  readdirPlus hplugin ho := by
    obtain ⟨rfl, hknown⟩ := hplugin
    intro c c' hc
    have hsame := F.readdirPlus hknown ho _ _ _ _ hc.like
    exact ⟨hsame.1.symm, hc.called hsame.2⟩
  close hplugin ho := by
    obtain ⟨rfl, hknown⟩ := hplugin
    intro c c' hc
    have hsame := F.close hknown ho _ _ _ _ hc.like
    exact ⟨hsame.1.symm, hc.called hsame.2⟩
  closedir hplugin ho := by
    obtain ⟨rfl, hknown⟩ := hplugin
    intro c c' hc
    have hsame := F.closedir hknown ho _ _ _ _ hc.like
    exact ⟨hsame.1.symm, hc.called hsame.2⟩

theorem closeKey (operation : Operation) (resource : Resource) (key : DescriptorKey) :
    PairedE (Companions E) Eq (Context.closeKey operation resource key)
      (Context.closeKey operation resource key) := by
  refine .bindEq (tabled.lookupHandle operation resource key) fun id => ?_
  refine .bindEq ((attending F).closeWithOwner operation resource trivial) fun _ => ?_
  exact .mapEq _ (abreast.counted _ (tabled.removeHandle resource key))

theorem readdirPlus (key : DescriptorKey) :
    PairedE (Companions E) Eq (Context.readdirPlus key) (Context.readdirPlus key) := by
  refine .bindEq (tabled.lookupHandle .readdirPlus .directory key) fun id => ?_
  refine .bindEq ((attending F).nativeListing trivial) fun native => ?_
  cases native with
  | some entry => exact .pure rfl
  | none => exact (attending F).emulateReaddirPlus trivial

/-! ## Opening -/

/-- A handle is taken in on both sides, and work goes on with it. -/
theorem adopt_bind (h : Companions E c c') {handle : FileHandle} (hfresh : E.Fresh handle c.handles c.world)
    {f : HandleId → Engine σ α} (hrest : ∀ id, PairedE (Companions E) Eq (f id) (f id)) :
    MeetsE (Companions E) Eq (perform (adopt handle) >>= f) (perform (adopt handle) >>= f) c c' := by
  have hadopted : Companions E ((adopt handle).run c).2 ((adopt handle).run c').2 :=
    { h with like := F.push hfresh h.like }
  have hid : ((adopt handle).run c').1 = ((adopt handle).run c).1 := F.size_eq h.like
  unfold MeetsE Meets
  rw [run_perform_bindE, run_perform_bindE, hid]
  exact hrest _ _ _ hadopted

/-- What a backend has opened may be taken in right away. -/
theorem fresh_part (h : Companions E c c') (o : Opening) {handle : FileHandle} {d : Context σ}
    (hopen : (dispatchUrl o.part).run.run c = (.ok handle, d)) :
    E.Fresh (handle.setPathIfMissing o.url) d.handles d.world := by
  unfold dispatchUrl at hopen
  rw [run_perform_bindE] at hopen
  obtain ⟨plugin, e, hresolved, hopen⟩ := run_bindE_ok (run_counted_ok hopen)
  have hlogged := (abreast.log (.urlSpan o.part.operation o.part.url) (.urlSpan o.part.operation o.part.url) c c' h).2
  -- The plugin that is found is a known one, and the worlds are still alike.
  obtain ⟨hfound, hleft⟩ := (alongside F).resolveUrl o.part.operation o.part.url _ _ hlogged
  rw [show ((resolveUrl o.part.operation o.part.url).run.run _) = _ from hresolved] at hfound hleft
  have hknown : E.Known plugin.backend := by
    generalize ((resolveUrl o.part.operation o.part.url).run.run _).1 = found' at hfound
    cases hfound with
    | ok hplaced => exact hplaced.2
  have hdoes := action_does o.part plugin e
  have hresult := hdoes.result_eq
  obtain ⟨events, hd⟩ := hdoes.context_eq
  rw [hopen] at hresult hd
  have hreply : o.part.accept (plugin.backend.respond o.part.call e.world).1 = .ok handle := by
    generalize o.part.accept (plugin.backend.respond o.part.call e.world).1 = reply at hresult ⊢
    cases reply with
    | ok found => exact congrArg Except.ok (Except.ok.inj hresult).symm
    | error source => cases hresult
  have hfresh := F.opens hknown hleft.like o handle hreply
  rw [show d = _ from hd]
  exact hfresh

theorem opening (h : Companions E c c') (o : Opening) :
    MeetsE (Companions E) Eq (o.request : Request σ).serve (o.request : Request σ).serve c c' := by
  rw [o.serve_request]
  have hpart := (alongside F).dispatchUrl o.about?_part o.part_ne_teardown c c' h
  refine MeetsE.map (MeetsE.bind hpart ?_) fun _ _ => congrArg Value.key
  rintro handle _ d d' hopened rfl hleft
  exact hleft.adopt_bind F (h.fresh_part F o hopened) fun id => (attending F).storeAdopted tabled _ _ trivial

end Fair

end Companions

end Context

/-! ## Requests -/

/-- Whether a request transfers bytes, or moves the position from which they are transferred. -/
def Request.isTransfer : Request σ → Bool
  | .read .. | .write .. | .pread .. | .pwrite .. | .lseek .. => true
  | _ => false

namespace Request

open Context Companions

variable {E : Exchange σ}

theorem describe_plugin (F : E.Fair) {find : Engine σ (Plugin σ)} (hfind : PairedE (Companions E) E.Placed find find) :
    PairedE (Companions E) Eq (do return Value.plugin (← perform (describePlugin (← find))))
      (do return Value.plugin (← perform (describePlugin (← find)))) := by
  refine .bind hfind fun plugin plugin' hplugin => .bindEq (.perform ?_) fun _ => .pure rfl
  obtain ⟨rfl, -⟩ := hplugin
  intro c c' h
  refine ⟨?_, h⟩
  show c.registry.info plugin = c'.registry.info (plugin.exchange E.swap)
  rw [h.registry_eq, Registry.info_exchange F.id_eq F.name_eq F.priority_eq]

theorem describe_plugins (F : E.Fair) {find : Engine σ (List (Plugin σ))}
    (hfind : PairedE (Companions E) E.Listed find find) :
    PairedE (Companions E) Eq (do return Value.plugins (← perform (describePlugins (← find))))
      (do return Value.plugins (← perform (describePlugins (← find)))) := by
  refine .bind hfind fun plugins plugins' hplugins => .bindEq (.perform ?_) fun _ => .pure rfl
  obtain ⟨rfl, -⟩ := hplugins
  intro c c' h
  refine ⟨?_, h⟩
  show plugins.map c.registry.info = (plugins.map (Plugin.exchange E.swap)).map c'.registry.info
  rw [h.registry_eq, List.map_map]
  exact List.map_congr_left fun plugin _ => (Registry.info_exchange F.id_eq F.name_eq F.priority_eq c.registry plugin).symm

/-- A handle that is found is described, up to its position. -/
theorem describe_handle (F : E.Fair) {find : Engine σ HandleId} (hfind : PairedE (Companions E) Eq find find)
    {value : FileHandle → Value}
    (hvalue : ∀ handle handle' : FileHandle, handle.Like handle' → (value handle).Like (value handle')) :
    PairedE (Companions E) Value.Like (do return value (← perform (describeHandle (← find))))
      (do return value (← perform (describeHandle (← find)))) := by
  have hdescribe (id : HandleId) :
      Paired (Companions E) FileHandle.Like (describeHandle id) (describeHandle id) :=
    fun _ _ h => ⟨F.handle_like h.like id, h⟩
  exact .bindEq hfind fun id => .bind (hdescribe id).perform fun _ _ hlike => .pure (hvalue _ _ hlike)

theorem paired_summarize : Paired (Companions E) Eq (summarize : Act σ Summary) summarize := by
  refine (tabled.useTable .file).bindEq fun files => (tabled.useTable .directory).bindEq fun directories => ?_
  refine .get fun c c' h => ⟨?_, h⟩
  show Summary.mk c.registry.phase c.registry.size files.live directories.live = ⟨_, _, _, _⟩
  rw [h.registry_eq, Registry.size_exchange]
  rfl

theorem paired_debugPlugin (F : E.Fair) (name : String) :
    PairedE (Companions E) Eq (Context.debugPlugin name) (Context.debugPlugin name) := by
  refine .bind (Companions.findByName F.discreet name) fun plugin plugin' hplugin => .get fun c c' h => ⟨.ok ?_, h⟩
  obtain ⟨rfl, -⟩ := hplugin
  have hinfo := Registry.info_exchange F.id_eq F.name_eq F.priority_eq c.registry plugin
  rw [h.registry_eq, hinfo]
  simp only [Plugin.debug, Plugin.name, Plugin.priority, Plugin.exchange, F.name_eq, F.priority_eq]

theorem like_of_eq {x y : Engine σ Value} (h : PairedE (Companions E) Eq x y) :
    PairedE (Companions E) Value.Like x y := h.mono fun value _ heq => by
  rw [← heq]
  exact .refl value

/-- **Every request that transfers nothing** comes to the same in companions, but for recorded positions. -/
theorem like_serve (F : E.Fair) {request : Request σ} (h : request.isTransfer = false)
    (hinsert : ∀ resource handle, request = .insertHandle resource handle →
      ∀ handles world, E.Fresh handle handles world) :
    PairedE (Companions E) Value.Like request.serve request.serve := by
  cases request with
  | stat | lstat | access | chmod | mkdir | mkdirRecursive | rmdir | unlink | readlink | getxattr
  | listxattr | setxattr | bringOnline | bringOnlinePoll | releaseFile =>
      refine like_of_eq (.mapEq _ ((alongside F).dispatchUrl rfl ?_))
      nofun
  | rename | symlink =>
      refine like_of_eq (.mapEq _ ((alongside F).dispatchPair rfl ?_))
      nofun
  | unlinkList urls => exact like_of_eq (.mapEq _ ((alongside F).unlinkList urls).perform)
  | bringOnlineList | bringOnlinePollList | releaseFileList | abortFiles =>
      refine like_of_eq (.mapEq _ (((alongside F).dispatchBatch rfl ?_).bindEq fun _ => .pure rfl).perform)
      nofun
  | openFile url flags mode => exact like_of_eq fun c c' hc => hc.opening F (.file url flags mode)
  | opendir url => exact like_of_eq fun c c' hc => hc.opening F (.directory url)
  | readdir key =>
      refine like_of_eq (.mapEq _ (.bindEq (tabled.lookupHandle _ _ key) fun id => ?_))
      exact (attending F).nextEntry _ trivial
  | readdirPlus key => exact like_of_eq (.mapEq _ (Companions.readdirPlus F key))
  | close | closedir => exact like_of_eq (.mapEq _ (Companions.closeKey F _ _ _))
  | findHandle resource key => exact describe_handle F (tabled.findHandle resource key) fun _ _ => .handle
  | findRawHandle resource raw => exact describe_handle F (tabled.findRawHandle resource raw) fun _ _ => .handle
  | removeHandle resource key => exact describe_handle F (tabled.removeHandle resource key) fun _ _ => .handle
  | debugFile key => exact describe_handle F (tabled.findHandle .file key) fun _ _ => .described
  -- What is brought from outside must be fresh, which only the caller can tell.
  | insertHandle resource handle =>
      refine like_of_eq fun c c' hc => ?_
      have hfresh := hinsert resource handle rfl c.handles c.world
      exact hc.adopt_bind F hfresh fun id => .bindEq (tabled.insertHandle resource id) fun _ => .pure rfl
  | clearTable resource => exact like_of_eq (.mapEq _ (tabled.clearTable resource).perform)
  | discover => exact like_of_eq (describe_plugins F (discovering F.discreet).discover)
  | rediscover => exact like_of_eq (describe_plugins F (discovering F.discreet).rediscover)
  | pluginNames =>
      refine like_of_eq (.mapEq _ (.bind (discovering F.discreet).discover fun plugins plugins' hplugins => .pure ?_))
      rw [hplugins.1, List.map_map]
      exact List.map_congr_left fun plugin _ => (F.name_eq plugin.backend).symm
  | findFor url capability => exact like_of_eq (describe_plugin F (Companions.findFor F.discreet url capability))
  | findByName name => exact like_of_eq (describe_plugin F (Companions.findByName F.discreet name))
  | tearDownRegistry => exact like_of_eq (.mapEq _ (Companions.tearDownRegistry F.discreet).perform)
  | tearDown => exact like_of_eq (.mapEq _ (tabled.teardown (Companions.tearDownRegistry F.discreet)).perform)
  | summary => exact like_of_eq (.mapEq _ paired_summarize.perform)
  | debugContext =>
      refine like_of_eq (.get fun c c' hc => ⟨.ok (congrArg Value.text ?_), hc⟩)
      rw [debug, debug, tabled.table_eq hc, tabled.table_eq hc, hc.registry_eq, Registry.debug_exchange]
  | debugRegistry =>
      refine like_of_eq (.get fun c c' hc => ⟨.ok (congrArg Value.text ?_), hc⟩)
      rw [hc.registry_eq, Registry.debug_exchange]
  | debugPlugin name => exact like_of_eq (.mapEq _ (paired_debugPlugin F name))
  | debugTable resource => exact like_of_eq (.bindEq (tabled.useTable resource).perform fun _ => .pure rfl)
  | read | write | pread | pwrite | lseek => exact Bool.noConfusion h

end Request

end StorageDispatch
