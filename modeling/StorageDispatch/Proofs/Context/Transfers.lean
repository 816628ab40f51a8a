import StorageDispatch.Proofs.Context.Exchange
import StorageDispatch.Proofs.Context.Positioned

set_option autoImplicit false

/-! # Transfers, seen from the owner of the handle

Whatever is transferred, the owner of the handle is selected first. In companions the same handle is selected,
and the backend that stands in for the other (`Companions.select`). From there on it is known exactly what is
done: for transfers at a position by `Positioned.Goes`, and for plain ones by `Plain.goes`.
-/

namespace StorageDispatch

variable {σ α β : Type}

/-! ## Plain transfers -/

/-- **A plain use of an open file**: the call that is made, what its answer means, and where the handle is
recorded to be after it. -/
structure Plain (α : Type) where
  operation : Operation
  request : OpenHandle → Call
  reply : (opened : OpenHandle) → (request opened).Answer → Reply α
  offset : α → FileHandle → Nat

namespace Plain

open Context

def reading (size : Nat) : Plain Received where
  operation := .read
  request opened := .read opened size
  reply _ reply := reply
  offset received handle := min (handle.offset + received.count) maxOffset

def writing (data : Bytes) : Plain Nat where
  operation := .write
  request opened := .write opened data
  reply _ reply := reply
  offset count handle := min (handle.offset + count) maxOffset

def seeking (target : SeekTarget) : Plain Nat where
  operation := .lseek
  request opened := .lseek opened target
  reply _ reply := reply
  offset landed _ := landed

/-- Use the file under a key, and make a value of what that comes to. -/
def serve (p : Plain α) (key : DescriptorKey) (value : α → β) : Engine σ β := do
  let id ← lookupHandle p.operation .file key
  dispatchHandle p.operation id fun plugin => do
    let opened ← perform (openHandle id)
    let answer ← perform (call plugin.backend (p.request opened))
    let a ← fromReply p.operation (p.reply opened answer)
    perform (updateHandle id fun handle => handle.setOffset (p.offset a handle))
    return value a

/-- The context after a plain use: its handle has moved if it succeeded. -/
def recorded (p : Plain α) (id : HandleId) (reply : Reply α) (c : Context σ) : Context σ :=
  match reply with
  | .ok a => c.moving id (p.offset a)
  | .error _ => c

theorem read_eq (key : DescriptorKey) {buffer : Bytes} (h : buffer ≠ []) :
    (Context.read key buffer : Engine σ (Nat × Bytes)) =
      (reading buffer.length).serve key fun received => (received.count, received.data.overlay buffer) := by
  have hsize : ¬ buffer.isEmpty = true := by simpa using h
  rw [Context.read, if_neg hsize]
  rfl

theorem write_eq (key : DescriptorKey) {data : Bytes} (h : data ≠ []) :
    (Context.write key data : Engine σ Nat) = (writing data).serve key fun count => count := by
  have hsize : ¬ data.isEmpty = true := by simpa using h
  rw [Context.write, if_neg hsize]
  rfl

theorem lseek_eq (key : DescriptorKey) (target : SeekTarget) :
    (Context.lseek key target : Engine σ Nat) = (seeking target).serve key fun landed => landed := rfl

/-- **A plain use, once the owner of the handle is found.** -/
theorem goes (p : Plain α) (value : α → β) {key : DescriptorKey} {id : HandleId} {plugin : Plugin σ}
    {opened : OpenHandle} {c d : Context σ} {answer : (p.request opened).Answer} {after : σ}
    (h : Does (selectOwner p.operation .file key) c (.ok (id, plugin)) [] d) (hshown : d.shown id = opened)
    (hcall : plugin.backend.respond (p.request opened) d.world = (answer, after)) :
    Does (p.serve key value) c (value <$> tag p.operation (p.reply opened answer))
      (madeOn plugin [p.request opened]) (p.recorded id (p.reply opened answer) (d.inWorld after)) := by
  have hthere (events : List Event) : (d.recording events).shown id = opened := hshown
  refine served_does h fun events => ?_
  refine (Does.opened (hthere events)).bind fun events => (Does.called hcall (by rfl)).bind fun events => ?_
  cases p.reply opened answer with
  | error source => exact (Does.fromOutcome _ _).bind_error _
  | ok a =>
      refine (Does.fromOutcome _ _).bind fun events => ?_
      exact (Does.move id _ _).bind fun events => .pure (value a) _

end Plain

variable {operation : Operation} {resource : Resource} {key : DescriptorKey} {id : HandleId} {plugin : Plugin σ}
  {c c' d : Context σ}

namespace Context

/-! ## The owner is selected -/

/-- **Selecting an owner leaves handles and world alone**, and calls nobody if it succeeds. -/
theorem selectOwner_leaves (h : (selectOwner operation resource key).run.run c = (.ok (id, plugin), d)) :
    Does (selectOwner operation resource key) c (.ok (id, plugin)) [] d ∧ d.handles = c.handles ∧
      d.world = c.world := by
  obtain ⟨-, -, registry, -, hdoes⟩ := selectOwner_does h
  obtain ⟨events, hleft⟩ := hdoes.context_eq
  rw [h] at hleft
  have hd : d = { c.withTable resource (c.table resource) with registry }.recording events := hleft
  rw [hd]
  refine ⟨hdoes.congr fun _ => rfl, ?_, ?_⟩ <;> cases resource <;> rfl

/-- **If the plugins are known**, the owner that is selected is the first of them that has its name. -/
theorem selectOwner_does_known (operation : Operation) (hknown : c.registry.phase.isKnown)
    (hfind : (c.table resource).find? key = some id) :
    Does (selectOwner operation resource key) c
      (match c.registry.plugins.find? fun plugin => plugin.name == (c.shown id).handle.owner with
        | some plugin => .ok (id, plugin)
        | none => .error (.unknownOwner (c.shown id).handle.owner)) []
      (c.withTable resource (c.table resource)) := by
  have hsame : (c.withTable resource (c.table resource)).registry = c.registry := by cases resource <;> rfl
  have hshown : (c.withTable resource (c.table resource)).shown id = c.shown id := by cases resource <;> rfl
  have hfound : Does (findHandle resource key) c (.ok id) [] (c.withTable resource (c.table resource)) := by
    refine (useTable_does resource c).bind fun events => ?_
    rw [DescriptorTable.get, hfind]
    exact .fromOutcome _ _
  have hthere (events : List Event) : ((c.withTable resource (c.table resource)).recording events).shown id =
      c.shown id := hshown
  refine hfound.bind fun events => (Does.opened (hthere events)).bind fun events => ?_
  refine (Does.log _ _).bind fun events => ?_
  have hresolved := resolveOwner_does (c.shown id).handle.owner
    (c := (c.withTable resource (c.table resource)).recording events) (hsame.symm ▸ hknown)
  rw [show ((c.withTable resource (c.table resource)).recording events).registry = c.registry from hsame] at hresolved
  cases hplugin : c.registry.plugins.find? fun plugin => plugin.name == (c.shown id).handle.owner with
  | none =>
      rw [hplugin] at hresolved
      exact hresolved.bind_error _
  | some plugin =>
      rw [hplugin] at hresolved
      exact hresolved.bind_pure _

/-- So an owner is selected if there is one. -/
theorem selectOwner_owned {outcome : Except Error (HandleId × Plugin σ)} (hknown : c.registry.phase.isKnown)
    (hfind : (c.table resource).find? key = some id) (hmem : plugin ∈ c.registry.plugins)
    (hname : plugin.name = (c.shown id).handle.owner)
    (h : (selectOwner operation resource key).run.run c = (outcome, d)) : ∃ found, outcome = .ok found := by
  have hdoes := selectOwner_does_known operation hknown hfind
  cases hfound : c.registry.plugins.find? fun plugin => plugin.name == (c.shown id).handle.owner with
  | none =>
      have hne := List.find?_eq_none.mp hfound plugin hmem
      rw [hname] at hne
      exact absurd (beq_self_eq_true _) hne
  | some found =>
      have hresult := hdoes.result_eq
      rw [h, hfound] at hresult
      exact ⟨_, hresult⟩

/-- Selecting an owner leaves known plugins as they are, also if there is none. -/
theorem registry_selectOwner {outcome : Except Error (HandleId × Plugin σ)} (hknown : c.registry.phase.isKnown)
    (h : (selectOwner operation resource key).run.run c = (outcome, d)) : d.registry = c.registry := by
  have hkeeps : Keeps Follows (selectOwner operation resource key : Engine σ (HandleId × Plugin σ)) := by
    refine follows_frame.bindE (follows_frame.storing.findHandle resource key) fun id => ?_
    refine follows_frame.bindE (follows_frame.openHandle id).perform fun opened => ?_
    refine follows_frame.bindE (Respects.perform (follows_frame.log rfl)) fun _ => ?_
    exact follows_frame.bindE (follows_frame.routing.resolveOwner _) fun _ => follows_frame.pureE _
  have hfollows := hkeeps c
  rw [h] at hfollows
  exact hfollows.registry_eq hknown

/-- An owner that is selected is among the plugins, and these are known then. -/
theorem selectOwner_listed (h : (selectOwner operation resource key).run.run c = (.ok (id, plugin), d)) :
    d.registry.phase.isKnown ∧ plugin ∈ d.registry.plugins := by
  obtain ⟨found, e, -, hrest⟩ := run_bindE_ok h
  rw [run_perform_bindE, run_perform_bindE] at hrest
  obtain ⟨owner, f, hresolve, hpure⟩ := run_bindE_ok hrest
  cases hpure
  obtain ⟨plugins, g, hdiscover, hfound⟩ := run_bindE_ok (run_resolveOwner_ok.mp hresolve)
  refine ⟨?_, (resolveOwner_ok hresolve).2⟩
  have hknown := (Registry.discover_ok hdiscover).2
  cases hfind : plugins.find? fun plugin => plugin.name == _ with
  | none =>
      rw [hfind] at hfound
      cases hfound
  | some found =>
      rw [hfind] at hfound
      cases hfound
      exact hknown

/-- Work on a handle whose owner is not found fails, and nothing else happens. -/
theorem run_unserved {error : Error} (h : (selectOwner operation resource key).run.run c = (.error error, d))
    (serve : HandleId → Plugin σ → Engine σ α) :
    (lookupHandle operation resource key >>= fun id => dispatchHandle operation id (serve id)).run.run c =
      (.error error, ((recordFailure operation error).run d).2) := by
  rw [run_served, run_counted, run_bindE, h]

end Context

/-! ## Transfers at a position -/

namespace Positioned

open Context

/-- **Work that is a transfer at a position**, whoever owns the handle under the key. -/
def Serves (t : Positioned α) (key : DescriptorKey) (value : α → β) (work : Engine σ β) : Prop :=
  ∃ serve : HandleId → Plugin σ → Engine σ β,
    work = (lookupHandle t.operation .file key >>= fun id => dispatchHandle t.operation id (serve id)) ∧
      ∀ {c d : Context σ} {id : HandleId} {plugin : Plugin σ},
        Does (selectOwner t.operation .file key) c (.ok (id, plugin)) [] d →
          ∃ result calls world moved, t.Goes plugin.backend (d.shown id) d.world result calls world moved ∧
            Does work c (value <$> result) (madeOn plugin calls) ((d.inWorld world).placing id moved)

/-- **Work that makes exactly the calls of a transfer at a position**, once the owner of the handle under the key is
found: finding it changes neither handles nor world. -/
def Exactly (t : Positioned α) (key : DescriptorKey) (value : α → β) (work : Engine σ β) : Prop :=
  ∀ c id plugin d, (selectOwner t.operation .file key).run.run c = (.ok (id, plugin), d) →
    (c.table .file).find? key = some id ∧ plugin.name = (c.shown id).handle.owner ∧ d.handles = c.handles ∧
      ∃ result calls world moved, t.Goes plugin.backend (c.shown id) c.world result calls world moved ∧
        Does work c (value <$> result) (madeOn plugin calls) ((d.inWorld world).placing id moved)

theorem reading_serves (key : DescriptorKey) (buffer : Bytes) (offset : Nat) :
    (reading buffer offset).Serves key (fun received => (received.count, received.data.overlay buffer))
      (Context.pread key buffer offset : Engine σ (Nat × Bytes)) :=
  ⟨_, rfl, fun h => pread_goes h rfl buffer offset⟩

theorem writing_serves (key : DescriptorKey) (data : Bytes) (offset : Nat) :
    (writing data offset).Serves key (fun count => count) (Context.pwrite key data offset : Engine σ Nat) := by
  refine ⟨_, rfl, fun h => ?_⟩
  obtain ⟨result, calls, world, moved, hgoes, hdoes⟩ := pwrite_goes h rfl data offset
  rw [← id_map' result] at hdoes
  exact ⟨result, calls, world, moved, hgoes, hdoes⟩

/-- What an emulated transfer comes to, and the world that it leaves. -/
def emulation (t : Positioned α) (backend : Backend σ) (opened : OpenHandle) (world : σ) : Except Error α × σ :=
  match backend.respond (.lseek opened (.start t.offset)) world with
  | (.error source, sought) => (.error (.backend t.operation.name source), sought)
  | (.ok landed, sought) =>
    if landed = t.offset then
      let answered := backend.respond (t.plain opened) sought
      (tag t.operation (t.plainReply opened answered.1), answered.2)
    else (.error (.overflow t.operation.name t.offset landed), sought)

/-- There is one way only in which an emulated transfer goes. -/
theorem Emulated.eq_emulation {t : Positioned α} {backend : Backend σ} {opened : OpenHandle} {before after : σ}
    {result : Except Error α} {calls : List Call} {moved : Option Nat}
    (h : t.Emulated backend opened before result calls after moved) :
    t.emulation backend opened before = (result, after) := by
  cases h with
  | unsought hseek => rw [emulation, hseek]
  | misplaced hseek hlanded =>
      rw [emulation, hseek]
      exact if_neg hlanded
  | failed hseek hplain hreply | transferred hseek hplain hreply =>
      rw [emulation, hseek]
      dsimp only
      rw [if_pos rfl, hplain, hreply]
      rfl

/-- What every call of a backend keeps is kept by a transfer, however it goes. -/
theorem Goes.keeps {t : Positioned α} {backend : Backend σ} {opened : OpenHandle} {before after : σ}
    {result : Except Error α} {calls : List Call} {moved : Option Nat} {R : σ → σ → Prop}
    (htrans : ∀ {x y z}, R x y → R y z → R x z) (hcall : ∀ request world, R world (backend.respond request world).2)
    (h : t.Goes backend opened before result calls after moved) : R before after := by
  have hdone {request : Call} {answer : request.Answer} {x y : σ} (hanswer : backend.respond request x = (answer, y)) :
      R x y := by
    have hleft := hcall request x
    rwa [hanswer] at hleft
  cases h with
  | native hnative => exact hdone hnative
  | emulated hnative _ hemulated =>
      refine htrans (hdone hnative) ?_
      cases hemulated with
      | unsought hseek | misplaced hseek => exact hdone hseek
      | failed hseek hplain | transferred hseek hplain => exact htrans (hdone hseek) (hdone hplain)

/-- The calls are known, and what comes of them. -/
theorem Serves.exactly {t : Positioned α} {value : α → β} {work : Engine σ β} (h : t.Serves key value work) :
    t.Exactly key value work := by
  intro c id plugin d hrun
  obtain ⟨serve, -, hgo⟩ := h
  obtain ⟨hdoes, hhandles, hworld⟩ := selectOwner_leaves hrun
  obtain ⟨hfind, hname, -⟩ := selectOwner_does hrun
  have hshown : d.shown id = c.shown id := by rw [shown, shown, hhandles]
  have hgoes := hgo hdoes
  rw [hshown, hworld] at hgoes
  exact ⟨hfind, hname, hhandles, hgoes⟩

end Positioned

namespace Context

namespace Companions

variable {E : Exchange σ}

/-- **In companions the same handle is selected**, and the plugin in the same place. -/
theorem select (F : E.Fair) (operation : Operation) (resource : Resource) (key : DescriptorKey) :
    PairedE (Companions E) (fun found found' => found'.1 = found.1 ∧ E.Placed found.2 found'.2)
      (selectOwner operation resource key) (selectOwner operation resource key) := by
  refine .bindEq (tabled.findHandle resource key) fun id => .bind (openHandle F id).perform fun o o' ho => ?_
  refine .bindEq (abreast.log _ _).perform fun _ => ?_
  exact .bind ((attending F).resolveOwner ho) fun plugin plugin' hplugin => .pure ⟨rfl, hplugin⟩

/-- What is refused at once is refused on both sides. -/
theorem refused (operation : Operation) (error : Error) :
    PairedE (Companions E) Eq (counted operation (throw error) : Engine σ α) (counted operation (throw error)) :=
  abreast.counted operation (.throw error)

/-- The two ways in which a selection can end in companions. -/
inductive Selected (E : Exchange σ) (operation : Operation) (resource : Resource) (key : DescriptorKey)
    (c c' : Context σ) : Prop
  | error {error : Error} {d d' : Context σ}
      (hrun : (selectOwner operation resource key).run.run c = (.error error, d))
      (hrun' : (selectOwner operation resource key).run.run c' = (.error error, d')) (hleft : Companions E d d')
  | ok {id : HandleId} {plugin : Plugin σ} {d d' : Context σ}
      (hrun : (selectOwner operation resource key).run.run c = (.ok (id, plugin), d))
      (hrun' : (selectOwner operation resource key).run.run c' = (.ok (id, plugin.exchange E.swap), d'))
      (hknown : E.Known plugin.backend) (hleft : Companions E d d')

theorem selected (F : E.Fair) (h : Companions E c c') (operation : Operation) (resource : Resource)
    (key : DescriptorKey) : Selected E operation resource key c c' := by
  have hmeets := select F operation resource key c c' h
  rcases hrun : (selectOwner operation resource key).run.run c with ⟨outcome, d⟩
  rcases hrun' : (selectOwner operation resource key).run.run c' with ⟨outcome', d'⟩
  unfold Meets at hmeets
  rw [hrun, hrun'] at hmeets
  obtain ⟨houtcome, hleft⟩ := hmeets
  cases houtcome with
  | error error => exact .error hrun hrun' hleft
  | @ok found found' hfound =>
      obtain ⟨id, plugin⟩ := found
      obtain ⟨id', plugin'⟩ := found'
      obtain ⟨hid, hplugin, hknown⟩ := hfound
      obtain rfl : id' = id := hid
      obtain rfl : plugin' = plugin.exchange E.swap := hplugin
      exact .ok hrun hrun' hknown hleft

/-- Work on a handle whose owner is not found fails in the same way. -/
theorem unserved {error : Error} {d d' : Context σ}
    (hrun : (selectOwner operation resource key).run.run c = (.error error, d))
    (hrun' : (selectOwner operation resource key).run.run c' = (.error error, d')) (hleft : Companions E d d')
    (serve serve' : HandleId → Plugin σ → Engine σ α) {A : α → α → Prop} :
    MeetsE (Companions E) A (lookupHandle operation resource key >>= fun id => dispatchHandle operation id (serve id))
      (lookupHandle operation resource key >>= fun id => dispatchHandle operation id (serve' id)) c c' := by
  unfold MeetsE Meets
  rw [run_unserved hrun serve, run_unserved hrun' serve']
  exact ⟨.error error, (abreast.recordFailure operation error d d' hleft).2⟩

end Companions

/-! ## Transfers side by side -/

/-- **Companions in one of several exchanges**, which may depend on the plugins that there are. -/
def Accompany (Q : Exchange σ → Registry σ → Prop) (c c' : Context σ) : Prop :=
  ∃ E, Q E c.registry ∧ Companions E c c'

theorem Accompany.recording {Q : Exchange σ → Registry σ → Prop} (h : Accompany Q c c') (events events' : List Event) :
    Accompany Q (c.recording events) (c'.recording events') := by
  obtain ⟨E, hE, hc⟩ := h
  exact ⟨E, hE, { hc with }⟩

/-- Two pieces of work of which it is known what they do. -/
theorem Does.meets {T : Context σ → Context σ → Prop} {A : α → α → Prop} {work work' : Engine σ α}
    {result result' : Except Error α} {made made' : List (InstanceId × String × Call)} {e e' : Context σ}
    (h : Does work c result made e) (h' : Does work' c' result' made' e') (hresult : Agrees A result result')
    (hleft : ∀ events events', T (e.recording events) (e'.recording events')) : MeetsE T A work work' c c' := by
  obtain ⟨events, -, hrun⟩ := h
  obtain ⟨events', -, hrun'⟩ := h'
  unfold MeetsE Meets
  rw [hrun, hrun']
  exact ⟨hresult, hleft _ _⟩

namespace Companions

variable {E : Exchange σ} {Q : Exchange σ → Registry σ → Prop}

/-- If no owner is found, then companions stay in the same exchange. -/
theorem unselected {error : Error} {d d' : Context σ}
    (hrun : (selectOwner operation resource key).run.run c = (.error error, d))
    (hrun' : (selectOwner operation resource key).run.run c' = (.error error, d')) (hleft : Companions E d d')
    (hQ : Q E d.registry) (serve serve' : HandleId → Plugin σ → Engine σ α) :
    MeetsE (Accompany Q) Eq (lookupHandle operation resource key >>= fun id => dispatchHandle operation id (serve id))
      (lookupHandle operation resource key >>= fun id => dispatchHandle operation id (serve' id)) c c' := by
  obtain ⟨hagrees, hc⟩ := unserved hrun hrun' hleft serve serve' (A := Eq)
  have hkept : Q E ((lookupHandle operation resource key >>= fun id =>
      dispatchHandle operation id (serve id)).run.run c).2.registry := by
    rw [run_unserved hrun serve]
    exact hQ
  exact ⟨hagrees, E, hkept, hc⟩

/-- **Plain uses side by side**: it is enough to say what comes of the calls on the two owners. -/
theorem plain (F : E.Fair) (h : Companions E c c') (p : Plain α) (value : α → β)
    (hlost : ∀ error d, (selectOwner p.operation .file key).run.run c = (.error error, d) → Q E d.registry)
    (hserve : ∀ id plugin d d' answer after answer' after',
      (selectOwner p.operation .file key).run.run c = (.ok (id, plugin), d) → E.Known plugin.backend →
      Companions E d d' → plugin.backend.respond (p.request (d.shown id)) d.world = (answer, after) →
      (E.swap plugin.backend).respond (p.request (d'.shown id)) d'.world = (answer', after') →
      ((p.serve key value).run.run c).1 = value <$> tag p.operation (p.reply (d.shown id) answer) →
        p.reply (d'.shown id) answer' = p.reply (d.shown id) answer ∧
          Accompany Q (p.recorded id (p.reply (d.shown id) answer) (d.inWorld after))
            (p.recorded id (p.reply (d.shown id) answer) (d'.inWorld after'))) :
    MeetsE (Accompany Q) Eq (p.serve key value) (p.serve key value) c c' := by
  cases h.selected F p.operation .file key with
  | error hrun hrun' hleft => exact unselected hrun hrun' hleft (hlost _ _ hrun) _ _
  | @ok id plugin d d' hrun hrun' hknown hleft =>
      rcases hcall : plugin.backend.respond (p.request (d.shown id)) d.world with ⟨answer, after⟩
      rcases hcall' : (E.swap plugin.backend).respond (p.request (d'.shown id)) d'.world with ⟨answer', after'⟩
      have hdoes := p.goes value (selectOwner_leaves hrun).1 rfl hcall
      obtain ⟨hreply, hafter⟩ :=
        hserve id plugin d d' _ _ _ _ hrun hknown hleft hcall hcall' hdoes.result_eq
      have hdoes' := p.goes value (selectOwner_leaves hrun').1 rfl hcall'
      rw [hreply] at hdoes'
      exact hdoes.meets hdoes' (.refl _) hafter.recording

/-- **Transfers at a position side by side**: it is enough to say what comes of them, wherever they go. -/
theorem positioned (F : E.Fair) (h : Companions E c c') {t : Positioned α} {value : α → β} {work : Engine σ β}
    (hwork : t.Serves key value work)
    (hlost : ∀ error d, (selectOwner t.operation .file key).run.run c = (.error error, d) → Q E d.registry)
    (hserve : ∀ id plugin d d' result calls world moved result' calls' world' moved',
      (selectOwner t.operation .file key).run.run c = (.ok (id, plugin), d) → E.Known plugin.backend →
      Companions E d d' → t.Goes plugin.backend (d.shown id) d.world result calls world moved →
      t.Goes (E.swap plugin.backend) (d'.shown id) d'.world result' calls' world' moved' →
        result' = result ∧ Accompany Q ((d.inWorld world).placing id moved) ((d'.inWorld world').placing id moved')) :
    MeetsE (Accompany Q) Eq work work c c' := by
  obtain ⟨serve, hwork, hgo⟩ := hwork
  cases h.selected F t.operation .file key with
  | error hrun hrun' hleft =>
      rw [hwork]
      exact unselected hrun hrun' hleft (hlost _ _ hrun) serve serve
  | @ok id plugin d d' hrun hrun' hknown hleft =>
      obtain ⟨result, calls, world, moved, hgoes, hdoes⟩ := hgo (selectOwner_leaves hrun).1
      obtain ⟨result', calls', world', moved', hgoes', hdoes'⟩ := hgo (selectOwner_leaves hrun').1
      obtain ⟨rfl, hafter⟩ := hserve id plugin d d' _ _ _ _ _ _ _ _ hrun hknown hleft hgoes hgoes'
      exact hdoes.meets hdoes' (.refl _) hafter.recording

/-! ## A context beside itself -/

/-- What goes the same way in companions keeps a context a companion of itself. -/
theorem self {A : α → α → Prop} {work : Engine σ α} (hwork : PairedE (Companions E) A work work)
    (h : Companions E c c) {outcome : Except Error α} (hrun : work.run.run c = (outcome, d)) : Companions E d d := by
  have hleft : Companions E (work.run.run c).2 (work.run.run c).2 := (hwork c c h).2
  rwa [hrun] at hleft

theorem self_recording (h : Companions E c c) (events : List Event) :
    Companions E (c.recording events) (c.recording events) := { h with }

/-- Another value is made of the result. -/
theorem self_map {work : Engine σ α} (f : α → β) (h : Companions E (work.run.run c).2 (work.run.run c).2) :
    Companions E ((f <$> work).run.run c).2 ((f <$> work).run.run c).2 := by
  rw [run_map]
  exact h

/-- The owner that is selected is known, and stands in for itself. -/
theorem self_selected (F : E.Fair) (h : Companions E c c)
    (hrun : (selectOwner operation resource key).run.run c = (.ok (id, plugin), d)) :
    E.Known plugin.backend ∧ Companions E d d := by
  have hmeets := select F operation resource key c c h
  unfold Meets at hmeets
  rw [hrun] at hmeets
  obtain ⟨hfound, hleft⟩ := hmeets
  cases hfound with
  | ok hfound => exact ⟨hfound.2.2, hleft⟩

theorem self_unselected {error : Error} (F : E.Fair) (h : Companions E c c)
    (hrun : (selectOwner operation resource key).run.run c = (.error error, d))
    (serve : HandleId → Plugin σ → Engine σ α) :
    let work := lookupHandle operation resource key >>= fun id => dispatchHandle operation id (serve id)
    Companions E (work.run.run c).2 (work.run.run c).2 :=
  (unserved hrun hrun (self (select F operation resource key) h hrun) serve serve (A := Eq)).2

/-- **A plain use of a file** keeps a context its own companion if what comes of the call does. -/
theorem self_plain (F : E.Fair) (h : Companions E c c) (p : Plain α) (value : α → β)
    (hserve : ∀ id plugin d answer after,
      (selectOwner p.operation .file key).run.run c = (.ok (id, plugin), d) → E.Known plugin.backend →
      Companions E d d → plugin.backend.respond (p.request (d.shown id)) d.world = (answer, after) →
        Companions E (p.recorded id (p.reply (d.shown id) answer) (d.inWorld after))
          (p.recorded id (p.reply (d.shown id) answer) (d.inWorld after))) :
    Companions E ((p.serve key value).run.run c).2 ((p.serve key value).run.run c).2 := by
  rcases hrun : (selectOwner p.operation .file key).run.run c with ⟨error | ⟨id, plugin⟩, d⟩
  · exact self_unselected F h hrun _
  · obtain ⟨hknown, hleft⟩ := self_selected F h hrun
    rcases hcall : plugin.backend.respond (p.request (d.shown id)) d.world with ⟨answer, after⟩
    obtain ⟨events, -, hdone⟩ := p.goes value (selectOwner_leaves hrun).1 rfl hcall
    rw [hdone]
    exact self_recording (hserve id plugin d answer after hrun hknown hleft hcall) _

/-- **A transfer at a position** keeps a context its own companion if it does wherever it goes. -/
theorem self_positioned (F : E.Fair) (h : Companions E c c) {t : Positioned α} {value : α → β} {work : Engine σ β}
    (hwork : t.Serves key value work)
    (hserve : ∀ id plugin d result calls world moved,
      (selectOwner t.operation .file key).run.run c = (.ok (id, plugin), d) → E.Known plugin.backend →
      Companions E d d → t.Goes plugin.backend (d.shown id) d.world result calls world moved →
      (work.run.run c).1 = value <$> result →
        Companions E ((d.inWorld world).placing id moved) ((d.inWorld world).placing id moved)) :
    Companions E (work.run.run c).2 (work.run.run c).2 := by
  obtain ⟨serve, hwork, hgo⟩ := hwork
  rcases hrun : (selectOwner t.operation .file key).run.run c with ⟨error | ⟨id, plugin⟩, d⟩
  · rw [hwork]
    exact self_unselected F h hrun serve
  · obtain ⟨hknown, hleft⟩ := self_selected F h hrun
    obtain ⟨result, calls, world, moved, hgoes, events, -, hdone⟩ := hgo (selectOwner_leaves hrun).1
    have houtcome : (work.run.run c).1 = value <$> result := congrArg Prod.fst hdone
    rw [hdone]
    exact self_recording (hserve id plugin d result calls world moved hrun hknown hleft hgoes houtcome) _

end Companions

end Context

end StorageDispatch
