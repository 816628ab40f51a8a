import StorageDispatch.Proofs.Context.Closing
import StorageDispatch.Proofs.Context.Pairs

set_option autoImplicit false

/-! # Operations side by side

Whole operations, carried out in two contexts that are related by `T`. They come to the same and leave related
contexts, if their small steps do:

* `Tabled T` for work on tables, which have to be the same in both contexts;
* `Alongside T P` for operations on URLs: where one side finds a plugin for a URL, the other one finds a plugin
  that is related by `P`, and the two give the same answers to what is not about a handle;
* `Attending T P O G` for operations on the handles that meet `G`, which the two sides see as related by `O`.

Transfers are not among them. What they do to a handle, and to what is open behind it, is told apart.
-/

namespace StorageDispatch

variable {σ α β γ : Type}

namespace Context

variable {T : Context σ → Context σ → Prop}

/-! ## Tables -/

/-- **Relations between contexts with the same tables**, and no part in what is in them. -/
structure Tabled (T : Context σ → Context σ → Prop) : Prop extends Abreast T where
  config_eq : ∀ {c c'}, T c c' → c'.config = c.config
  table?_eq : ∀ {c c'}, T c c' → ∀ resource, c'.table? resource = c.table? resource
  withTable : ∀ {c c'}, T c c' → ∀ resource table, T (c.withTable resource table) (c'.withTable resource table)

namespace Tabled

variable (F : Tabled T)

include F

theorem table_eq {c c' : Context σ} (h : T c c') (resource : Resource) :
    c'.table resource = c.table resource := by
  rw [table, table, newTable, newTable, F.config_eq h, F.table?_eq h]

theorem useTable (resource : Resource) : Paired T Eq (Context.useTable resource) (Context.useTable resource) := by
  intro c c' h
  have htable : c'.table resource = c.table resource := F.table_eq h resource
  refine ⟨htable.symm, ?_⟩
  show T (c.withTable resource (c.table resource)) (c'.withTable resource (c'.table resource))
  rw [htable]
  exact F.withTable h resource _

theorem storeTable (resource : Resource) (table : DescriptorTable HandleId) :
    Paired T Eq (Context.storeTable resource table) (Context.storeTable resource table) := by
  have hput : Paired T Eq (modify fun context : Context σ => context.withTable resource table : Act σ PUnit)
      (modify fun context : Context σ => context.withTable resource table) :=
    fun _ _ h => ⟨rfl, F.withTable h resource table⟩
  exact hput.bindEq fun _ => F.measure _ _

/-- Reading something off a table. -/
theorem readOff (resource : Resource) (f : DescriptorTable HandleId → Except Error α) :
    PairedE T Eq (do Context.fromOutcome (f (← perform (Context.useTable resource))) : Engine σ α)
      (do Context.fromOutcome (f (← perform (Context.useTable resource)))) :=
  .bindEq (F.useTable resource).perform fun _ => .fromOutcome (.refl _)

theorem findHandle (resource : Resource) (key : DescriptorKey) :
    PairedE T Eq (Context.findHandle resource key) (Context.findHandle resource key) :=
  F.readOff resource fun table => table.get key

theorem findRawHandle (resource : Resource) (raw : UInt64) :
    PairedE T Eq (Context.findRawHandle resource raw) (Context.findRawHandle resource raw) :=
  F.readOff resource fun table => table.getRaw raw

theorem lookupHandle (operation : Operation) (resource : Resource) (key : DescriptorKey) :
    PairedE T Eq (Context.lookupHandle operation resource key) (Context.lookupHandle operation resource key) :=
  F.counted operation (F.findHandle resource key)

theorem insertHandle (resource : Resource) (id : HandleId) :
    PairedE T Eq (Context.insertHandle resource id) (Context.insertHandle resource id) :=
  .bindEq (F.useTable resource).perform fun _ => .bindEq (.fromOutcome (.refl _)) fun _ =>
    .bindEq (F.storeTable resource _).perform fun _ => .pure rfl

theorem removeHandle (resource : Resource) (key : DescriptorKey) :
    PairedE T Eq (Context.removeHandle resource key) (Context.removeHandle resource key) :=
  .bindEq (F.useTable resource).perform fun _ => .bindEq (.fromOutcome (.refl _)) fun _ =>
    .bindEq (F.storeTable resource _).perform fun _ => .pure rfl

theorem clearTable (resource : Resource) :
    Paired T Eq (Context.clearTable resource) (Context.clearTable resource) :=
  (F.useTable resource).bindEq fun _ => (F.storeTable resource _).bindEq fun _ => .pure rfl

theorem clearMadeTable (resource : Resource) :
    Paired T Eq (Context.clearMadeTable resource) (Context.clearMadeTable resource) := by
  refine .get fun c c' h => ?_
  rw [F.table?_eq h]
  cases c.table? resource with
  | none => exact ⟨rfl, h⟩
  | some table => exact F.clearTable resource c c' h

/-- The end of a context. -/
theorem teardown (hregistry : Paired T Eq Registry.teardown Registry.teardown) :
    Paired T Eq Context.teardown Context.teardown := by
  refine (F.clearMadeTable .file).bindEq fun files => (F.clearMadeTable .directory).bindEq fun directories => ?_
  split
  · exact (F.log _ _).bindEq fun _ => hregistry
  · exact hregistry

end Tabled

/-! ## URLs -/

variable {P : Plugin σ → Plugin σ → Prop} {p p' : Plugin σ}

/-- A URL is resolved to what the registries find for it, unless it is empty. -/
theorem PairedE.resolveUrl {operation : Operation} {url : String}
    (hfind : PairedE T P (Registry.findFor url operation.capability) (Registry.findFor url operation.capability)) :
    PairedE T P (Context.resolveUrl operation url) (Context.resolveUrl operation url) := by
  unfold Context.resolveUrl
  split
  · exact .throw _
  · exact hfind

/-- A URL is served by the plugins that it is resolved to. -/
theorem Abreast.dispatchUrl (F : Abreast T) {request : UrlRequest α}
    (hresolve : PairedE T P (Context.resolveUrl request.operation request.url)
      (Context.resolveUrl request.operation request.url))
    (hcall : ∀ p p', P p p' →
      Paired T Eq (Context.call p.backend request.call) (Context.call p'.backend request.call)) :
    PairedE T Eq (Context.dispatchUrl request) (Context.dispatchUrl request) := by
  refine .bindEq (F.log _ _).perform fun _ => F.counted _ ?_
  refine .bind hresolve fun p p' hp => F.timedEngine _ _ _ ?_
  exact .bindEq (hcall p p' hp).perform fun answer => .fromReply _ _

/-- **Relations along which URLs are served by related plugins.** -/
structure Alongside (T : Context σ → Context σ → Prop) (P : Plugin σ → Plugin σ → Prop) : Prop
    extends Abreast T where
  name_eq : ∀ {p p'}, P p p' → p'.name = p.name
  findFor : ∀ url capability,
    PairedE T P (Registry.findFor url capability) (Registry.findFor url capability)
  ask : ∀ {p p'}, P p p' → ∀ request : Call, request.about? = none → request ≠ .teardown →
    Paired T Eq (Context.call p.backend request) (Context.call p'.backend request)

namespace Alongside

variable (F : Alongside T P)

include F

theorem resolveUrl (operation : Operation) (url : String) :
    PairedE T P (Context.resolveUrl operation url) (Context.resolveUrl operation url) := .resolveUrl (F.findFor url _)

/-- **A URL is served by related plugins.** -/
theorem dispatchUrl {request : UrlRequest α} (h : request.call.about? = none)
    (hteardown : request.call ≠ .teardown) :
    PairedE T Eq (Context.dispatchUrl request) (Context.dispatchUrl request) :=
  F.toAbreast.dispatchUrl (F.resolveUrl _ _) fun _ _ hp => F.ask hp _ h hteardown

theorem dispatchPair {request : PairRequest} (h : request.call.about? = none)
    (hteardown : request.call ≠ .teardown) :
    PairedE T Eq (Context.dispatchPair request : Engine σ Unit) (Context.dispatchPair request) := by
  refine .bindEq (F.log _ _).perform fun _ => F.counted _ ?_
  refine .bind (F.resolveUrl _ _) fun p p' hp => .bind (F.resolveUrl _ _) fun q q' hq => ?_
  rw [F.name_eq hp, F.name_eq hq]
  split
  · refine F.timedEngine _ _ _ (.bindEq (F.ask hp _ h hteardown).perform fun answer => ?_)
    exact .fromReply _ _
  · exact .throw _

theorem resolveBatch (operation : Operation) (urls : List String) {serve : Plugin σ → Act σ β}
    (hserve : ∀ p p', P p p' → Paired T Eq (serve p) (serve p')) (otherwise : List (Except Error α) → β) :
    Paired T Eq (Context.resolveBatch operation urls serve otherwise)
      (Context.resolveBatch operation urls serve otherwise) := by
  refine (F.log _ _).bindEq fun _ => ?_
  cases urls with
  | nil => exact .pure rfl
  | cons first rest =>
      refine (F.resolveUrl operation first).run.bind fun resolved resolved' hresolved => ?_
      cases hresolved with
      | ok hp => exact F.timed _ _ _ (hserve _ _ hp)
      | error error => exact (F.failBatch operation _ error).bindEq fun _ => .pure rfl

/-- **A batch is served by related plugins.** -/
theorem dispatchBatch {request : BatchRequest α} (h : request.call.about? = none)
    (hteardown : request.call ≠ .teardown) :
    Paired T Eq (Context.dispatchBatch request : Act σ (Option String × List (Except Error α)))
      (Context.dispatchBatch request) := by
  refine F.resolveBatch _ _ (fun p p' hp => (F.ask hp _ h hteardown).bindEq fun answer => ?_) _
  rw [F.name_eq hp]
  exact (F.spread _ _ _ _).bindEq fun _ => .pure rfl

theorem unlinkEach (hp : P p p') (urls : List String) :
    Paired T Eq (Context.unlinkEach p urls) (Context.unlinkEach p' urls) :=
  (F.log _ _).bindEq fun _ => .mapM fun url => (F.ask hp (.unlink url) rfl nofun).bindEq fun _ => F.settle _ _

theorem unlinkList (urls : List String) :
    Paired T Eq (Context.unlinkList urls) (Context.unlinkList urls) := by
  refine F.resolveBatch _ _ (fun p p' hp => (F.ask hp (.unlinkList urls) rfl nofun).bindEq fun answer => ?_) _
  cases answer with
  | none => exact F.unlinkEach hp urls
  | some replies =>
      dsimp only
      rw [F.name_eq hp]
      exact F.spread _ _ _ _

end Alongside

/-! ## Handles -/

variable {O : OpenHandle → OpenHandle → Prop} {G : HandleId → Prop} {id : HandleId}

/-- **Relations along which handles are served by related plugins.** -/
structure Attending (T : Context σ → Context σ → Prop) (P : Plugin σ → Plugin σ → Prop)
    (O : OpenHandle → OpenHandle → Prop) (G : HandleId → Prop) : Prop extends Alongside T P where
  opened : ∀ {id}, G id → Paired T O (Context.openHandle id) (Context.openHandle id)
  owner_eq : ∀ {o o'}, O o o' → o'.handle.owner = o.handle.owner
  path_eq : ∀ {o o'}, O o o' → o'.handle.path = o.handle.path
  findOwner : ∀ {o o'}, O o o' →
    PairedE T P (Registry.findByName o.handle.owner) (Registry.findByName o.handle.owner)
  readdir : ∀ {p p' o o'}, P p p' → O o o' →
    Paired T Eq (Context.call p.backend (.readdir o)) (Context.call p'.backend (.readdir o'))
  readdirPlus : ∀ {p p' o o'}, P p p' → O o o' →
    Paired T Eq (Context.call p.backend (.readdirPlus o)) (Context.call p'.backend (.readdirPlus o'))
  close : ∀ {p p' o o'}, P p p' → O o o' →
    Paired T Eq (Context.call p.backend (.close o)) (Context.call p'.backend (.close o'))
  closedir : ∀ {p p' o o'}, P p p' → O o o' →
    Paired T Eq (Context.call p.backend (.closedir o)) (Context.call p'.backend (.closedir o'))

namespace Attending

variable (F : Attending T P O G)

include F

theorem resolveOwner {o o' : OpenHandle} (ho : O o o') :
    PairedE T P (Context.resolveOwner o.handle.owner) (Context.resolveOwner o'.handle.owner) := by
  rw [F.owner_eq ho]
  refine .tryCatch (F.findOwner ho) fun error => ?_
  cases error <;> exact .throw _

/-- **A handle is served by related plugins.** -/
theorem dispatchHandle (operation : Operation) (hid : G id) {serve : Plugin σ → Engine σ α}
    {serve' : Plugin σ → Engine σ β} {A : α → β → Prop}
    (hserve : ∀ p p', P p p' → PairedE T A (serve p) (serve' p')) :
    PairedE T A (Context.dispatchHandle operation id serve) (Context.dispatchHandle operation id serve') := by
  refine .bind (F.opened hid).perform fun o o' ho => ?_
  refine .bindEq (F.log _ _).perform fun _ => F.counted _ ?_
  exact .bind (F.resolveOwner ho) fun p p' hp => F.timedEngine _ _ _ (hserve p p' hp)

theorem nextEntry (operation : Operation) (hid : G id) :
    PairedE T Eq (Context.nextEntry operation id) (Context.nextEntry operation id) := by
  refine F.dispatchHandle _ hid fun p p' hp => .bind (F.opened hid).perform fun o o' ho => ?_
  exact .bindEq (F.readdir hp ho).perform fun answer => .fromReply _ _

theorem nativeListing (hid : G id) :
    PairedE T Eq (Context.nativeListing id) (Context.nativeListing id) := by
  refine F.dispatchHandle _ hid fun p p' hp => .bind (F.opened hid).perform fun o o' ho => ?_
  refine .bindEq (F.readdirPlus hp ho).perform fun answer => ?_
  cases answer with
  | some reply => exact .mapEq _ (.fromReply _ _)
  | none => exact .pure rfl

theorem withMetadata (hid : G id) (entry : DirEntry) :
    PairedE T Eq (Context.withMetadata id entry) (Context.withMetadata id entry) := by
  refine .bind (F.opened hid).perform fun o o' ho => ?_
  dsimp only
  rw [F.path_eq ho, F.owner_eq ho]
  cases o.handle.path with
  | none => exact .throw _
  | some dir =>
      refine .bindEq (F.log _ _).perform fun _ => .bindEq (F.dispatchUrl rfl ?_) fun _ => .pure rfl
      nofun

theorem emulateReaddirPlus (hid : G id) :
    PairedE T Eq (Context.emulateReaddirPlus id) (Context.emulateReaddirPlus id) := by
  refine .bindEq (F.nextEntry _ hid) fun next => ?_
  cases next with
  | none => exact .pure rfl
  | some entry => exact (F.withMetadata hid entry).mapEq some

theorem closeWithOwner (operation : Operation) (resource : Resource) (hid : G id) :
    PairedE T Eq (Context.closeWithOwner operation resource id) (Context.closeWithOwner operation resource id) := by
  refine F.dispatchHandle _ hid fun p p' hp => .bind (F.opened hid).perform fun o o' ho => ?_
  cases resource with
  | file => exact .bindEq (F.close hp ho).perform fun answer => .fromReply _ _
  | directory => exact .bindEq (F.closedir hp ho).perform fun answer => .fromReply _ _

theorem closeRejected (operation : Operation) (resource : Resource) (hid : G id) (reason : Error) :
    Paired T Eq (Context.closeRejected operation resource id reason)
      (Context.closeRejected operation resource id reason) := by
  refine (F.log _ _).bindEq fun _ => ?_
  refine (F.closeWithOwner operation resource hid).run.bind fun closed closed' hclosed => ?_
  cases hclosed with
  | ok => exact .pure rfl
  | error error => exact F.log _ _

theorem storeAdopted (D : Tabled T) (operation : Operation) (resource : Resource) (hid : G id) :
    PairedE T Eq (Context.storeAdopted operation resource id) (Context.storeAdopted operation resource id) := by
  refine .bind (D.insertHandle resource id).run.perform fun stored stored' hstored => ?_
  cases hstored with
  | ok hkey => exact .pure hkey
  | error error => exact .bindEq (F.closeRejected _ _ hid _).perform fun _ => .throw _

end Attending

end Context

end StorageDispatch
