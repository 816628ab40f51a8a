import StorageDispatch.Proofs.Context.Flow

set_option autoImplicit false

/-! # What the public operations do to a context

The public operations fall into layers by what they need of a relation to move along it. Most of them are
`Request.steady`: they look for plugins, call them, and look handles up, so they move along every
`Handling` relation. Opening and closing, and the tables' own operations, take handles in and change what is
in the tables; with them, the `Request.ordinary` ones move along every `Storing` relation. The three
requests that remain retry a discovery or tear something down.

A `Frame` is a relation that looks at neither handles nor tables. It is a `Storing` relation
(`Frame.storing`), so all ordinary requests respect it (`Request.respects_serve`): none of them touches the
registry except to discover its plugins.
-/

namespace StorageDispatch

namespace Context

variable {σ α β ε : Type}

/-! ## Serving a handle -/

/-- **Relations along which a plugin serves a handle**: the plugin may be called about it, but not to close
it, and the recorded position may be moved. -/
structure Serves (plugin : Plugin σ) (id : HandleId) (R : Context σ → Context σ → Prop) : Prop
    extends Flow R where
  talk : ∀ request opened c, request.about? = some opened → opened.id = id → request.closes = false →
    R c ((Context.call plugin.backend request).run c).2
  move : ∀ (offset : FileHandle → Nat) c,
    R c ((Context.updateHandle id fun handle => handle.setOffset (offset handle)).run c).2

/-- Work that does nothing but serve a handle by a plugin. -/
def Talks (plugin : Plugin σ) (id : HandleId) (work : Engine σ α) : Prop :=
  ∀ R, Serves plugin id R → Keeps R work

namespace Serves

variable {R : Context σ → Context σ → Prop} {plugin : Plugin σ} {id : HandleId}
  (F : Serves plugin id R)

omit F in
/-- Work with the handle as it is now. -/
theorem opened {f : OpenHandle → Engine σ α}
    (hf : ∀ opened : OpenHandle, opened.id = id → Keeps R (f opened)) :
    Keeps R (Context.perform (Context.openHandle id) >>= f) :=
  fun c => hf ⟨id, (c.handles[id]?).getD default⟩ rfl c

include F

theorem talkE {request : Call} {opened : OpenHandle} (h : request.about? = some opened)
    (hid : opened.id = id) (hopen : request.closes = false) :
    Keeps R (Context.perform (Context.call plugin.backend request) : Engine σ request.Answer) :=
  Respects.perform fun c => F.talk request opened c h hid hopen

theorem advance (count : Nat) :
    Respects R (Context.updateHandle id fun handle => handle.advance count : Act σ Unit) :=
  F.move fun handle => min (handle.offset + count) maxOffset

theorem emulate (operation : Operation) (offset size : Nat)
    {transfer : OpenHandle → Act σ (Reply α)}
    (htransfer : ∀ opened : OpenHandle, opened.id = id → Respects R (transfer opened)) (count : α → Nat) :
    Keeps R (Context.emulate operation plugin id offset size transfer count) := by
  refine opened fun opened hid => F.bindE (F.log rfl).perform fun _ => ?_
  refine F.bindE (F.emulated operation).perform fun _ => F.bindE (F.talkE rfl hid rfl) fun _ => ?_
  refine F.bindE (F.fromReply _ _) fun landed => ?_
  split
  · exact F.bindE (htransfer opened hid).perform fun _ => F.bindE (F.fromReply _ _) fun _ =>
      F.bindE (Respects.perform fun c => F.move (fun _ => _) c) fun _ => F.pureE _
  · exact F.throwE _

end Serves

theorem about?_closingCall (resource : Resource) (opened : OpenHandle) :
    (closingCall resource opened).about? = some opened := by
  cases resource <;> rfl

theorem run_storeAdopted (operation : Operation) (resource : Resource) (id : HandleId) (c : Context σ) :
    (storeAdopted operation resource id).run.run c =
      match (insertHandle resource id).run.run c with
      | (.ok key, d) => (.ok key, d)
      | (.error error, d) => (.error error, ((closeRejected operation resource id error).run d).2) := by
  unfold storeAdopted
  rw [run_perform_bindE]
  rcases (insertHandle resource id).run.run c with ⟨outcome, d⟩
  cases outcome <;> rfl

/-! ## Listings with metadata -/

/-- The metadata of an entry is found by a stat. -/
theorem Routing.withMetadata {R : Context σ → Context σ → Prop} (A : Routing R) (id : HandleId) (entry : DirEntry) :
    Keeps R (Context.withMetadata id entry : Engine σ (DirEntry × FileStat)) := by
  refine A.bindE (A.openHandle id).perform fun opened => ?_
  dsimp only
  cases opened.handle.path with
  | none => exact A.throwE _
  | some dir =>
      exact A.bindE (A.log rfl).perform fun _ => A.bindE (A.dispatchUrl rfl nofun) fun _ => A.pureE _

/-- **The dispatcher lists an entry itself**, for a handle whose backend has no listing with metadata: the handle
is found under a key, its entry is listed, and a context is left in which the metadata is not known yet. -/
def Lists (key : DescriptorKey) (c : Context σ) (id : HandleId) (entry : DirEntry) (f : Context σ) : Prop :=
  ∃ d e, (lookupHandle .readdirPlus .directory key).run.run c = (.ok id, d) ∧
    (nativeListing id).run.run d = (.ok none, e) ∧
    (nextEntry .readdirPlus id).run.run e = (.ok (some entry), f)

/-- The dispatcher has listed an entry itself. -/
def ListedAlready (key : DescriptorKey) (c : Context σ) : Prop := ∃ id entry f, Lists key c id entry f

/-- What is left to do then is to find the metadata. -/
theorem Lists.run_eq {key : DescriptorKey} {c f : Context σ} {id : HandleId} {entry : DirEntry}
    (h : Lists key c id entry f) :
    (readdirPlus key).run.run c = (some <$> withMetadata id entry : Engine σ _).run.run f := by
  obtain ⟨d, e, hlookup, hnative, hnext⟩ := h
  unfold readdirPlus
  rw [run_bindE, hlookup]
  dsimp only
  rw [run_bindE, hnative]
  dsimp only
  rw [emulateReaddirPlus, run_bindE, hnext]

/-! ## Requests on handles -/

/-- **Relations along which handles are looked up and served.** `G id c` tells for which handles this may
be done: those that are found in a table, at least. -/
structure Handling (G : HandleId → Context σ → Prop) (R : Context σ → Context σ → Prop) : Prop
    extends Finding R where
  use : ∀ resource c, R c ((Context.useTable resource).run c).2
  found : ∀ resource key id c, (c.table resource).find? key = some id →
    G id ((Context.useTable resource).run c).2
  stays : ∀ id c d, R c d → G id c → G id d
  handle : ∀ {α : Type} (operation : Operation) (id : HandleId) (serve : Plugin σ → Engine σ α) (c),
    G id c → (∀ plugin, Talks plugin id (serve plugin)) →
      R c ((Context.dispatchHandle operation id serve).run.run c).2

namespace Handling

variable {G : HandleId → Context σ → Prop} {R : Context σ → Context σ → Prop} (F : Handling G R)

include F

theorem useTable (resource : Resource) :
    Respects R (Context.useTable resource : Act σ (DescriptorTable HandleId)) := F.use resource

theorem findHandle (resource : Resource) (key : DescriptorKey) :
    Keeps R (Context.findHandle resource key : Engine σ HandleId) :=
  F.bindE (F.useTable resource).perform fun _ => F.fromOutcome _

theorem findRawHandle (resource : Resource) (raw : UInt64) :
    Keeps R (Context.findRawHandle resource raw : Engine σ HandleId) :=
  F.bindE (F.useTable resource).perform fun _ => F.fromOutcome _

theorem lookupHandle (operation : Operation) (resource : Resource) (key : DescriptorKey) :
    Keeps R (Context.lookupHandle operation resource key : Engine σ HandleId) :=
  F.counted operation (F.findHandle resource key)

theorem summarize : Respects R (Context.summarize : Act σ Summary) :=
  F.bind (F.useTable .file) fun _ => F.bind (F.useTable .directory) fun _ =>
    F.bind F.get fun _ => F.pure _

/-- Work on the handle under a key may rely on it being in the table. -/
theorem served (operation : Operation) (resource : Resource) (key : DescriptorKey)
    {f : HandleId → Engine σ α} (hf : ∀ id c, G id c → R c ((f id).run.run c).2) :
    Keeps R (Context.lookupHandle operation resource key >>= f) := by
  intro c
  refine F.bindAt (F.lookupHandle operation resource key c) fun id d hlookup => hf id d ?_
  obtain ⟨hfind, rfl⟩ := lookupHandle_ok hlookup
  exact F.found resource key id c hfind

/-! ## Files -/

theorem read (key : DescriptorKey) (buffer : Bytes) :
    Keeps R (Context.read key buffer : Engine σ (Nat × Bytes)) := by
  unfold Context.read
  split
  · exact F.counted _ (F.throwE _)
  · exact F.served _ _ _ fun _ c hid => F.handle _ _ _ c hid fun _ _ S =>
      Serves.opened fun _ hopened => S.bindE (S.talkE rfl hopened rfl) fun _ =>
        S.bindE (S.fromReply _ _) fun _ => S.bindE (S.advance _).perform fun _ => S.pureE _

theorem write (key : DescriptorKey) (data : Bytes) :
    Keeps R (Context.write key data : Engine σ Nat) := by
  unfold Context.write
  split
  · exact F.counted _ (F.throwE _)
  · exact F.served _ _ _ fun _ c hid => F.handle _ _ _ c hid fun _ _ S =>
      Serves.opened fun _ hopened => S.bindE (S.talkE rfl hopened rfl) fun _ =>
        S.bindE (S.fromReply _ _) fun _ => S.bindE (S.advance _).perform fun _ => S.pureE _

theorem lseek (key : DescriptorKey) (target : SeekTarget) :
    Keeps R (Context.lseek key target : Engine σ Nat) :=
  F.served _ _ _ fun _ c hid => F.handle _ _ _ c hid fun _ _ S =>
    Serves.opened fun _ hopened => S.bindE (S.talkE rfl hopened rfl) fun _ =>
      S.bindE (S.fromReply _ _) fun offset => S.bindE (Respects.perform (S.move fun _ => offset)) fun _ =>
        S.pureE _

theorem pread (key : DescriptorKey) (buffer : Bytes) (offset : Nat) :
    Keeps R (Context.pread key buffer offset : Engine σ (Nat × Bytes)) := by
  refine F.served _ _ _ fun id c hid => F.handle _ _ _ c hid fun plugin R S => ?_
  refine Serves.opened fun opened hopened => S.bindE (S.talkE rfl hopened rfl) fun answer => ?_
  cases answer with
  | some reply => exact S.bindE (S.fromReply _ _) fun _ => S.pureE _
  | none =>
      refine S.bindE (S.emulate _ _ _ (fun opened hopened c => ?_) _) fun _ => S.pureE _
      exact S.talk _ opened c rfl hopened rfl

theorem pwrite (key : DescriptorKey) (data : Bytes) (offset : Nat) :
    Keeps R (Context.pwrite key data offset : Engine σ Nat) := by
  refine F.served _ _ _ fun id c hid => F.handle _ _ _ c hid fun plugin R S => ?_
  refine Serves.opened fun opened hopened => S.bindE (S.talkE rfl hopened rfl) fun answer => ?_
  cases answer with
  | some reply => exact S.fromReply _ _
  | none => exact S.emulate _ _ _ (fun opened hopened c => S.talk _ opened c rfl hopened rfl) _

/-! ## Directories -/

theorem nextEntry (operation : Operation) {id : HandleId} {c : Context σ} (hid : G id c) :
    R c ((Context.nextEntry operation id).run.run c).2 :=
  F.handle _ _ _ c hid fun _ _ S => Serves.opened fun _ hopened =>
    S.bindE (S.talkE rfl hopened rfl) fun _ => S.fromReply _ _

theorem nativeListing {id : HandleId} {c : Context σ} (hid : G id c) :
    R c ((Context.nativeListing id).run.run c).2 := by
  refine F.handle _ _ _ c hid fun plugin R S => ?_
  refine Serves.opened fun opened hopened => S.bindE (S.talkE rfl hopened rfl) fun answer => ?_
  cases answer with
  | some reply => exact (S.fromReply _ _).map _
  | none => exact S.pureE _

theorem emulateReaddirPlus (A : Routing R) {id : HandleId} {c : Context σ} (hid : G id c) :
    R c ((Context.emulateReaddirPlus id).run.run c).2 := by
  refine F.bindAt (F.nextEntry _ hid) fun next d _ => ?_
  suffices h : Keeps R _ from h d
  cases next with
  | none => exact F.pureE _
  | some entry => exact (A.withMetadata id entry).map _

theorem readdirPlus (A : Routing R) (key : DescriptorKey) :
    Keeps R (Context.readdirPlus key : Engine σ (Option (DirEntry × FileStat))) := by
  refine F.served _ _ _ fun id c hid => ?_
  have hnative := F.nativeListing hid
  refine F.bindAt hnative fun native d hrun => ?_
  cases native with
  | some entry => exact F.pureE _ d
  | none =>
      -- The handle is as good as before, since the listing moved along the relation.
      have hleft : ((Context.nativeListing id).run.run c).2 = d := congrArg Prod.snd hrun
      rw [hleft] at hnative
      exact F.emulateReaddirPlus A (F.stays id c d hnative hid)

end Handling

/-! ## Taking handles in and letting them go -/

/-- **Relations along which handles are stored and closed.** -/
structure Storing (R : Context σ → Context σ → Prop) : Prop extends Handling (fun _ _ => True) R where
  adopt : ∀ handle c, R c ((Context.adopt handle).run c).2
  storeTable : ∀ resource table, Respects R (Context.storeTable resource table)
  closeWithOwner : ∀ operation resource id, Keeps R (Context.closeWithOwner operation resource id)

namespace Storing

variable {R : Context σ → Context σ → Prop} (F : Storing R)

include F

theorem insertHandle (resource : Resource) (id : HandleId) :
    Keeps R (Context.insertHandle resource id : Engine σ DescriptorKey) :=
  F.bindE (F.useTable resource).perform fun _ => F.bindE (F.fromOutcome _) fun _ =>
    F.bindE (F.storeTable resource _).perform fun _ => F.pureE _

theorem removeHandle (resource : Resource) (key : DescriptorKey) :
    Keeps R (Context.removeHandle resource key : Engine σ HandleId) :=
  F.bindE (F.useTable resource).perform fun _ => F.bindE (F.fromOutcome _) fun _ =>
    F.bindE (F.storeTable resource _).perform fun _ => F.pureE _

theorem clearTable (resource : Resource) : Respects R (Context.clearTable resource : Act σ Nat) :=
  F.bind (F.useTable resource) fun _ => F.bind (F.storeTable resource _) fun _ => F.pure _

theorem clearMadeTable (resource : Resource) :
    Respects R (Context.clearMadeTable resource : Act σ Nat) := by
  refine F.bind F.get fun c => ?_
  cases c.table? resource with
  | some table => exact F.clearTable resource
  | none => exact F.pure _

theorem closeRejected (operation : Operation) (resource : Resource) (id : HandleId) (reason : Error) :
    Respects R (Context.closeRejected operation resource id reason : Act σ Unit) := by
  refine F.bind (F.log rfl) fun _ => F.bind (F.closeWithOwner operation resource id) fun closed => ?_
  cases closed with
  | ok _ => exact F.pure _
  | error error => exact F.log rfl

theorem storeAdopted (operation : Operation) (resource : Resource) (id : HandleId) :
    Keeps R (Context.storeAdopted operation resource id : Engine σ DescriptorKey) := by
  refine F.bindE (Respects.perform (F.insertHandle resource id)) fun stored => ?_
  cases stored with
  | ok key => exact F.pureE _
  | error error => exact F.bindE (F.closeRejected _ _ _ _).perform fun _ => F.throwE _

theorem storeHandle (operation : Operation) (resource : Resource) (url : String)
    (handle : FileHandle) :
    Keeps R (Context.storeHandle operation resource url handle : Engine σ DescriptorKey) :=
  F.bindE (Respects.perform (F.adopt _)) fun id => F.storeAdopted operation resource id

theorem openFile (A : Routing R) (url : String) (flags : UInt32) (mode : Mode) :
    Keeps R (Context.openFile url flags mode : Engine σ DescriptorKey) :=
  F.bindE (A.dispatchUrl rfl nofun) fun _ => F.storeHandle _ _ _ _

theorem opendir (A : Routing R) (url : String) :
    Keeps R (Context.opendir url : Engine σ DescriptorKey) :=
  F.bindE (A.dispatchUrl rfl nofun) fun _ => F.storeHandle _ _ _ _

theorem closeKey (operation : Operation) (resource : Resource) (key : DescriptorKey) :
    Keeps R (Context.closeKey operation resource key : Engine σ Unit) :=
  F.bindE (F.lookupHandle _ _ _) fun _ => F.bindE (F.closeWithOwner _ _ _) fun _ =>
    (F.counted _ (F.removeHandle _ _)).map _

end Storing

/-! ## Frames -/

/-- **Relations that hold across every small step** of an operation, whatever it does to handles and
tables. -/
structure Frame (R : Context σ → Context σ → Prop) : Prop extends Flow R where
  call : ∀ backend request c, request ≠ .teardown → R c ((Context.call backend request).run c).2
  handles : ∀ c handles, R c { c with handles }
  table : ∀ c resource table, R c (c.withTable resource table)
  publish : ∀ resource live, Respects R (measure (.openHandles resource live))
  discover : Keeps R Registry.discover

namespace Frame

variable {R : Context σ → Context σ → Prop} (F : Frame R)

include F

theorem routing : Routing R where
  toFlow := F.toFlow
  ask backend request c _ h := F.call backend request c h
  discover := F.discover

theorem dispatchHandle (operation : Operation) (id : HandleId) {serve : Plugin σ → Engine σ α}
    (hserve : ∀ plugin, Keeps R (serve plugin)) :
    Keeps R (Context.dispatchHandle operation id serve) :=
  F.bindE (F.openHandle id).perform fun _ => F.bindE (F.log rfl).perform fun _ => F.counted _ <|
    F.bindE (F.routing.resolveOwner _) fun plugin => F.timedEngine _ _ (hserve plugin)

theorem serves (plugin : Plugin σ) (id : HandleId) : Serves plugin id R where
  toFlow := F.toFlow
  talk request opened c h _ _ := F.call plugin.backend request c fun hteardown => by
    rw [hteardown] at h
    cases h
  move _ c := F.handles c _

theorem closeWithOwner (operation : Operation) (resource : Resource) (id : HandleId) :
    Keeps R (Context.closeWithOwner operation resource id : Engine σ Unit) := by
  refine F.dispatchHandle operation id fun plugin => F.bindE (F.openHandle id).perform fun opened => ?_
  refine F.bindE (Respects.perform fun c => F.call _ _ c ?_) fun _ => F.fromReply _ _
  cases resource <;> nofun

/-- A relation that looks at neither handles nor tables does not mind what becomes of them. -/
theorem storing : Storing R where
  toFinding := F.routing.toFinding
  use resource c := F.table c resource _
  found _ _ _ _ _ := trivial
  stays _ _ _ _ _ := trivial
  handle operation id _ c _ hserve :=
    F.dispatchHandle operation id (fun plugin => hserve plugin R (F.serves plugin id)) c
  adopt _ c := F.handles c _
  storeTable resource table := F.bind (fun c => F.table c resource table) fun _ => F.publish resource _
  closeWithOwner := F.closeWithOwner

end Frame

end Context

/-! ## Requests -/

namespace Request

variable {σ : Type}

/-- Whether a request leaves the registry alone but for a first discovery. -/
def ordinary : Request σ → Bool
  | .rediscover | .tearDownRegistry | .tearDown => false
  | _ => true

/-- Whether a request is an ordinary one that neither opens nor closes anything, nor changes by itself
what is in the tables. -/
def steady : Request σ → Bool
  | .openFile .. | .opendir _ | .close _ | .closedir _ | .insertHandle .. | .removeHandle ..
  | .clearTable _ => false
  | request => request.ordinary

/-- Whether a request is routed: it may make plugins be asked about a URL. -/
def routed : Request σ → Bool
  | .stat _ | .lstat _ | .access .. | .chmod .. | .mkdir .. | .mkdirRecursive .. | .rmdir _ | .unlink _
  | .unlinkList _ | .readlink _ | .rename .. | .symlink .. | .getxattr .. | .listxattr _ | .setxattr ..
  | .opendir _ | .readdirPlus _ | .openFile .. | .bringOnline .. | .bringOnlinePoll .. | .releaseFile ..
  | .bringOnlineList .. | .bringOnlinePollList .. | .releaseFileList .. | .abortFiles ..
  | .findFor .. => true
  | _ => false

open Context

/-- Steady requests that are not routed move along every relation for handles. -/
theorem handling_unrouted {G : HandleId → Context σ → Prop} {R : Context σ → Context σ → Prop}
    (F : Handling G R) {request : Request σ} (h : request.steady = true) (hrouted : request.routed = false) :
    Keeps R request.serve := by
  cases request with
  | readdir key => exact (F.served _ _ _ fun _ _ hid => F.nextEntry _ hid).map _
  | read key buffer => exact (F.read key buffer).map _
  | write key data => exact (F.write key data).map _
  | pread key buffer offset => exact (F.pread key buffer offset).map _
  | pwrite key data offset => exact (F.pwrite key data offset).map _
  | lseek key target => exact (F.lseek key target).map _
  | findHandle resource key =>
      exact F.bindE (F.findHandle resource key) fun _ =>
        F.bindE (F.describeHandle _).perform fun _ => F.pureE _
  | findRawHandle resource raw =>
      exact F.bindE (F.findRawHandle resource raw) fun _ =>
        F.bindE (F.describeHandle _).perform fun _ => F.pureE _
  | discover =>
      exact F.bindE F.discover fun _ => F.bindE (F.describePlugins _).perform fun _ => F.pureE _
  | pluginNames => exact (F.bindE F.discover fun _ => F.pureE _).map _
  | findByName name =>
      exact F.bindE (F.findByName name) fun _ =>
        F.bindE (F.describePlugin _).perform fun _ => F.pureE _
  | summary => exact F.summarize.perform.map _
  | debugContext | debugRegistry => exact F.bindE F.getE fun _ => F.pureE _
  | debugPlugin name => exact (F.debugPlugin name).map _
  | debugFile key =>
      exact F.bindE (F.findHandle .file key) fun _ =>
        F.bindE (F.describeHandle _).perform fun _ => F.pureE _
  | debugTable resource => exact F.bindE (F.useTable resource).perform fun _ => F.pureE _
  | openFile | opendir | close | closedir | insertHandle | removeHandle | clearTable | rediscover
  | tearDownRegistry | tearDown => exact Bool.noConfusion h
  | _ => exact Bool.noConfusion hrouted

/-- **Every steady request moves along every relation for routing and for handles.** -/
theorem handling_serve {G : HandleId → Context σ → Prop} {R : Context σ → Context σ → Prop}
    (A : Routing R) (F : Handling G R) {request : Request σ} (h : request.steady = true) :
    Keeps R request.serve := by
  cases request with
  | stat | lstat | access | chmod | mkdir | mkdirRecursive | rmdir | unlink | readlink | getxattr
  | listxattr | setxattr | bringOnline | bringOnlinePoll | releaseFile =>
      refine (A.dispatchUrl rfl ?_).map _
      nofun
  | rename | symlink =>
      refine (A.dispatchPair rfl ?_).map _
      nofun
  | unlinkList urls => exact (A.unlinkList urls).perform.map _
  | bringOnlineList urls options => exact (A.bringOnlineList urls options).perform.map _
  | bringOnlinePollList | releaseFileList | abortFiles =>
      refine (F.bind (A.dispatchBatch rfl ?_) fun _ => F.pure _).perform.map _
      nofun
  | readdirPlus key => exact (F.readdirPlus A key).map _
  | findFor url capability =>
      exact F.bindE (A.findFor url capability) fun _ =>
        F.bindE (F.describePlugin _).perform fun _ => F.pureE _
  | openFile | opendir => exact Bool.noConfusion h
  | _ => exact handling_unrouted F h rfl

/-- Ordinary requests that are not routed move along every relation for storing handles. -/
theorem storing_unrouted {R : Context σ → Context σ → Prop} (F : Storing R) {request : Request σ}
    (h : request.ordinary = true) (hrouted : request.routed = false) : Keeps R request.serve := by
  by_cases hsteady : request.steady = true
  · exact handling_unrouted F.toHandling hsteady hrouted
  · cases request with
    | close | closedir => exact (F.closeKey _ _ _).map _
    | insertHandle resource handle =>
        exact F.bindE (Respects.perform (F.adopt handle)) fun _ =>
          F.bindE (F.insertHandle resource _) fun _ => F.pureE _
    | removeHandle resource key =>
        exact F.bindE (F.removeHandle resource key) fun _ =>
          F.bindE (F.describeHandle _).perform fun _ => F.pureE _
    | clearTable resource => exact (F.clearTable resource).perform.map _
    | openFile | opendir => exact Bool.noConfusion hrouted
    | _ => exact absurd h hsteady

/-- **Every ordinary request moves along every relation for routing and for storing handles.** -/
theorem storing_serve {R : Context σ → Context σ → Prop} (A : Routing R) (F : Storing R) {request : Request σ}
    (h : request.ordinary = true) : Keeps R request.serve := by
  by_cases hsteady : request.steady = true
  · exact handling_serve A F.toHandling hsteady
  · cases request with
    | openFile url flags mode => exact (F.openFile A url flags mode).map _
    | opendir url => exact (F.opendir A url).map _
    | close | closedir | insertHandle | removeHandle | clearTable => exact storing_unrouted F h rfl
    | _ => exact absurd h hsteady

/-- **Every ordinary request respects every frame.** -/
theorem respects_serve {R : Context σ → Context σ → Prop} (F : Frame R) {request : Request σ}
    (h : request.ordinary = true) : Keeps R request.serve := storing_serve F.routing F.storing h

end Request

end StorageDispatch
