import StorageDispatch.Proofs.Context.Bystander

set_option autoImplicit false

/-! # Operations do not notice a bystander

Each operation of a context, carried out with and without a bystander in the registry, comes to the same
result and leaves the contexts `Flanked`. Operations on URLs do so because the bystander claims none
(`Flanked.alongside`), operations on open handles because none is the bystander's (`Flanked.attending`), and
all others are put together from those. Where a backend hands out a handle, it has to be a handle with another
name than the bystander's (`Flanked.opening`).

Requests that tell about the registry itself notice the bystander, of course (`Request.inspects`). But they
change no more than others do.
-/

namespace StorageDispatch

variable {σ α β ε : Type}

namespace Context

variable {B : Bystander σ} {base : List (InstanceId × String × Call)} {bound : Nat} {c c' : Context σ}

open Flanked

/-! ## URLs and handles -/

/-- **A URL is served by the same plugin.** -/
theorem Flanked.alongside :
    Alongside (Flanked B base bound) (fun p p' => B.Twin p.backend p'.backend) where
  toAbreast := abreast
  name_eq htwin := htwin.name_eq
  findFor url capability := .findFor url capability
  ask htwin request _ _ := .call htwin request

/-- **A handle is served by the same plugin.** -/
theorem Flanked.attending :
    Attending (Flanked B base bound) (fun p p' => B.Twin p.backend p'.backend)
      (fun opened opened' => opened' = opened ∧ opened.handle.owner ≠ B.backend.name) (· < bound) where
  toAlongside := alongside
  opened hid := .openHandle hid
  owner_eq ho := congrArg (·.handle.owner) ho.1
  path_eq ho := congrArg (·.handle.path) ho.1
  findOwner ho := .findByName ho.2
  readdir htwin ho := by
    rw [ho.1]
    exact .call htwin _
  readdirPlus htwin ho := by
    rw [ho.1]
    exact .call htwin _
  close htwin ho := by
    rw [ho.1]
    exact .call htwin _
  closedir htwin ho := by
    rw [ho.1]
    exact .call htwin _

/-! ## Open handles -/

/-- Work on a handle as it is now. -/
theorem PairedE.opened {id : HandleId} (hid : id < bound) {A : α → β → Prop} {f : OpenHandle → Engine σ α}
    {g : OpenHandle → Engine σ β} (h : ∀ opened, PairedE (Flanked B base bound) A (f opened) (g opened)) :
    PairedE (Flanked B base bound) A (do f (← perform (Context.openHandle id)))
      (do g (← perform (Context.openHandle id))) :=
  .bind (Paired.openHandle hid).perform fun opened opened' hopened => by
    rw [hopened.1]
    exact h opened

section Handles

variable {p p' : Plugin σ} {id : HandleId}

theorem PairedE.emulate (htwin : B.Twin p.backend p'.backend) (hid : id < bound) (operation : Operation)
    (offset size : Nat) {transfer transfer' : OpenHandle → Act σ (Reply α)}
    (htransfer : ∀ opened, Paired (Flanked B base bound) Eq (transfer opened) (transfer' opened))
    (count : α → Nat) :
    PairedE (Flanked B base bound) Eq (Context.emulate operation p id offset size transfer count)
      (Context.emulate operation p' id offset size transfer' count) := by
  refine .opened hid fun opened => .bindEq (abreast.log _ _).perform fun _ => ?_
  refine .bindEq (abreast.measure _ _).perform fun _ => .bindEq (Paired.call htwin _).perform fun answer => ?_
  refine .bindEq (.fromReply _ _) fun landed => ?_
  split
  · refine .bindEq (htransfer opened).perform fun reply => .bindEq (.fromReply _ _) fun _ => ?_
    exact .bindEq (Paired.move id _).perform fun _ => .pure rfl
  · exact .throw _

theorem Flanked.read (h : Flanked B base 0 c c') (hstocked : c.Stocked 0) (key : DescriptorKey)
    (buffer : Bytes) :
    MeetsE (Flanked B base 0) Eq (Context.read key buffer) (Context.read key buffer) c c' := by
  unfold Context.read
  split
  · exact abreast.countedAt _ (PairedE.throw _ c c' h)
  · refine h.served hstocked _ _ _ fun id => attending.dispatchHandle _ (Nat.lt_succ_self id) fun p p' htwin => ?_
    refine .opened (Nat.lt_succ_self id) fun opened => .bindEq (Paired.call htwin _).perform fun answer => ?_
    refine .bindEq (.fromReply _ _) fun received => ?_
    exact .bindEq (Paired.move id _).perform fun _ => .pure rfl

theorem Flanked.write (h : Flanked B base 0 c c') (hstocked : c.Stocked 0) (key : DescriptorKey)
    (data : Bytes) :
    MeetsE (Flanked B base 0) Eq (Context.write key data) (Context.write key data) c c' := by
  unfold Context.write
  split
  · exact abreast.countedAt _ (PairedE.throw _ c c' h)
  · refine h.served hstocked _ _ _ fun id => attending.dispatchHandle _ (Nat.lt_succ_self id) fun p p' htwin => ?_
    refine .opened (Nat.lt_succ_self id) fun opened => .bindEq (Paired.call htwin _).perform fun answer => ?_
    refine .bindEq (.fromReply _ _) fun count => ?_
    exact .bindEq (Paired.move id _).perform fun _ => .pure rfl

theorem Flanked.lseek (h : Flanked B base 0 c c') (hstocked : c.Stocked 0) (key : DescriptorKey)
    (target : SeekTarget) :
    MeetsE (Flanked B base 0) Eq (Context.lseek key target) (Context.lseek key target) c c' := by
  refine h.served hstocked _ _ _ fun id => attending.dispatchHandle _ (Nat.lt_succ_self id) fun p p' htwin => ?_
  refine .opened (Nat.lt_succ_self id) fun opened => .bindEq (Paired.call htwin _).perform fun answer => ?_
  refine .bindEq (.fromReply _ _) fun offset => ?_
  exact .bindEq (Paired.move id fun _ => offset).perform fun _ => .pure rfl

theorem Flanked.pread (h : Flanked B base 0 c c') (hstocked : c.Stocked 0) (key : DescriptorKey)
    (buffer : Bytes) (offset : Nat) :
    MeetsE (Flanked B base 0) Eq (Context.pread key buffer offset) (Context.pread key buffer offset)
      c c' := by
  refine h.served hstocked _ _ _ fun id => attending.dispatchHandle _ (Nat.lt_succ_self id) fun p p' htwin => ?_
  refine .opened (Nat.lt_succ_self id) fun opened => .bindEq (Paired.call htwin _).perform fun answer => ?_
  cases answer with
  | some reply => exact .bindEq (.fromReply _ _) fun _ => .pure rfl
  | none =>
      refine .bindEq (.emulate htwin (Nat.lt_succ_self id) _ _ _ (fun opened => ?_) _) fun _ => .pure rfl
      exact .call htwin _

theorem Flanked.pwrite (h : Flanked B base 0 c c') (hstocked : c.Stocked 0) (key : DescriptorKey)
    (data : Bytes) (offset : Nat) :
    MeetsE (Flanked B base 0) Eq (Context.pwrite key data offset) (Context.pwrite key data offset) c c' := by
  refine h.served hstocked _ _ _ fun id => attending.dispatchHandle _ (Nat.lt_succ_self id) fun p p' htwin => ?_
  refine .opened (Nat.lt_succ_self id) fun opened => .bindEq (Paired.call htwin _).perform fun answer => ?_
  cases answer with
  | some reply => exact .fromReply _ _
  | none => exact .emulate htwin (Nat.lt_succ_self id) _ _ _ (fun opened => .call htwin _) _

/-! ## Directories -/

theorem Flanked.readdirPlus (h : Flanked B base 0 c c') (hstocked : c.Stocked 0) (key : DescriptorKey) :
    MeetsE (Flanked B base 0) Eq (Context.readdirPlus key) (Context.readdirPlus key) c c' := by
  refine h.served hstocked _ _ _ fun id => .bindEq (attending.nativeListing (Nat.lt_succ_self id)) fun native => ?_
  cases native with
  | some entry => exact .pure rfl
  | none => exact attending.emulateReaddirPlus (Nat.lt_succ_self id)

/-! ## Opening and closing -/

theorem Flanked.closeKey (h : Flanked B base 0 c c') (hstocked : c.Stocked 0) (operation : Operation)
    (resource : Resource) (key : DescriptorKey) :
    MeetsE (Flanked B base 0) Eq (Context.closeKey operation resource key)
      (Context.closeKey operation resource key) c c' := by
  refine h.served hstocked _ _ _ fun id => .bindEq (attending.closeWithOwner _ _ (Nat.lt_succ_self id)) fun _ => ?_
  exact .mapEq _ (abreast.counted _ (tabled.removeHandle resource key))

end Handles

/-- **A handle of another backend than the bystander is taken in**, and work goes on with it. -/
theorem Flanked.adopt_bind (h : Flanked B base bound c c') {handle : FileHandle}
    (howner : handle.owner ≠ B.backend.name) {f : HandleId → Engine σ α}
    (hrest : ∀ id, PairedE (Flanked B base (id + 1)) Eq (f id) (f id)) :
    MeetsE (Flanked B base 0) Eq (perform (Context.adopt handle) >>= f) (perform (Context.adopt handle) >>= f)
      c c' := by
  obtain ⟨⟨hid, hsize⟩, hadopted⟩ := h.adopt howner
  rw [← hsize] at hadopted
  have hmeets := hrest _ _ _ hadopted
  unfold MeetsE Meets
  rw [run_perform_bindE, run_perform_bindE, hid]
  exact ⟨hmeets.1, hmeets.2.mono (Nat.zero_le _)⟩

/-- **What is opened comes to the same**, if it is not the bystander's. -/
theorem Flanked.opening (h : Flanked B base 0 c c') (o : Opening)
    (howners : ∀ handle ∈ ((o.request : Request σ).serve.run.run c).2.handles,
      handle.owner ≠ B.backend.name) :
    MeetsE (Flanked B base 0) Eq (o.request : Request σ).serve (o.request : Request σ).serve c c' := by
  rw [o.serve_request] at howners ⊢
  refine MeetsE.map (MeetsE.bind (alongside.dispatchUrl o.about?_part o.part_ne_teardown c c' h) ?_) fun _ _ => congrArg Value.key
  rintro handle _ d d' hopened rfl hleft
  -- The handle is among those of the context that the opening leaves.
  rw [run_map, run_bindE, hopened] at howners
  have howned := owned_storing.storeAdopted o.operation o.resource d.handles.size
    ((Context.adopt (handle.setPathIfMissing o.url)).run d).2
  have howner := owner_of_adopted howned howners
  exact hleft.adopt_bind howner fun id => attending.storeAdopted tabled _ _ (Nat.lt_succ_self id)

end Context

/-! ## Requests -/

namespace Request

/-- Whether a request tells about the registry itself: which plugins it has, and in which order. -/
def inspects : Request σ → Bool
  | .discover | .rediscover | .pluginNames | .findFor .. | .findByName _ | .summary | .debugContext
  | .debugRegistry | .debugPlugin _ => true
  | _ => false

def adopts : Request σ → Bool
  | .openFile .. | .opendir _ | .insertHandle .. => true
  | _ => false

open Context Context.Flanked

variable {B : Bystander σ} {base : List (InstanceId × String × Call)} {bound : Nat} {c c' : Context σ}

/-- **Requests that neither tell about the registry nor take a handle in** come to the same. -/
theorem meets_serve {request : Request σ} (hinspects : request.inspects = false)
    (hadopts : request.adopts = false) (h : Flanked B base 0 c c') (hstocked : c.Stocked 0) :
    MeetsE (Flanked B base 0) Eq request.serve request.serve c c' := by
  have described {find : Engine σ HandleId} {value : FileHandle → Value}
      (hfind : PairedE (Flanked B base 0) Eq find find) :
      PairedE (Flanked B base 0) Eq (do return value (← perform (describeHandle (← find))))
        (do return value (← perform (describeHandle (← find)))) :=
    .bindEq hfind fun id => .bindEq (Paired.describeHandle id).perform fun _ => .pure rfl
  cases request with
  | stat | lstat | access | chmod | mkdir | mkdirRecursive | rmdir | unlink | readlink | getxattr
  | listxattr | setxattr | bringOnline | bringOnlinePoll | releaseFile =>
      refine PairedE.mapEq _ (alongside.dispatchUrl rfl ?_) c c' h
      nofun
  | rename | symlink =>
      refine PairedE.mapEq _ (alongside.dispatchPair rfl ?_) c c' h
      nofun
  | unlinkList urls => exact PairedE.mapEq _ (alongside.unlinkList urls).perform c c' h
  | bringOnlineList | bringOnlinePollList | releaseFileList | abortFiles =>
      refine PairedE.mapEq _ ((alongside.dispatchBatch rfl ?_).bindEq fun _ => .pure rfl).perform c c' h
      nofun
  -- A handle that is found in a table was taken in, so both sides serve the same one.
  | readdir key =>
      exact (h.served hstocked _ _ key fun id => attending.nextEntry _ (Nat.lt_succ_self id)).mapEq _
  | readdirPlus key => exact (h.readdirPlus hstocked key).mapEq _
  | read key buffer => exact (h.read hstocked key buffer).mapEq _
  | write key data => exact (h.write hstocked key data).mapEq _
  | pread key buffer offset => exact (h.pread hstocked key buffer offset).mapEq _
  | pwrite key data offset => exact (h.pwrite hstocked key data offset).mapEq _
  | lseek key target => exact (h.lseek hstocked key target).mapEq _
  | close | closedir => exact (h.closeKey hstocked _ _ _).mapEq _
  | findHandle resource key => exact described (tabled.findHandle resource key) c c' h
  | findRawHandle resource raw => exact described (tabled.findRawHandle resource raw) c c' h
  | removeHandle resource key => exact described (tabled.removeHandle resource key) c c' h
  | clearTable resource => exact PairedE.mapEq _ (tabled.clearTable resource).perform c c' h
  | tearDownRegistry => exact PairedE.mapEq _ Paired.tearDownRegistry.perform c c' h
  | tearDown => exact PairedE.mapEq _ (tabled.teardown .tearDownRegistry).perform c c' h
  | debugFile key => exact described (tabled.findHandle .file key) c c' h
  | debugTable resource => exact PairedE.bindEq (tabled.useTable resource).perform (fun _ => .pure rfl) c c' h
  | openFile | opendir | insertHandle => exact Bool.noConfusion hadopts
  | discover | rediscover | pluginNames | findFor | findByName | summary | debugContext | debugRegistry
  | debugPlugin => exact Bool.noConfusion hinspects

/-- **Requests that tell about the registry** change the same, whatever they tell. -/
theorem paired_inspect {request : Request σ} (h : request.inspects = true) :
    Paired (Flanked B base bound) (fun _ _ => True) request.serve.run request.serve.run := by
  have hdiscover : Paired (Flanked B base bound) (fun _ _ => True)
      (Registry.discover : Engine σ (List (Plugin σ))).run Registry.discover.run :=
    discovering.discover.run.mono fun _ _ _ => trivial
  have hfind (name : String) : Paired (Flanked B base bound) (fun _ _ => True)
      (Registry.findByName name : Engine σ (Plugin σ)).run (Registry.findByName name).run := by
    refine .inspect hdiscover ?_ ?_ <;>
      exact fun plugins c => by cases plugins.find? fun plugin => plugin.name == name <;> rfl
  cases request with
  | discover => exact .inspect hdiscover (fun _ _ => rfl) fun _ _ => rfl
  | rediscover =>
      exact .inspect (discovering.rediscover.run.mono fun _ _ _ => trivial) (fun _ _ => rfl) fun _ _ => rfl
  | pluginNames =>
      refine .inspect_map ?_ _ _
      exact .inspect hdiscover (fun _ _ => rfl) fun _ _ => rfl
  | findFor url capability =>
      refine .inspect ?_ (fun _ _ => rfl) fun _ _ => rfl
      exact (PairedE.findFor url capability).run.mono fun _ _ _ => trivial
  | findByName name => exact .inspect (hfind name) (fun _ _ => rfl) fun _ _ => rfl
  | debugPlugin name =>
      refine .inspect_map ?_ _ _
      exact .inspect (hfind name) (fun _ _ => rfl) fun _ _ => rfl
  | summary =>
      have hsummary : Paired (Flanked B base bound) (fun _ _ => True) (summarize : Act σ Summary) summarize :=
        (tabled.useTable .file).bind fun _ _ _ => (tabled.useTable .directory).bind fun _ _ _ =>
          .get fun _ _ h => ⟨trivial, h⟩
      exact fun c c' h => ⟨trivial, (hsummary c c' h).2⟩
  | debugContext | debugRegistry => exact fun c c' h => ⟨trivial, h⟩
  | _ => exact Bool.noConfusion h

/-- **Requests that take a handle in** come to the same, if it is not the bystander's. -/
theorem meets_adopting {request : Request σ} (hadopts : request.adopts = true) (h : Flanked B base 0 c c')
    (howners : ∀ handle ∈ (request.serve.run.run c).2.handles, handle.owner ≠ B.backend.name) :
    MeetsE (Flanked B base 0) Eq request.serve request.serve c c' := by
  cases request with
  | openFile url flags mode => exact h.opening (.file url flags mode) howners
  | opendir url => exact h.opening (.directory url) howners
  | insertHandle resource handle =>
      have howned : Owned ((adopt handle).run c).2
          ((Request.insertHandle resource handle).serve.run.run c).2 :=
        (owned_storing.bindE (owned_storing.insertHandle resource c.handles.size) fun key =>
          owned_storing.pureE (Value.key key)) _
      have howner := owner_of_adopted howned howners
      exact h.adopt_bind howner fun id => .bindEq (tabled.insertHandle resource id) fun key => .pure rfl
  | _ => exact Bool.noConfusion hadopts

/-- **No request notices the bystander**, unless it tells about the registry. -/
theorem unnoticed_serve (request : Request σ) (h : Flanked B base 0 c c') (hstocked : c.Stocked 0)
    (howners : ∀ handle ∈ (request.serve.run.run c).2.handles, handle.owner ≠ B.backend.name) :
    (request.inspects = false → (request.serve.run.run c').1 = (request.serve.run.run c).1) ∧
      Flanked B base 0 (request.serve.run.run c).2 (request.serve.run.run c').2 := by
  cases hinspects : request.inspects with
  | true => exact ⟨nofun, (paired_inspect hinspects c c' h).2⟩
  | false =>
      have hmeets : MeetsE (Flanked B base 0) Eq request.serve request.serve c c' := by
        cases hadopts : request.adopts with
        | true => exact meets_adopting hadopts h howners
        | false => exact meets_serve hinspects hadopts h hstocked
      exact ⟨fun _ => hmeets.1.eq, hmeets.2⟩

end Request

end StorageDispatch
