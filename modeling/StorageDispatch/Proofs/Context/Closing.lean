import StorageDispatch.Proofs.Context.Exact
import StorageDispatch.Proofs.Context.Frame
import StorageDispatch.Proofs.Descriptor.Entries

set_option autoImplicit false

/-! # How handles are stored and closed

Once the plugins are known, closing a handle is work for the first of them that has the handle's name:
`OwnerCloses` says what becomes of it, and `closeWithOwner_does` that nothing else happens. From it follow
the two operations that handles live between. Storing a handle that was taken in puts it into its table, or
closes it again for want of room (`storeAdopted_does`, `storeAdopted_does_full`). Closing a key takes it out
of its table, if the plugin agrees (`closeKey_does`).
-/

namespace StorageDispatch

variable {σ α : Type}

namespace Context

/-! ## Tables of a context -/

@[simp] theorem table_withTable (c : Context σ) (resource : Resource) (table : DescriptorTable HandleId) :
    (c.withTable resource table).table resource = table := by
  cases resource <;> rfl

theorem table_withTable_ne (c : Context σ) {resource other : Resource} (h : other ≠ resource)
    (table : DescriptorTable HandleId) : (c.withTable resource table).table other = c.table other := by
  cases resource <;> cases other <;> first | rfl | exact absurd rfl h

/-- Making a table does not change what is in the tables. -/
theorem table_made (c : Context σ) (resource other : Resource) :
    (c.withTable resource (c.table resource)).table other = c.table other := by
  by_cases h : other = resource
  · rw [h, table_withTable]
  · exact table_withTable_ne c h _

/-- Contexts with the same tables have the same tables after a change. -/
theorem table_withTable_congr {c d : Context σ} (h : ∀ other, d.table other = c.table other)
    (resource : Resource) (table : DescriptorTable HandleId) (other : Resource) :
    (d.withTable resource table).table other = (c.withTable resource table).table other := by
  by_cases hother : other = resource
  · rw [hother, table_withTable, table_withTable]
  · rw [table_withTable_ne d hother, table_withTable_ne c hother, h]

@[simp] theorem table_recording (c : Context σ) (events : List Event) (resource : Resource) :
    (c.recording events).table resource = c.table resource := by
  cases resource <;> rfl

@[simp] theorem table_inWorld (c : Context σ) (world : σ) (resource : Resource) :
    (c.inWorld world).table resource = c.table resource := by
  cases resource <;> rfl

@[simp] theorem table_adopt (handle : FileHandle) (c : Context σ) (resource : Resource) :
    ((adopt handle).run c).2.table resource = c.table resource := by
  cases resource <;> rfl

@[simp] theorem handles_withTable (c : Context σ) (resource : Resource) (table : DescriptorTable HandleId) :
    (c.withTable resource table).handles = c.handles := by
  cases resource <;> rfl

@[simp] theorem registry_withTable (c : Context σ) (resource : Resource) (table : DescriptorTable HandleId) :
    (c.withTable resource table).registry = c.registry := by
  cases resource <;> rfl

/-- Work leaves the tables that it is said to leave. -/
theorem Does.table_eq {ε : Type} {work : ExceptT ε (Act σ) α} {c d : Context σ} {result : Except ε α}
    {made : List (InstanceId × String × Call)} (h : Does work c result made d) (resource : Resource) :
    (work.run.run c).2.table resource = d.table resource := by
  obtain ⟨events, hleft⟩ := h.context_eq
  rw [hleft, table_recording]

def shown (c : Context σ) (id : HandleId) : OpenHandle := ⟨id, (c.handles[id]?).getD default⟩

/-! ## Serving a handle -/

/-- If the plugins are known, the owner of a handle is the first of them that has its name. -/
theorem resolveOwner_does (owner : String) {c : Context σ} (hknown : c.registry.phase.isKnown) :
    Does (resolveOwner owner) c
      (match c.registry.plugins.find? fun plugin => plugin.name == owner with
        | some plugin => .ok plugin
        | none => .error (.unknownOwner owner)) [] c := by
  refine .of_run ?_
  unfold resolveOwner Registry.findByName
  rw [ExceptT.run_tryCatch, run_bind, run_bindE, run_discover hknown]
  dsimp only
  cases c.registry.plugins.find? fun plugin => plugin.name == owner <;> rfl

section Dispatch

variable {operation : Operation} {id : HandleId} {serve : Plugin σ → Engine σ α} {c : Context σ}

/-- Work on a handle is done once its owner is looked for. -/
theorem dispatchHandle_does {d : Context σ} {result : Except Error α}
    {made : List (InstanceId × String × Call)}
    (h : ∀ events, Does
      (resolveOwner (c.shown id).handle.owner >>= fun plugin =>
        timedEngine operation plugin.name (serve plugin))
      (c.recording events) result made d) :
    Does (dispatchHandle operation id serve) c result made d :=
  (Does.openHandle id c).bind fun _ => (Does.log _ _).bind fun events => .counted operation (h events)

/-- A handle whose owner is among the plugins is served by it. -/
theorem dispatchHandle_does_owned {d : Context σ} {plugin : Plugin σ} {result : Except Error α}
    {made : List (InstanceId × String × Call)} (hknown : c.registry.phase.isKnown)
    (hfind : (c.registry.plugins.find? fun p => p.name == (c.shown id).handle.owner) = some plugin)
    (hserve : ∀ events, Does (serve plugin) (c.recording events) result made d) :
    Does (dispatchHandle operation id serve) c result made d := by
  refine dispatchHandle_does fun events => ?_
  have hresolve := resolveOwner_does (c.shown id).handle.owner (c := c.recording events) hknown
  rw [show (c.recording events).registry = c.registry from rfl, hfind] at hresolve
  exact hresolve.bind fun events => .timedEngine _ _ hserve

/-- A handle without an owner among the plugins is served by nobody. -/
theorem dispatchHandle_does_unowned (hknown : c.registry.phase.isKnown)
    (hfind : (c.registry.plugins.find? fun p => p.name == (c.shown id).handle.owner) = none) :
    Does (dispatchHandle operation id serve) c (.error (.unknownOwner (c.shown id).handle.owner)) [] c := by
  refine dispatchHandle_does fun events => ?_
  have hresolve := resolveOwner_does (c.shown id).handle.owner (c := c.recording events) hknown
  rw [show (c.recording events).registry = c.registry from rfl, hfind] at hresolve
  exact hresolve.bind_error _

end Dispatch

/-! ## Closing with the owner -/

/-- **How a handle is closed by its owner**, given the plugins and the world: the result, the calls that
are made, and the world that is left. -/
inductive OwnerCloses (operation : Operation) (resource : Resource) (opened : OpenHandle)
    (plugins : List (Plugin σ)) (world : σ) :
    Except Error Unit → List (InstanceId × String × Call) → σ → Prop
  /-- No plugin has the handle's name, so nobody is called. -/
  | unowned (h : ∀ plugin ∈ plugins, plugin.name ≠ opened.handle.owner) :
      OwnerCloses operation resource opened plugins world (.error (.unknownOwner opened.handle.owner)) [] world
  /-- The first plugin of the handle's name is called once, and decides. -/
  | called (before : List (Plugin σ)) {plugin : Plugin σ} {after : List (Plugin σ)}
      (hsplit : plugins = before ++ plugin :: after)
      (hbefore : ∀ other ∈ before, other.name ≠ opened.handle.owner)
      (hname : plugin.name = opened.handle.owner) :
      OwnerCloses operation resource opened plugins world
        (tag operation (closingReply resource opened
          (plugin.backend.respond (closingCall resource opened) world).1))
        [(plugin.id, plugin.name, closingCall resource opened)]
        (plugin.backend.respond (closingCall resource opened) world).2

/-- The calls that are made are about the handle. -/
theorem OwnerCloses.concerns {operation : Operation} {resource : Resource} {opened : OpenHandle}
    {plugins : List (Plugin σ)} {world world' : σ} {result : Except Error Unit}
    {made : List (InstanceId × String × Call)} {entry : InstanceId × String × Call}
    (h : OwnerCloses operation resource opened plugins world result made world') (hentry : entry ∈ made) :
    ∃ other, entry.2.2.about? = some other ∧ other.id = opened.id := by
  cases h with
  | unowned => cases hentry
  | called =>
      rw [List.mem_singleton.mp hentry]
      exact ⟨opened, about?_closingCall resource opened, rfl⟩

theorem OwnerCloses.about {operation : Operation} {resource : Resource} {opened other : OpenHandle}
    {plugins : List (Plugin σ)} {world world' : σ} {result : Except Error Unit}
    {made : List (InstanceId × String × Call)} {entry : InstanceId × String × Call}
    (h : OwnerCloses operation resource opened plugins world result made world') (hentry : entry ∈ made)
    (hother : entry.2.2.about? = some other) : other.id = opened.id := by
  obtain ⟨shown, habout, hid⟩ := h.concerns hentry
  rw [Option.some.inj (hother.symm.trans habout), hid]

/-- Behind plugins of other names, a plugin is the first of its name. -/
theorem find?_of_split {plugins before after : List (Plugin σ)} {plugin : Plugin σ} {owner : String}
    (hsplit : plugins = before ++ plugin :: after) (hbefore : ∀ other ∈ before, other.name ≠ owner)
    (hname : plugin.name = owner) : (plugins.find? fun p => p.name == owner) = some plugin := by
  refine List.find?_eq_some_iff_append.mpr ⟨beq_iff_eq.mpr hname, before, after, hsplit, fun other hmem => ?_⟩
  rw [beq_eq_false_iff_ne.mpr (hbefore other hmem)]
  rfl

theorem find?_eq_none_of_ne {plugins : List (Plugin σ)} {owner : String}
    (h : ∀ plugin ∈ plugins, plugin.name ≠ owner) : (plugins.find? fun p => p.name == owner) = none :=
  List.find?_eq_none.mpr fun plugin hmem hname => h plugin hmem (beq_iff_eq.mp hname)

/-- **A handle is closed if and only if it has an owner that closes it.** -/
theorem OwnerCloses.eq_ok_iff {operation : Operation} {resource : Resource} {opened : OpenHandle}
    {plugins : List (Plugin σ)} {world world' : σ} {result : Except Error Unit}
    {made : List (InstanceId × String × Call)}
    (h : OwnerCloses operation resource opened plugins world result made world') :
    result = .ok () ↔ ∃ plugin, (plugins.find? fun p => p.name == opened.handle.owner) = some plugin ∧
      closingReply resource opened (plugin.backend.respond (closingCall resource opened) world).1 = .ok () := by
  cases h with
  | unowned hnone =>
      rw [find?_eq_none_of_ne hnone]
      exact ⟨nofun, nofun⟩
  | @called before plugin after hsplit hbefore hname =>
      rw [find?_of_split hsplit hbefore hname]
      have hreply (reply : Reply Unit) : tag operation reply = .ok () ↔ reply = .ok () := by
        rcases reply with _ | _ <;> simp [tag]
      rw [hreply]
      exact ⟨fun hok => ⟨plugin, rfl, hok⟩, fun ⟨_, heq, hok⟩ => Option.some.inj heq ▸ hok⟩

/-- Closing a handle always comes to something. -/
theorem exists_ownerCloses (operation : Operation) (resource : Resource) (opened : OpenHandle)
    (plugins : List (Plugin σ)) (world : σ) :
    ∃ result made world', OwnerCloses operation resource opened plugins world result made world' := by
  cases hfind : plugins.find? fun plugin => plugin.name == opened.handle.owner with
  | none =>
      refine ⟨_, _, _, .unowned fun plugin hmem hname => ?_⟩
      exact List.find?_eq_none.mp hfind plugin hmem (beq_iff_eq.mpr hname)
  | some plugin =>
      obtain ⟨hname, before, after, hsplit, hbefore⟩ := List.find?_eq_some_iff_append.mp hfind
      refine ⟨_, _, _, .called before hsplit (fun other hmem heq => ?_) (beq_iff_eq.mp hname)⟩
      have hother := hbefore other hmem
      rw [heq, beq_self_eq_true] at hother
      exact Bool.noConfusion hother

section Closing

variable {operation : Operation} {resource : Resource} {id : HandleId} {c : Context σ}
  {result : Except Error Unit} {made : List (InstanceId × String × Call)} {world : σ}

/-- **Closing a handle is left to its owner.** -/
theorem closeWithOwner_does (hknown : c.registry.phase.isKnown)
    (h : OwnerCloses operation resource (c.shown id) c.registry.plugins c.world result made world) :
    Does (closeWithOwner operation resource id) c result made (c.inWorld world) := by
  cases h with
  | unowned hnone => exact dispatchHandle_does_unowned hknown (find?_eq_none_of_ne hnone)
  | @called before plugin after hsplit hbefore hname =>
      refine dispatchHandle_does_owned hknown (find?_of_split hsplit hbefore hname) fun events =>
        (Does.openHandle id _).bind fun events => ?_
      exact (Does.call plugin.backend (closingCall resource (c.shown id)) _).bind fun _ => .fromOutcome _ _

/-- The table of a handle may have to be made before the handle is closed. -/
theorem closeWithOwner_does_made (hknown : c.registry.phase.isKnown)
    (h : OwnerCloses operation resource (c.shown id) c.registry.plugins c.world result made world)
    (events : List Event) :
    Does (closeWithOwner operation resource id) ((c.withTable resource (c.table resource)).recording events)
      result made ((c.withTable resource (c.table resource)).inWorld world) := by
  refine (closeWithOwner_does ?_ ?_).congr fun events => rfl
  · cases resource <;> exact hknown
  · cases resource <;> exact h

end Closing

/-! ## Work on a table -/

theorem useTable_does (resource : Resource) (c : Context σ) :
    Does (perform (useTable resource) : Engine σ (DescriptorTable HandleId)) c (.ok (c.table resource)) []
      (c.withTable resource (c.table resource)) := by
  refine ⟨[], rfl, ?_⟩
  rw [List.append_nil]
  cases resource <;> rfl

theorem storeTable_does (resource : Resource) (table : DescriptorTable HandleId) (c : Context σ) :
    Does (perform (storeTable resource table) : Engine σ Unit) c (.ok ()) []
      (c.withTable resource table) := by
  refine ⟨[.metric (.openHandles resource table.live)], rfl, ?_⟩
  cases resource <;> rfl

/-- A handle that is looked up is found, and its table is made if need be. -/
theorem lookupHandle_does (operation : Operation) {resource : Resource} {key : DescriptorKey} {id : HandleId}
    {c : Context σ} (h : (c.table resource).find? key = some id) :
    Does (lookupHandle operation resource key) c (.ok id) [] (c.withTable resource (c.table resource)) := by
  refine Does.counted operation ((useTable_does resource c).bind fun events => ?_)
  have hget : (c.table resource).get key = .ok id := by rw [DescriptorTable.get, h]
  rw [hget]
  exact .fromOutcome _ _

theorem lookupHandle_does_missing (operation : Operation) {resource : Resource} {key : DescriptorKey}
    {c : Context σ} (h : (c.table resource).find? key = none) :
    Does (lookupHandle operation resource key) c (.error ((c.table resource).badKey key)) []
      (c.withTable resource (c.table resource)) := by
  refine Does.counted operation ((useTable_does resource c).bind fun events => ?_)
  have hget : (c.table resource).get key = .error ((c.table resource).badKey key) := by
    rw [DescriptorTable.get, h]
  rw [hget]
  exact .fromOutcome _ _

theorem insertHandle_does {resource : Resource} {id : HandleId} {c : Context σ} {key : DescriptorKey}
    {after : DescriptorTable HandleId} (h : (c.table resource).insert id = .ok (key, after)) :
    Does (insertHandle resource id) c (.ok key) [] (c.withTable resource after) := by
  refine (useTable_does resource c).bind fun events => ?_
  rw [h]
  refine (Does.fromOutcome _ _).bind fun events => ?_
  refine (storeTable_does resource after _).bind fun events => ?_
  refine (Does.pure key _).congr fun events => ?_
  cases resource <;> rfl

/-- Without room, nothing but the table's making is done. -/
theorem insertHandle_does_full {resource : Resource} {id : HandleId} {c : Context σ} {error : Error}
    (h : (c.table resource).insert id = .error error) :
    Does (insertHandle resource id) c (.error error) [] (c.withTable resource (c.table resource)) := by
  refine (useTable_does resource c).bind fun events => ?_
  rw [h]
  exact (Does.fromOutcome _ _).bind_error _

theorem removeHandle_does {resource : Resource} {id : HandleId} {c : Context σ} {key : DescriptorKey}
    {after : DescriptorTable HandleId} (h : (c.table resource).remove key = .ok (id, after)) :
    Does (removeHandle resource key) c (.ok id) [] (c.withTable resource after) := by
  refine (useTable_does resource c).bind fun events => ?_
  rw [h]
  refine (Does.fromOutcome _ _).bind fun events => ?_
  refine (storeTable_does resource after _).bind fun events => ?_
  refine (Does.pure id _).congr fun events => ?_
  cases resource <;> rfl

theorem removeHandle_does_missing {resource : Resource} {c : Context σ} {key : DescriptorKey} {error : Error}
    (h : (c.table resource).remove key = .error error) :
    Does (removeHandle resource key) c (.error error) [] (c.withTable resource (c.table resource)) := by
  refine (useTable_does resource c).bind fun events => ?_
  rw [h]
  exact (Does.fromOutcome _ _).bind_error _

theorem clearTable_does (resource : Resource) (c : Context σ) :
    Does (perform (clearTable resource) : Engine σ Nat) c (.ok (c.table resource).live) []
      (c.withTable resource (c.table resource).clear) := by
  refine ⟨[.metric (.openHandles resource (c.table resource).clear.live)], rfl, ?_⟩
  cases resource <;> rfl

/-! ## Storing a handle -/

/-- Whatever a closing for want of room comes to, it counts as done. -/
theorem closeRejected_does {operation : Operation} {resource : Resource} {id : HandleId} (reason : Error)
    {c d : Context σ} {result : Except Error Unit} {made : List (InstanceId × String × Call)}
    (h : ∀ events, Does (closeWithOwner operation resource id) (c.recording events) result made d)
    (events : List Event) :
    Does (perform (closeRejected operation resource id reason) : Engine σ Unit) (c.recording events) (.ok ())
      made d := by
  refine Does.perform_bind ((Does.log _ _).bind fun events => Does.perform_bind ?_)
  rw [← List.append_nil made]
  refine (h events).attempt.bind fun events => ?_
  cases result with
  | ok _ => exact .of_run rfl
  | error error => exact .log _ _

/-- With room, a handle that was taken in gets a key. -/
theorem storeAdopted_does (operation : Operation) {resource : Resource} {id : HandleId} {c : Context σ}
    {key : DescriptorKey} {after : DescriptorTable HandleId}
    (h : (c.table resource).insert id = .ok (key, after)) :
    Does (storeAdopted operation resource id) c (.ok key) [] (c.withTable resource after) :=
  (insertHandle_does h).attempt.bind fun _ => .pure _ _

/-- Without room, a handle that was taken in is closed by its owner, and what comes of that is not told. -/
theorem storeAdopted_does_full {operation : Operation} {resource : Resource} {id : HandleId} {c : Context σ}
    {error : Error} {result : Except Error Unit} {made : List (InstanceId × String × Call)} {world : σ}
    (hfull : (c.table resource).insert id = .error error) (hknown : c.registry.phase.isKnown)
    (h : OwnerCloses operation resource (c.shown id) c.registry.plugins c.world result made world) :
    Does (storeAdopted operation resource id) c (.error error) made
      ((c.withTable resource (c.table resource)).inWorld world) := by
  refine (insertHandle_does_full hfull).attempt.bind fun events => ?_
  rw [← List.append_nil made]
  have hclosed := closeRejected_does error fun later => closeWithOwner_does_made hknown h later
  exact (hclosed events).bind fun _ => (Does.throw error _).congr fun _ => rfl

/-! ## Closing a key -/

/-- The table after a key's handle was closed, which takes the key away if it succeeds. -/
def tableAfter (c : Context σ) (resource : Resource) (after : DescriptorTable HandleId) :
    Except Error Unit → DescriptorTable HandleId
  | .ok _ => after
  | .error _ => c.table resource

/-- A key that is good for nothing closes nothing. -/
theorem closeKey_does_missing (operation : Operation) {resource : Resource} {key : DescriptorKey}
    {c : Context σ} (h : (c.table resource).find? key = none) :
    Does (closeKey operation resource key) c (.error ((c.table resource).badKey key)) []
      (c.withTable resource (c.table resource)) := (lookupHandle_does_missing operation h).bind_error _

/-- **Closing a key is left to the owner of its handle.** If that succeeds the key is taken out of its table,
and else all stays as it is. -/
theorem closeKey_does {operation : Operation} {resource : Resource} {key : DescriptorKey} {id : HandleId}
    {c : Context σ} {after : DescriptorTable HandleId} {result : Except Error Unit}
    {made : List (InstanceId × String × Call)} {world : σ} (hknown : c.registry.phase.isKnown)
    (hremove : (c.table resource).remove key = .ok (id, after))
    (h : OwnerCloses operation resource (c.shown id) c.registry.plugins c.world result made world) :
    Does (closeKey operation resource key) c result made
      ((c.withTable resource (c.tableAfter resource after result)).inWorld world) := by
  have hfind : (c.table resource).find? key = some id := DescriptorTable.find?_of_remove hremove
  refine (lookupHandle_does operation hfind).bind fun events => ?_
  have hclose := closeWithOwner_does_made hknown h events
  cases result with
  | error error => exact hclose.bind_error _
  | ok _ =>
      rw [← List.append_nil made]
      refine hclose.bind fun events => ?_
      have hthere : ((((c.withTable resource (c.table resource)).inWorld world).recording events).table
          resource).remove key = .ok (id, after) := by
        cases resource <;> exact hremove
      refine ((Does.counted operation (removeHandle_does hthere)).map fun _ => ()).congr fun events => ?_
      cases resource <;> rfl

end Context

end StorageDispatch
