import StorageDispatch.Proofs.Context.Closing
import StorageDispatch.Proofs.Context.Lookup

set_option autoImplicit false

/-! # Closing is atomic

Closing a key has three stages: the handle is looked up, its owner is found, and the owner closes it. Only then is
the key taken out of its table. `HandleCloses` says how the last two go, in whatever phase the registry is, and
`Closed` how the whole does.

**The result** is `closeKey_closed`, with what follows from `Closed`: a closing succeeds if and only if all stages
do (`Closed.eq_ok_iff`), and then takes that one key away (`Closed.find?_of_ok`); if it fails, handles and tables
are as they were (`Closed.table_of_error`), and a key that is unknown reaches nobody (`Closed.of_unknown`).
-/

namespace StorageDispatch

variable {σ α : Type}

/-- Plugins are not known because they could not be discovered. -/
theorem Listed.error_eq {c d : Context σ} {error : Error} {made : List (InstanceId × String × Call)}
    (h : Listed c (.error error) made d) : ∃ cause, error = .discovery cause := by
  cases h with
  | failed => exact ⟨_, rfl⟩
  | first _ hdiscovered => cases hdiscovered <;> exact ⟨_, rfl⟩

namespace Context

/-! ## Finding an owner -/

/-- An owner is looked for among the plugins, however the registry comes by them. -/
theorem resolveOwner_lists (owner : String) (c : Context σ) (events : List Event) :
    ∃ listed made d, Listed c listed made d ∧
      (∀ error, listed = .error error →
        Does (resolveOwner owner) (c.recording events) (.error error) made d) ∧
      (∀ plugins, listed = .ok plugins → made = [] ∧
        Does (resolveOwner owner) (c.recording events)
          (match plugins.find? fun plugin => plugin.name == owner with
            | some plugin => .ok plugin
            | none => .error (.unknownOwner owner)) [] d) := by
  obtain ⟨listed, made, d, hlisted, later, hmade, hrun⟩ := Registry.discover_listed c events
  refine ⟨listed, made, d, hlisted, fun error herror => ?_, fun plugins hplugins => ?_⟩
  · -- A failed discovery is not taken for an unknown name.
    subst herror
    obtain ⟨cause, rfl⟩ := hlisted.error_eq
    refine ⟨later, hmade, ?_⟩
    unfold resolveOwner Registry.findByName
    rw [ExceptT.run_tryCatch, run_bind, run_bindE, hrun]
    rfl
  · subst hplugins
    obtain ⟨rfl, -⟩ := hlisted.of_ok
    refine ⟨rfl, later, hmade, ?_⟩
    unfold resolveOwner Registry.findByName
    rw [ExceptT.run_tryCatch, run_bind, run_bindE, hrun]
    dsimp only
    cases plugins.find? fun plugin => plugin.name == owner <;> rfl

/-! ## Closing a handle -/

/-- **How a handle is closed**, in whatever phase the registry is: with the result, the calls that are made, and
the context that is left. -/
inductive HandleCloses (operation : Operation) (resource : Resource) (id : HandleId) (c : Context σ) :
    Except Error Unit → List (InstanceId × String × Call) → Context σ → Prop
  /-- There are no plugins among which to look for the owner. -/
  | unlisted {error : Error} {made : List (InstanceId × String × Call)} {d : Context σ}
      (hlisted : Listed c (.error error) made d) : HandleCloses operation resource id c (.error error) made d
  | decided {plugins : List (Plugin σ)} {d : Context σ} {result : Except Error Unit}
      {made : List (InstanceId × String × Call)} {world : σ} (hlisted : Listed c (.ok plugins) [] d)
      (hcloses : OwnerCloses operation resource (c.shown id) plugins c.world result made world) :
      HandleCloses operation resource id c result made (d.inWorld world)

/-- The owner of a handle is registered, and agrees to close the handle: `d` is the context in which the plugins
were looked for. -/
def OwnerAgrees (resource : Resource) (id : HandleId) (c d : Context σ) : Prop :=
  ∃ plugin, d.registry.phase.isKnown ∧
    (d.registry.plugins.find? fun p => p.name == (c.shown id).handle.owner) = some plugin ∧
      closingReply resource (c.shown id)
        (plugin.backend.respond (closingCall resource (c.shown id)) c.world).1 = .ok ()

/-- **Closing a handle goes that way.** -/
theorem closeWithOwner_closes (operation : Operation) (resource : Resource) (id : HandleId) (c : Context σ)
    (events : List Event) :
    ∃ result made d, HandleCloses operation resource id c result made d ∧
      Does (closeWithOwner operation resource id) (c.recording events) result made d := by
  -- What was recorded before the owner is looked for is one certain list, which the first two steps settle.
  obtain ⟨there, hthere⟩ := (Does.openHandle (ε := Error) id (c.recording events)).goOn
  obtain ⟨begun, hbegun⟩ :=
    (Does.log (ε := Error) (.handleSpan operation (c.shown id).handle.owner) (c.recording there)).goOn
  obtain ⟨listed, made, d, hlisted, herror, hok⟩ := resolveOwner_lists (c.shown id).handle.owner c begun
  cases listed with
  | error error =>
      exact ⟨_, _, _, .unlisted hlisted, hthere (hbegun (.counted operation ((herror error rfl).bind_error _)))⟩
  | ok plugins =>
      obtain ⟨rfl, hresolve⟩ := hok plugins rfl
      obtain ⟨-, hleft, -⟩ := hlisted.of_ok
      obtain ⟨result, made, world, hcloses⟩ :=
        exists_ownerCloses operation resource (c.shown id) plugins c.world
      refine ⟨_, _, _, .decided hlisted hcloses, hthere (hbegun (.counted operation ?_))⟩
      cases hcloses with
      | unowned hnone =>
          rw [find?_eq_none_of_ne hnone] at hresolve
          rw [hleft] at hresolve ⊢
          exact hresolve.bind_error _
      | @called before plugin after hsplit hbefore hname =>
          rw [find?_of_split hsplit hbefore hname] at hresolve
          rw [hleft] at hresolve ⊢
          refine hresolve.bind fun events => .timedEngine _ _ fun events =>
            (Does.openHandle id _).bind fun events => ?_
          exact (Does.call plugin.backend (closingCall resource (c.shown id)) _).bind fun _ => .fromOutcome _ _

namespace HandleCloses

variable {operation : Operation} {resource : Resource} {id : HandleId} {c d : Context σ}
  {result : Except Error Unit} {made : List (InstanceId × String × Call)}

/-- Closing a handle leaves the handles as they are, and what is in the tables. -/
theorem keeps (h : HandleCloses operation resource id c result made d) :
    d.handles = c.handles ∧ ∀ resource, d.table resource = c.table resource := by
  cases h with
  | unlisted hlisted => exact hlisted.keeps
  | @decided plugins d _ _ world hlisted =>
      obtain ⟨hhandles, htable⟩ := hlisted.keeps
      exact ⟨hhandles, fun resource => (table_inWorld d world resource).trans (htable resource)⟩

/-- **A handle is closed if and only if its owner is registered and closes it.** -/
theorem eq_ok_iff (h : HandleCloses operation resource id c result made d) :
    result = .ok () ↔ OwnerAgrees resource id c d := by
  cases h with
  | unlisted hlisted => exact ⟨nofun, fun ⟨_, hknown, _⟩ => absurd hknown hlisted.not_known⟩
  | decided hlisted hcloses =>
      obtain ⟨-, -, hplugins, hknown⟩ := hlisted.of_ok
      rw [hcloses.eq_ok_iff, ← hplugins]
      exact exists_congr fun plugin => ⟨fun h => ⟨hknown, h⟩, And.right⟩

end HandleCloses

/-! ## Closing a key -/

def tabled (c : Context σ) (resource : Resource) : Context σ := c.withTable resource (c.table resource)

@[simp] theorem shown_tabled (c : Context σ) (resource : Resource) (id : HandleId) :
    (c.tabled resource).shown id = c.shown id := by
  cases resource <;> rfl

@[simp] theorem world_tabled (c : Context σ) (resource : Resource) : (c.tabled resource).world = c.world := by
  cases resource <;> rfl

@[simp] theorem handles_tabled (c : Context σ) (resource : Resource) :
    (c.tabled resource).handles = c.handles := by
  cases resource <;> rfl

/-- Whether the owner agrees does not depend on the table being there. -/
theorem ownerAgrees_tabled (resource : Resource) (id : HandleId) (c d : Context σ) :
    OwnerAgrees resource id (c.tabled resource) d ↔ OwnerAgrees resource id c d := by
  unfold OwnerAgrees
  rw [shown_tabled, world_tabled]

/-- **How a key is closed**, as part of an operation: with the result, the calls that are made, and the context
that is left. -/
inductive Closed (operation : Operation) (resource : Resource) (key : DescriptorKey) (c : Context σ) :
    Except Error Unit → List (InstanceId × String × Call) → Context σ → Prop
  /-- Nothing is under the key. -/
  | unknown (hfind : (c.table resource).find? key = none) :
      Closed operation resource key c (.error ((c.table resource).badKey key)) [] (c.tabled resource)
  /-- The handle is not closed, and stays under its key. -/
  | refused {id : HandleId} (hfind : (c.table resource).find? key = some id) {error : Error}
      {made : List (InstanceId × String × Call)} {d : Context σ}
      (hcloses : HandleCloses operation resource id (c.tabled resource) (.error error) made d) :
      Closed operation resource key c (.error error) made d
  /-- The handle is closed, and its key is taken away. -/
  | closed {id : HandleId} {after : DescriptorTable HandleId}
      (hremove : (c.table resource).remove key = .ok (id, after))
      {made : List (InstanceId × String × Call)} {d : Context σ}
      (hcloses : HandleCloses operation resource id (c.tabled resource) (.ok ()) made d) :
      Closed operation resource key c (.ok ()) made (d.withTable resource after)

/-- Once the handle of a key is closed, the tables hold what they held. -/
theorem HandleCloses.table_eq {operation : Operation} {resource : Resource} {id : HandleId} {c d : Context σ}
    {result : Except Error Unit} {made : List (InstanceId × String × Call)}
    (h : HandleCloses operation resource id (c.tabled resource) result made d) (other : Resource) :
    d.table other = c.table other := (h.keeps.2 other).trans (table_made c resource other)

/-- **Closing a key goes that way.** -/
theorem closeKey_closed (operation : Operation) (resource : Resource) (key : DescriptorKey) (c : Context σ) :
    ∃ result made d, Closed operation resource key c result made d ∧
      Does (closeKey operation resource key) c result made d := by
  cases hfind : (c.table resource).find? key with
  | none => exact ⟨_, _, _, .unknown hfind, closeKey_does_missing operation hfind⟩
  | some id =>
      obtain ⟨after, hremove⟩ := DescriptorTable.remove_of_find? hfind
      obtain ⟨looked, hlooked⟩ := (lookupHandle_does operation hfind).goOn
      obtain ⟨result, made, d, hcloses, hdoes⟩ :=
        closeWithOwner_closes operation resource id (c.tabled resource) looked
      cases result with
      | error error => exact ⟨_, _, _, .refused hfind hcloses, hlooked (hdoes.bind_error _)⟩
      | ok _ =>
          refine ⟨_, _, _, .closed hremove hcloses, hlooked ?_⟩
          rw [← List.append_nil made]
          refine hdoes.bind fun events => ?_
          -- The table is still the one in which the handle was looked up, so the key is as good as it was.
          have hthere : ((d.recording events).table resource).remove key = .ok (id, after) := by
            rw [table_recording, hcloses.table_eq, hremove]
          refine ((Does.counted operation (removeHandle_does hthere)).map fun _ => ()).congr fun events => ?_
          cases resource <;> rfl

namespace Closed

variable {operation : Operation} {resource : Resource} {key : DescriptorKey} {c d : Context σ}
  {result : Except Error Unit} {made : List (InstanceId × String × Call)}

/-- **A closing succeeds if and only if all its stages do**: the key is good, and the owner of its handle
agrees. -/
theorem eq_ok_iff (h : Closed operation resource key c result made d) :
    result = .ok () ↔ ∃ id, (c.table resource).find? key = some id ∧ OwnerAgrees resource id c d := by
  cases h with
  | unknown hfind =>
      refine ⟨nofun, fun ⟨id, hsome, _⟩ => ?_⟩
      rw [hfind] at hsome
      cases hsome
  | @refused id hfind _ _ _ hcloses =>
      refine ⟨nofun, fun ⟨other, hsome, hagrees⟩ => ?_⟩
      cases hfind.symm.trans hsome
      exact hcloses.eq_ok_iff.mpr ((ownerAgrees_tabled resource id c _).mpr hagrees)
  | @closed id after hremove _ d hcloses =>
      refine ⟨fun _ => ⟨id, DescriptorTable.find?_of_remove hremove, ?_⟩, fun _ => rfl⟩
      rw [OwnerAgrees, registry_withTable]
      exact (ownerAgrees_tabled resource id c d).mp (hcloses.eq_ok_iff.mp rfl)

/-- The handles are as they were, in any case. -/
theorem handles_eq (h : Closed operation resource key c result made d) : d.handles = c.handles := by
  cases h with
  | unknown => exact handles_tabled c resource
  | refused _ hcloses => exact hcloses.keeps.1.trans (handles_tabled c resource)
  | closed _ hcloses =>
      exact (handles_withTable _ resource _).trans (hcloses.keeps.1.trans (handles_tabled c resource))

/-- The tables of other resources hold what they held. -/
theorem table_ne (h : Closed operation resource key c result made d) {other : Resource} (hne : other ≠ resource) :
    d.table other = c.table other := by
  cases h with
  | unknown => exact table_made c resource other
  | refused _ hcloses => exact hcloses.table_eq other
  | closed _ hcloses => exact (table_withTable_ne _ hne _).trans (hcloses.table_eq other)

/-- **A closing that fails leaves the tables as they were.** -/
theorem table_of_error {error : Error} (h : Closed operation resource key c (.error error) made d)
    (other : Resource) : d.table other = c.table other := by
  cases h with
  | unknown => exact table_made c resource other
  | refused _ hcloses => exact hcloses.table_eq other

/-- **A closing that succeeds takes its key away**, and no other one. -/
theorem find?_of_ok (h : Closed operation resource key c (.ok ()) made d) (k : DescriptorKey) :
    (d.table resource).find? k = if k = key then none else (c.table resource).find? k := by
  cases h with
  | closed hremove => rw [table_withTable, DescriptorTable.find?_remove hremove]

/-- An unknown key reaches neither the registry nor a backend. -/
theorem of_unknown (h : Closed operation resource key c result made d)
    (hfind : (c.table resource).find? key = none) :
    made = [] ∧ d.registry = c.registry ∧ d.world = c.world := by
  cases h with
  | unknown => exact ⟨rfl, registry_withTable c resource _, world_tabled c resource⟩
  | refused hsome => exact nomatch hfind.symm.trans hsome
  | closed hremove => exact nomatch hfind.symm.trans (DescriptorTable.find?_of_remove hremove)

end Closed

end Context

end StorageDispatch
