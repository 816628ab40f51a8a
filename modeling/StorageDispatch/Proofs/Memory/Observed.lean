import StorageDispatch.Proofs.Context.Transfers
import StorageDispatch.Proofs.Memory.Backends
import StorageDispatch.Proofs.Memory.Contents

set_option autoImplicit false

/-! # Reads at a position, as a store observes them

If seeks land where they should, a read at a position that is emulated is observed as a seek to the position and
a read from there, and nothing comes between. So a session that transfers in no other way leaves stores whose
records, file by file, are sequences of such pairs (`Transfer.Paired`).

This is what makes the emulation safe: the calls are made in one order only, and nothing is transferred at a
position that the backend has not confirmed (`transfers_confirmed`).
-/

namespace StorageDispatch

open Context

namespace Memory

variable {spec : Spec} {opened : OpenHandle} {before after : State}

/-! ## Records of pairs -/

/-- **Of every file, the record is of seeks, each with a read after it** at the same position. -/
def Transfer.Paired (transfers : List Transfer) : Prop :=
  ∀ index, ∃ offsets : List Nat, (transfers.filter fun transfer => transfer.file = index) =
    offsets.flatMap fun offset => [.seek index offset, .read index offset]

namespace Transfer.Paired

variable {transfers : List Transfer}

theorem nil : Paired [] := fun _ => ⟨[], rfl⟩

/-- One more file is read from at a position. -/
theorem pair (h : Paired transfers) (index offset : Nat) :
    Paired (transfers ++ [.seek index offset, .read index offset]) := by
  intro other
  obtain ⟨offsets, hoffsets⟩ := h other
  rw [List.filter_append, hoffsets]
  by_cases hindex : index = other
  · refine ⟨offsets ++ [offset], ?_⟩
    rw [List.flatMap_append]
    simp [Transfer.file, hindex]
  · refine ⟨offsets, ?_⟩
    simp [Transfer.file, hindex]

end Transfer.Paired

def State.Paired (state : State) : Prop := ∀ label, Transfer.Paired (state.store label).transfers

theorem State.Paired.rests (h : before.Paired) (hrests : before.Rests after) : after.Paired := by
  intro label
  rw [hrests.transfers_eq]
  exact h label

/-! ## An emulated read -/

/-- **A seek and a read from there** leave a pair in the record of one store. -/
theorem State.Paired.seek_read (h : before.Paired) (hskew : spec.seekSkew = 0) {offset : Nat} (hle : offset ≤ maxOffset)
    (size : Nat) {landed : Nat} {sought : State}
    (hseek : lseek spec opened (.start offset) before = (.ok landed, sought)) :
    (read spec opened size sought).2.Paired := by
  cases hfile : before.file? opened with
  | none =>
      rw [lseek_of_none hfile] at hseek
      cases hseek
  | some found =>
      obtain ⟨index, file⟩ := found
      obtain ⟨hpayload, hopen⟩ := openFile_of_file? hfile
      rw [lseek_start hfile, landing_of_skew hskew hle] at hseek
      cases hseek
      have hthere : ((before.moveTo index offset).record spec.store (.seek index offset)).openFiles[index]? =
          some { file with position := offset } := by
        show (before.openFiles.modify index _)[index]? = _
        rw [Array.getElem?_modify, if_pos rfl, hopen]
        rfl
      intro label
      rw [transfers_read (file?_eq_some hpayload hthere), transfers_record]
      by_cases hlabel : spec.store = label
      · rw [if_pos hlabel, if_pos hlabel, List.append_assoc]
        exact (h label).pair index offset
      · rw [if_neg hlabel, if_neg hlabel, List.append_nil, List.append_nil]
        exact h label

/-- **However an emulated read goes**, records of pairs stay records of pairs. -/
theorem State.Paired.goes {b : Backend State} {own : InstanceId} (h : before.Paired) (hb : b.respond = respond own spec)
    (hskew : spec.seekSkew = 0) {buffer : Bytes} {offset : Nat} (hle : offset ≤ maxOffset)
    {result : Except Error Received} {calls : List Call} {moved : Option Nat}
    (hgoes : (Positioned.reading buffer offset).Goes b opened before result calls after moved) : after.Paired := by
  have hasked {asked : State} {answer : Option (Reply Received)}
      (hnative : b.respond (.pread opened buffer.length offset) before = (answer, asked)) : asked.Paired := by
    have hmoves : (Call.pread opened buffer.length offset).moves = false := rfl
    have hrests := rests_respond own spec hmoves before
    rw [← hb, hnative] at hrests
    exact h.rests hrests
  -- A seek that succeeds is followed by a read of the same file, and both are observed together.
  have hread {asked sought : State} {landed : Nat} {reply : Reply Received} {last : State} (h : asked.Paired)
      (hseek : b.respond (.lseek opened (.start offset)) asked = (.ok landed, sought))
      (hplain : b.respond (.read opened buffer.length) sought = (reply, last)) : last.Paired := by
    rw [hb] at hseek hplain
    rw [respond_lseek] at hseek
    have hpaired := h.seek_read hskew hle buffer.length hseek
    rwa [← respond_read, hplain] at hpaired
  cases hgoes with
  | native hnative => exact hasked hnative
  | @emulated asked _ _ _ _ _ hnative _ hemulated =>
      have hpaired : asked.Paired := hasked hnative
      cases hemulated with
      | unsought hseek =>
          rw [hb, respond_lseek] at hseek
          rw [lseek_error hseek]
          exact hpaired
      | misplaced hseek hlanded =>
          rw [hb, respond_lseek] at hseek
          exact absurd (lseek_lands hskew hle hseek) hlanded
      | failed hseek hplain => exact hread hpaired hseek hplain
      | transferred hseek hplain => exact hread hpaired hseek hplain

/-! ## Whole sessions -/

def Spec.Straight (spec : Spec) : Prop := spec.seekSkew = 0

/-- **Steps that transfer nothing but by reading at a position.** All backends are in memory, and their seeks land
where they should; the world may change from outside, but not what the stores have observed. -/
def ReadsAtPositions : Step State → Prop
  | .request (.pread _ _ offset) => offset ≤ maxOffset
  | .request request => request.isTransfer = false
  | .register make => ∀ n, InMemory Spec.Straight (Session.newcomer n make)
  | .changeWorld change => ∀ world label, ((change world).store label).transfers = (world.store label).transfers
  | .changeHost change => ∀ host, Makes (fun b _ => InMemory Spec.Straight b) host →
      Makes (fun b _ => InMemory Spec.Straight b) (change host)
  | _ => True

/-- Records of pairs, in a world of backends whose seeks land where they should. -/
def pairing : Exchange State := .alone (InMemory Spec.Straight) (fun _ state => state.Paired) fun _ _ _ => True

theorem fair_pairing : pairing.Fair :=
  fair_alone (fun _ _ _ hrests hpaired => hpaired.rests hrests) (fun _ _ _ _ _ _ _ _ _ => trivial) fun _ hpaired =>
    hpaired

theorem admits_pairing {step : Step State} (h : ReadsAtPositions step) : pairing.Admits step := by
  cases step with
  | request request =>
      cases request with
      | insertHandle resource handle => exact fun _ _ => trivial
      | _ => trivial
  | register make => exact h
  | changeWorld change =>
      intro handles world handles' world' hlike
      obtain ⟨rfl, rfl, hpaired⟩ := hlike
      refine ⟨rfl, rfl, fun label => ?_⟩
      rw [h]
      exact hpaired label
  | changeHost change => exact fun host hmakes => Exchange.makes_alone.mpr (h host (Exchange.makes_alone.mp hmakes))
  | _ => trivial

/-- A context after a read at a position pairs if the world does that was left. -/
theorem pread_pairing {c : Context State} (h : Companions pairing c c) (key : DescriptorKey) (buffer : Bytes)
    {offset : Nat} (hle : offset ≤ maxOffset) :
    let t := (Context.pread key buffer offset).run.run c
    Companions pairing t.2 t.2 := by
  refine Companions.self_positioned fair_pairing h (Positioned.reading_serves key buffer offset) ?_
  intro id plugin d result calls world moved _ hknown hleft hgoes _
  obtain ⟨own, spec, hstraight, hrespond⟩ := hknown.respond_eq
  have hpaired : d.world.Paired := hleft.like.2.2
  have hafter : world.Paired := hpaired.goes hrespond hstraight hle hgoes
  cases moved with
  | none => exact { hleft with like := ⟨rfl, rfl, hafter⟩ }
  | some position => exact { hleft with like := ⟨rfl, rfl, hafter⟩ }

/-- **Runs that transfer nothing but by reading at a position** leave records of pairs. -/
theorem paired_run (config : Config) {host : Host State} {world : State}
    (hhost : Makes (fun b _ => InMemory Spec.Straight b) host) (hworld : world.Paired) {steps : List (Step State)}
    (hsteps : ∀ step ∈ steps, ReadsAtPositions step) :
    (Session.run steps (Session.start config host world)).2.context.world.Paired := by
  have hstart : (Session.start config host world).Upholds pairing := Session.upholds_start config hhost hworld
  have hrun := Session.upholds_run (fun _ => rfl) fair_pairing (fun _ _ => admits_pairing) ?_ hstart
    (Session.forall₂_run hsteps _)
  · exact hrun.companions.like.2.2
  · intro s request hupholds htransfer hrequest
    cases request with
    | pread key buffer offset =>
        exact (pread_pairing hupholds.companions key buffer hrequest).self_map _
    | _ => exact absurd (htransfer.symm.trans hrequest) nofun

/-- **Nothing is transferred at a position that the backend has not confirmed.** A read or a write at a position
makes exactly these calls of the owner of the handle: the one by which the backend may position the transfer itself,
whose answer is the result if it has one; else a seek from the start, and the plain transfer if the seek landed
where it was to, and only then. Therefore, over every run whose backends are in memory with seeks that land where
they should, and that transfers nothing but by reading at a position, the records of all stores are, file by file,
of seeks that are each followed by a read at the same position. -/
theorem transfers_confirmed {σ : Type} :
    (∀ (key : DescriptorKey) (buffer : Bytes) (offset : Nat),
      (Positioned.reading buffer offset).Exactly key
        (fun received => (received.count, received.data.overlay buffer))
        (Context.pread key buffer offset : Engine σ (Nat × Bytes))) ∧
    (∀ (key : DescriptorKey) (data : Bytes) (offset : Nat),
      (Positioned.writing data offset).Exactly key (fun count => count)
        (Context.pwrite key data offset : Engine σ Nat)) ∧
    ∀ (config : Config) (host : Host State) (world : State) (steps : List (Step State)),
      Makes (fun b _ => InMemory Spec.Straight b) host → world.Paired → (∀ step ∈ steps, ReadsAtPositions step) →
        (Session.run steps (Session.start config host world)).2.context.world.Paired := by
  refine ⟨fun key buffer offset => ?_, fun key data offset => ?_, fun config host world steps hhost hworld => ?_⟩
  · exact (Positioned.reading_serves key buffer offset).exactly
  · exact (Positioned.writing_serves key data offset).exactly
  · exact paired_run config hhost hworld

def twoReads : List (Step State) :=
  [.register fun id => backend id plainSpec, .request (.openFile "mem://f" createFlag ⟨0o644⟩),
    .request (.pread (.pack 0 0) [0] 3), .request (.pread (.pack 0 0) [] 0)]

/-- The backend that lands elsewhere is made to seek, and to do nothing after that; and what is read at two
positions is observed as two pairs. -/
theorem transfers_confirmed_twice :
    (∃ plugin d result calls world moved,
      (selectOwner .pread .file (.pack 0 0)).run.run stuckContext = (.ok (0, plugin), d) ∧
        (Positioned.reading [0] 3).Goes plugin.backend (stuckContext.shown 0) () result calls world moved ∧
        Does (Context.pread (.pack 0 0) [0] 3) stuckContext
          ((fun received => (received.count, received.data.overlay [0])) <$> result) (madeOn plugin calls)
          ((d.inWorld world).placing 0 moved)) ∧
      (∀ step ∈ twoReads, ReadsAtPositions step) ∧
        (Session.run twoReads (Session.start { loadPlugins := false } {} {})).2.context.world.Paired := by
  have hsteps : ∀ step ∈ twoReads, ReadsAtPositions step := by
    have hstraight : plainSpec.Straight := rfl
    have hregister : ReadsAtPositions (.register fun id => backend id plainSpec) := inMemory_newcomer hstraight
    have hread (offset : Nat) (h : offset ≤ maxOffset) (buffer : Bytes) :
        ReadsAtPositions (.request (.pread (.pack 0 0) buffer offset)) := h
    simp only [twoReads, List.forall_mem_cons]
    exact ⟨hregister, rfl, hread 3 (by decide) _, hread 0 (by decide) _, List.forall_mem_nil _⟩
  obtain ⟨hread, -, hrun⟩ := transfers_confirmed (σ := Unit)
  obtain ⟨-, -, -, result, calls, world, moved, hgoes, hdoes⟩ :=
    hread (.pack 0 0) [0] 3 stuckContext 0 _ _ rfl
  exact ⟨⟨_, _, result, calls, world, moved, rfl, hgoes, hdoes⟩, hsteps,
    hrun { loadPlugins := false } {} {} twoReads makes_nothing (fun _ => .nil) hsteps⟩

end Memory

end StorageDispatch
