import StorageDispatch.Proofs.Memory.Contents
import StorageDispatch.Proofs.Memory.Parting
import StorageDispatch.Proofs.Registry.Lifecycle

set_option autoImplicit false

/-! # Sessions that steer clear of files adrift

It can make a difference to a session whether its backend positions reads itself: an emulated read at a position
leaves the file behind what was read. It makes none if no file is used from where it is, after a read at a position,
before its position has been set again. That is the rule of a `Steered` session, and `native_reads_agree` says that
it is enough, and that something like it is needed.

What is adrift is followed by the rule even where nothing has happened, as where a read at a position has failed. So
what is really adrift is no more than that (`Sound`). Only after a teardown is it the other way round: nothing can set
a position any longer then, but nothing can depend on it either.
-/

namespace StorageDispatch

open Context

namespace Memory

variable {name : String} {D D₁ A B : Set HandleId} {registry : Registry State} {c d : Context State}
  {operation : Operation} {key : DescriptorKey} {id : HandleId} {plugin : Plugin State}

/-! ## The rule -/

def under (c : Context State) (key : DescriptorKey) : Set HandleId := {id | (c.table .file).find? key = some id}

/-- **Which handles are adrift** after a request: a read at a position sets a handle adrift, until there is a write at
a position, or a seek from the start or from the end that succeeds. -/
def adriftAfter (D : Set HandleId) (c : Context State) : Request State → Except Error Value → Set HandleId
  | .pread key _ _, _ => D ∪ under c key
  | .pwrite key _ _, _ => D \ under c key
  | .lseek key (.start _), .ok _ => D \ under c key
  | .lseek key (.fromEnd _), .ok _ => D \ under c key
  | _, _ => D

/-- **What may be asked while some handles are adrift**: none of them is used from where its file is. Positions are
64-bit words, and no handle is taken in that stands for an open file without having been opened. -/
def Steady (D : Set HandleId) (c : Context State) : Request State → Prop
  | .read key _ | .write key _ | .lseek key (.current _) => ∀ id ∈ under c key, id ∉ D
  | .pread _ _ offset => offset ≤ maxOffset
  | .insertHandle _ handle => ∀ index, handle.payload ≠ .openFile index
  | _ => True

/-- **Requests that steer clear of files adrift**, from a session on in which these handles are adrift. -/
def Steered : Set HandleId → List (Request State) → Session State → Prop
  | _, [], _ => True
  | D, request :: requests, s =>
    Steady D s.context request ∧
      Steered (adriftAfter D s.context request (s.step (.request request)).1) requests (s.step (.request request)).2

/-! ## What is followed, and what is adrift -/

/-- **The handles that are adrift are followed**, unless all has been torn down. If there are any, then their backend
is listed until that. -/
structure Sound (name : String) (D A : Set HandleId) (registry : Registry State) : Prop where
  followed : A ⊆ D ∨ registry.phase = .tornDown
  offers : A.Nonempty → registry.Offers name

namespace Sound

/-- As long as nothing is adrift, there is nothing to follow. -/
theorem empty (name : String) (D : Set HandleId) (registry : Registry State) : Sound name D ∅ registry :=
  ⟨.inl (Set.empty_subset D), fun h => absurd h Set.not_nonempty_empty⟩

theorem mono (h : Sound name D A registry) (hsub : D ⊆ D₁) : Sound name D₁ A registry :=
  ⟨h.followed.imp_left fun hD => hD.trans hsub, h.offers⟩

theorem anti (h : Sound name D A registry) (hsub : B ⊆ A) : Sound name D B registry :=
  ⟨h.followed.imp_left hsub.trans, fun hne => h.offers (hne.mono hsub)⟩

/-- A request sets nothing adrift unless it is a transfer. -/
theorem turn {request : Request State} {s t : Session State} (h : Sound name D A s.context.registry)
    (hturn : Session.Turn (.request request) s t) (hconsistent : s.context.registry.Consistent) :
    Sound name D A t.context.registry := by
  refine ⟨h.followed.imp_right ?_, fun hne => Session.offers_turn hturn hconsistent (h.offers hne)⟩
  exact Session.phase_of_tornDown (Session.passage_turn hturn hconsistent)

/-- Nor does it when an owner is selected. -/
theorem select {outcome : Except Error (HandleId × Plugin State)} (h : Sound name D A c.registry)
    (hrun : (selectOwner operation .file key).run.run c = (outcome, d)) : Sound name D A d.registry := by
  rcases A.eq_empty_or_nonempty with rfl | hne
  · exact .empty name D d.registry
  · rw [registry_selectOwner (h.offers hne).known hrun]
    exact h

/-- If an owner is selected, then what is adrift is followed. -/
theorem followed_of_selected (h : Sound name D A c.registry) (hconsistent : c.registry.Consistent)
    (hrun : (selectOwner operation .file key).run.run c = (.ok (id, plugin), d)) : A ⊆ D := by
  refine h.followed.resolve_right fun hdown => ?_
  have hknown : c.registry.phase.isKnown := by
    rw [hdown]
    trivial
  have hlisted := (selectOwner_listed hrun).2
  rw [registry_selectOwner hknown hrun, (hconsistent.empty_of_tornDown hdown).1] at hlisted
  cases hlisted

/-- The handle of which the owner is selected is adrift no longer. -/
theorem settle (h : Sound name D A c.registry) (hconsistent : c.registry.Consistent)
    (hrun : (selectOwner operation .file key).run.run c = (.ok (id, plugin), d)) :
    Sound name (D \ under c key) (A \ {id}) d.registry := by
  have hfollowed := h.followed_of_selected hconsistent hrun
  have hfind : (c.table .file).find? key = some id := (selectOwner_does hrun).1
  refine ⟨.inl fun other hother => ⟨hfollowed hother.1, fun hunder => hother.2 ?_⟩, fun hne => ?_⟩
  · exact Option.some.inj ((show (c.table .file).find? key = some other from hunder).symm.trans hfind)
  · exact ((h.select hrun).anti Set.sdiff_subset).offers hne

/-- The handle of which the owner is selected is set adrift. -/
theorem drift (h : Sound name D A c.registry) (hconsistent : c.registry.Consistent)
    (hrun : (selectOwner operation .file key).run.run c = (.ok (id, plugin), d)) (hname : plugin.name = name) :
    Sound name (D ∪ under c key) (insert id A) d.registry := by
  have hfollowed := h.followed_of_selected hconsistent hrun
  have hfind : (c.table .file).find? key = some id := (selectOwner_does hrun).1
  obtain ⟨hknown, hlisted⟩ := selectOwner_listed hrun
  refine ⟨.inl ?_, fun _ => ⟨hknown, fun _ => ⟨plugin, hlisted, hname⟩⟩⟩
  rintro other (rfl | hother)
  · exact .inr hfind
  · exact .inl (hfollowed hother)

/-- If no owner is selected of a handle adrift, then all has been torn down. -/
theorem lose {error : Error} (h : Sound name D A c.registry)
    (howned : ∀ id ∈ A, (c.shown id).handle.owner = name)
    (hrun : (selectOwner operation .file key).run.run c = (.error error, d)) :
    Sound name (D \ under c key) A d.registry := by
  have hselect := h.select hrun
  refine ⟨?_, hselect.offers⟩
  by_cases hthere : ∃ id ∈ A, id ∈ under c key
  · obtain ⟨id, hid, hfind⟩ := hthere
    have hoffers := h.offers ⟨id, hid⟩
    rw [registry_selectOwner hoffers.known hrun]
    refine .inr ((Phase.ready_or_tornDown hoffers.known).resolve_left fun hready => ?_)
    -- The backend is there, so it would have been selected.
    obtain ⟨plugin, hmem, hname⟩ := hoffers.listed hready
    obtain ⟨found, hfound⟩ := selectOwner_owned hoffers.known hfind hmem (hname.trans (howned id hid).symm) hrun
    cases hfound
  · refine hselect.followed.imp_left fun hD other hother => ⟨hD hother, fun hunder => ?_⟩
    exact hthere ⟨other, hother, hunder⟩

end Sound

/-! ## Requests side by side -/

section Requests

variable {spec : Spec} {own : InstanceId} {c c' : Context State} {α β : Type}

/-- **Contexts in convoy**: they are companions while some handles are adrift, and these are followed. -/
def Convoy (own : InstanceId) (spec : Spec) (D : Set HandleId) : Context State → Context State → Prop :=
  Accompany (Within own spec (Sound spec.name D))

/-- **A plain use of a file.** Its handle must not be adrift unless the use is absolute; then it is adrift no longer
once it has succeeded. -/
theorem plain_convoy (hconsistent : c.registry.Consistent) (h : Convoy own spec D c c') {p : Plain α}
    {absolute : Bool} (hp : Parallel own spec absolute p) (value : α → β)
    (hclean : absolute = true ∨ ∀ id ∈ under c key, id ∉ D)
    (hfailed : ∀ error, ((p.serve key value).run.run c).1 = .error error → D ⊆ D₁)
    (hdone : ∀ b, ((p.serve key value).run.run c).1 = .ok b → D \ under c key ⊆ D₁) :
    MeetsE (Convoy own spec D₁) Eq (p.serve key value) (p.serve key value) c c' := by
  obtain ⟨E, ⟨A, rfl, hsound⟩, hc⟩ := h
  refine plain_parting hc hp value ?_ ?_ ?_
  · intro id plugin d hrun
    have hfollowed := hsound.followed_of_selected hconsistent hrun
    exact hclean.imp_right fun hD hid => hD id (selectOwner_does hrun).1 (hfollowed hid)
  · intro outcome d error hrun herror
    exact (hsound.select hrun).mono (hfailed error herror)
  · intro id plugin d b hrun hok
    exact (hsound.settle hconsistent hrun).mono (hdone b hok)

/-- A use of a file from where it is. -/
theorem clean_convoy (hconsistent : c.registry.Consistent) (h : Convoy own spec D c c') {p : Plain α}
    (hp : Parallel own spec false p) (value : α → β) (hclean : ∀ id ∈ under c key, id ∉ D) :
    MeetsE (Convoy own spec D) Eq (p.serve key value) (p.serve key value) c c' :=
  plain_convoy hconsistent h hp value (.inr hclean) (fun _ _ => subset_rfl) fun _ _ => Set.sdiff_subset

/-- A buffer that is empty is refused at once. -/
theorem refused_convoy (h : Convoy own spec D c c') (operation : Operation) (error : Error) :
    MeetsE (Convoy own spec D) Eq (counted operation (throw error) : Engine State α)
      (counted operation (throw error)) c c' := by
  obtain ⟨E, hE, hc⟩ := h
  obtain ⟨hagrees, hleft⟩ := Companions.refused (α := α) operation error c c' hc
  exact ⟨hagrees, E, hE, hleft⟩

theorem pwrite_convoy (hconsistent : c.registry.Consistent) (h : Convoy own spec D c c') (data : Bytes) (offset : Nat) :
    MeetsE (Convoy own spec (D \ under c key)) Eq (Context.pwrite key data offset)
      (Context.pwrite key data offset) c c' := by
  obtain ⟨E, ⟨A, rfl, hsound⟩, hc⟩ := h
  refine pwrite_parting hc data offset ?_ ?_
  · intro error d hrun
    refine hsound.lose (fun id hid => ?_) hrun
    obtain ⟨handle, hget, howner⟩ := hc.like.owned id hid
    rw [shown, hget]
    exact howner
  · intro id plugin d hrun
    exact hsound.settle hconsistent hrun

theorem pread_convoy (hplain : spec.nativePread = false) (hskew : spec.seekSkew = 0)
    (hconsistent : c.registry.Consistent) (h : Convoy own spec D c c') (buffer : Bytes) {offset : Nat}
    (hle : offset ≤ maxOffset) :
    MeetsE (Convoy own spec (D ∪ under c key)) Eq (Context.pread key buffer offset)
      (Context.pread key buffer offset) c c' := by
  obtain ⟨E, ⟨A, rfl, hsound⟩, hc⟩ := h
  refine pread_parting hc hplain hskew buffer hle ?_ ?_
  · intro outcome d hrun
    exact (hsound.select hrun).mono Set.subset_union_left
  · intro id plugin d hrun hname
    exact hsound.drift hconsistent hrun hname

/-- What is made of equal results is the same. -/
theorem like_map {work work' : Engine State α} (f : α → Value) (h : MeetsE (Convoy own spec D) Eq work work' c c') :
    MeetsE (Convoy own spec D) Value.Like (f <$> work) (f <$> work') c c' := by
  refine h.map fun a b hab => ?_
  rw [hab]
  exact .refl _

/-- A seek that does not depend on the present position. -/
theorem lseek_convoy (hconsistent : c.registry.Consistent) (h : Convoy own spec D c c') {target : SeekTarget}
    (habsolute : target.isAbsolute = true) :
    MeetsE (Convoy own spec (adriftAfter D c (.lseek key target) ((Request.lseek key target).serve.run.run c).1))
      Value.Like (Request.lseek key target).serve (Request.lseek key target).serve c c' := by
  have houtcome : ((Request.lseek key target).serve.run.run c).1 =
      Value.number <$> ((Context.lseek key target).run.run c).1 := congrArg Prod.fst (run_map _ _ _)
  rw [houtcome]
  apply like_map
  rw [Plain.lseek_eq]
  refine plain_convoy hconsistent h (parallel_seeking own spec target) _ (.inl habsolute) ?_ ?_
  · intro error herror
    rw [herror]
    cases target <;> exact subset_rfl
  · intro landed hok
    rw [hok]
    cases target with
    | current delta => exact Bool.noConfusion habsolute
    | start offset | fromEnd delta => exact subset_rfl

end Requests

section Sessions

variable {spec : Spec} {own : InstanceId} {s s' : Session State}

/-- **A request that may be asked** comes to the same in both sessions. -/
theorem convoy_serve (hplain : spec.nativePread = false) (hskew : spec.seekSkew = 0)
    (hconsistent : s.context.registry.Consistent) (h : Convoy own spec D s.context s'.context)
    {request : Request State} (hsteady : Steady D s.context request) :
    MeetsE (Convoy own spec (adriftAfter D s.context request (s.step (.request request)).1)) Value.Like
      request.serve request.serve s.context s'.context := by
  by_cases htransfer : request.isTransfer = true
  · cases request with
    | read key buffer =>
        apply like_map
        by_cases hsize : buffer = []
        · subst hsize
          exact refused_convoy h .read .emptyBuffer
        · rw [Plain.read_eq key hsize]
          exact clean_convoy hconsistent h (parallel_reading own spec buffer.length) _ hsteady
    | write key data =>
        apply like_map
        by_cases hsize : data = []
        · subst hsize
          exact refused_convoy h .write .emptyBuffer
        · rw [Plain.write_eq key hsize]
          exact clean_convoy hconsistent h (parallel_writing own spec data) _ hsteady
    | lseek key target =>
        cases target with
        | start offset => exact lseek_convoy hconsistent h rfl
        | fromEnd delta => exact lseek_convoy hconsistent h rfl
        | current delta =>
            apply like_map
            rw [Plain.lseek_eq]
            exact clean_convoy hconsistent h (parallel_seeking own spec (.current delta)) _ hsteady
    | pread key buffer offset => exact like_map _ (pread_convoy hplain hskew hconsistent h buffer hsteady)
    | pwrite key data offset => exact like_map _ (pwrite_convoy hconsistent h data offset)
    | _ => exact Bool.noConfusion htransfer
  · -- What transfers nothing sets no handle adrift, and nobody notices the exchange in it.
    have hsame : adriftAfter D s.context request (s.step (.request request)).1 = D := by
      cases request <;> first | rfl | exact absurd rfl htransfer
    rw [hsame]
    obtain ⟨E, ⟨A, rfl, hsound⟩, hc⟩ := h
    have hinsert (resource : Resource) (handle : FileHandle) (hrequest : request = .insertHandle resource handle)
        (handles : Array FileHandle) (world : State) : (parting own spec A).Fresh handle handles world := by
      subst hrequest
      exact lodger_of_ne hsteady
    have hserve := Request.like_serve (fair_parting own spec A) (Bool.not_eq_true _ ▸ htransfer) hinsert
    obtain ⟨hagrees, hleft⟩ := hserve _ _ hc
    exact ⟨hagrees, _, ⟨A, rfl, hsound.turn (Session.turn_step (.request request) s) hconsistent⟩, hleft⟩

/-- **Requests that steer clear of files adrift** come to the same in both sessions. -/
theorem convoy_run (hplain : spec.nativePread = false) (hskew : spec.seekSkew = 0) {requests : List (Request State)}
    (hconsistent : s.context.registry.Consistent) (h : Convoy own spec D s.context s'.context)
    (hsteered : Steered D requests s) :
    List.Forall₂ (Agrees Value.Like) (Session.run (requests.map .request) s).1
        (Session.run (requests.map .request) s').1 ∧
      ∃ D', Convoy own spec D' (Session.run (requests.map .request) s).2.context
        (Session.run (requests.map .request) s').2.context := by
  induction requests generalizing s s' D with
  | nil => exact ⟨.nil, D, h⟩
  | cons request requests ih =>
      obtain ⟨hhead, htail⟩ := hsteered
      obtain ⟨hagrees, hleft⟩ := convoy_serve hplain hskew hconsistent h hhead
      have hnext := Session.consistent_turn (Session.turn_step (.request request) s) hconsistent
      have hbeside : Convoy own spec _ (s.step (.request request)).2.context (s'.step (.request request)).2.context :=
        hleft
      obtain ⟨hrest, hend⟩ := ih hnext hbeside htail
      exact ⟨.cons hagrees hrest, hend⟩

end Sessions

/-! ## Sessions that differ in their backend -/

def launched (config : Config) (host : Host State) (world : State) (spec : Spec) : Session State :=
  ((Session.start config host world).step (.register fun id => backend id spec)).2

/-- Sessions that differ in their backend begin as companions, if no module makes another one. -/
theorem companions_launched {E : Exchange State} (F : E.Discreet) (config : Config) {host : Host State}
    (hhost : Makes (fun _ _ => False) host) {world world' : State} (hlike : E.Like #[] world #[] world')
    {spec spec' : Spec} (htraded : E.Traded (backend (.registered 0) spec) (backend (.registered 0) spec')) :
    Companions E (launched config host world spec).context (launched config host world' spec').context := by
  have hstart : Companions E (Session.start config host world).context (Session.start config host world').context :=
    { config_eq := rfl
      host_eq := rfl
      makes := fun dir name entryPoint hfile told n b hb => (hhost dir name entryPoint hfile told n b hb).elim
      registry_eq := rfl
      known := List.forall_mem_nil _
      files_eq := rfl
      directories_eq := rfl
      like := hlike }
  exact ((Companions.discovering F).register htraded _ _ hstart).2

/-- Nothing is adrift in the beginning. -/
theorem convoy_launched (config : Config) {host : Host State} (hhost : Makes (fun _ _ => False) host)
    (world : State) (spec : Spec) : Convoy (.registered 0) spec ∅ (launched config host world spec).context
      (launched config host world spec.native).context := by
  have hparted : Parted spec.name ∅ #[] world #[] world :=
    { size_eq := rfl
      handle_like := fun _ => .refl _
      lodged := .empty world
      owned := fun _ hid => hid.elim
      apart := .refl _ world }
  have hfair := fair_parting (.registered 0) spec ∅
  exact ⟨_, ⟨∅, rfl, .empty spec.name ∅ _⟩, companions_launched hfair.discreet config hhost hparted ⟨rfl, rfl⟩⟩

def straying : List (Request State) :=
  [.openFile "mem://f" createFlag ⟨0o644⟩, .pwrite (.pack 0 0) [7, 8] 0, .pread (.pack 0 0) [0] 0,
    .read (.pack 0 0) [0]]

/-- What is read then depends on who has positioned the read before. -/
theorem straying_differs : ¬ List.Forall₂ (Agrees Value.Like)
    (Session.run (straying.map .request) (launched { loadPlugins := false } {} {} plainSpec)).1
    (Session.run (straying.map .request) (launched { loadPlugins := false } {} {} plainSpec.native)).1 := by
  have hplain : (Session.run (straying.map .request) (launched { loadPlugins := false } {} {} plainSpec)).1 =
      [.ok (.key (.pack 0 0)), .ok (.number 2), .ok (.transfer 1 [7]), .ok (.transfer 1 [8])] := by cbv
  have hnative :
      (Session.run (straying.map .request) (launched { loadPlugins := false } {} {} plainSpec.native)).1 =
        [.ok (.key (.pack 0 0)), .ok (.number 2), .ok (.transfer 1 [7]), .ok (.transfer 0 [0])] := by cbv
  rw [hplain, hnative]
  intro h
  simp only [List.forall₂_cons] at h
  obtain ⟨-, -, -, hlast, -⟩ := h
  cases hlast with
  | ok hlike => cases hlike

/-- **It makes no difference whether a backend positions its reads itself**, if its seeks land where they should, no
module makes another one, and the requests steer clear of files adrift: they come to the same, but for recorded
positions, and leave the same files. The rule is needed: there are requests that break it only by a read right after
a read at a position, and come to something else. -/
theorem native_reads_agree :
    (∀ (config : Config) (host : Host State) (world : State) (spec : Spec) (requests : List (Request State)),
      Makes (fun _ _ => False) host → spec.nativePread = false → spec.seekSkew = 0 →
        Steered ∅ requests (launched config host world spec) →
          let plain := Session.run (requests.map .request) (launched config host world spec)
          let native := Session.run (requests.map .request) (launched config host world spec.native)
          List.Forall₂ (Agrees Value.Like) plain.1 native.1 ∧
            ∀ label, (native.2.context.world.store label).files = (plain.2.context.world.store label).files) ∧
    ∃ (config : Config) (host : Host State) (world : State) (spec : Spec) (before : List (Request State))
      (key : DescriptorKey) (buffer buffer' : Bytes) (offset : Nat),
      Makes (fun _ _ => False) host ∧ spec.nativePread = false ∧ spec.seekSkew = 0 ∧
        Steered ∅ (before ++ [.pread key buffer offset]) (launched config host world spec) ∧
          let requests := before ++ [.pread key buffer offset, .read key buffer']
          ¬ List.Forall₂ (Agrees Value.Like)
            (Session.run (requests.map .request) (launched config host world spec)).1
            (Session.run (requests.map .request) (launched config host world spec.native)).1 := by
  constructor
  · intro config host world spec requests hhost hplain hskew hsteered
    have hconsistent : (launched config host world spec).context.registry.Consistent :=
      Session.consistent_after config host world [.register fun id => backend id spec]
    obtain ⟨hagrees, D', E, ⟨A, rfl, -⟩, hleft⟩ :=
      convoy_run hplain hskew hconsistent (convoy_launched config hhost world spec) hsteered
    refine ⟨hagrees, fun label => ?_⟩
    obtain ⟨transfers, hstore⟩ := hleft.like.apart.stores label
    rw [hstore]
    rfl
  · refine ⟨{ loadPlugins := false }, {}, {}, plainSpec,
      [.openFile "mem://f" createFlag ⟨0o644⟩, .pwrite (.pack 0 0) [7, 8] 0], .pack 0 0, [0], [0], 0, ?_⟩
    exact ⟨nofun, rfl, rfl, ⟨trivial, trivial, Nat.zero_le _, trivial⟩, straying_differs⟩

/-- A file is read from at a position, and from where it is after a write at a position. It vanishes at last. -/
def steering : List (Request State) :=
  [.openFile "mem://f" createFlag ⟨0o644⟩, .pwrite (.pack 0 0) [7, 8, 9] 0, .pread (.pack 0 0) [0] 2,
    .pwrite (.pack 0 0) [5] 0, .read (.pack 0 0) [0, 0], .pread (.pack 0 0) [] 7, .unlink "mem://f",
    .pread (.pack 0 0) [0] 0]

def steeredBy (n : Nat) : Session State :=
  (Session.run ((steering.take n).map .request) (launched { loadPlugins := false } {} {} plainSpec)).2

theorem steered_steering : Steered ∅ steering (launched { loadPlugins := false } {} {} plainSpec) := by
  refine ⟨trivial, trivial, ?_, trivial, ?_, ?_, trivial, ?_, trivial⟩
  · exact (by decide : 2 ≤ maxOffset)
  · -- The write at a position is about the same handle as the read after it.
    have hwritten : ((steeredBy 3).context.table .file).find? (.pack 0 0) = some 0 := by cbv
    have hread : ((steeredBy 4).context.table .file).find? (.pack 0 0) = some 0 := by cbv
    rintro id hid ⟨-, hgone⟩
    exact hgone (hwritten.trans (hread.symm.trans hid))
  · exact (by decide : 7 ≤ maxOffset)
  · exact Nat.zero_le _

theorem native_reads_agree_steering :
    Makes (fun _ _ => False) ({} : Host State) ∧ plainSpec.nativePread = false ∧ plainSpec.seekSkew = 0 ∧
      Steered ∅ steering (launched { loadPlugins := false } {} {} plainSpec) ∧
        List.Forall₂ (Agrees Value.Like)
          (Session.run (steering.map .request) (launched { loadPlugins := false } {} {} plainSpec)).1
          (Session.run (steering.map .request) (launched { loadPlugins := false } {} {} plainSpec.native)).1 ∧
        ∀ label,
          ((Session.run (steering.map .request)
            (launched { loadPlugins := false } {} {} plainSpec.native)).2.context.world.store label).files =
          ((Session.run (steering.map .request)
            (launched { loadPlugins := false } {} {} plainSpec)).2.context.world.store label).files := by
  have hnone : Makes (fun _ _ => False) ({} : Host State) := nofun
  have hagree := native_reads_agree.1 { loadPlugins := false } {} {} plainSpec steering hnone rfl rfl steered_steering
  exact ⟨hnone, rfl, rfl, steered_steering, hagree⟩

end Memory

end StorageDispatch
