import StorageDispatch.Proofs.Session.Dealings
import Mathlib

set_option autoImplicit false

/-! # The life of a handle

A handle that a backend opens is taken in, and then there are two cases. If its table has room it gets a
key, and is reachable under this key and no other one until a closing of the key succeeds or the context
ends. As long as it is, nothing but a closing of the key closes it, and afterwards nobody is called about it
again. If the table has no room it never gets a key: its owner is asked to close it once, and that is all.

`handle_conserved` says so of every run in which nobody edits the tables.
-/

namespace StorageDispatch

variable {σ : Type}

namespace Context

/-! ## Calls about a handle -/

def concerns (h : HandleId) (entry : InstanceId × String × Call) : Bool :=
  entry.2.2.about?.any fun opened => opened.id == h

def dealings (c : Context σ) (h : HandleId) : List (InstanceId × String × Call) := c.calls.filter (concerns h)

def closings (c : Context σ) (h : HandleId) : List (InstanceId × String × Call) :=
  c.calls.filter fun entry => concerns h entry && entry.2.2.closes

/-- A handle is in one table under one key, and nowhere else. -/
def Reaches (c : Context σ) (h : HandleId) (resource : Resource) (key : DescriptorKey) : Prop :=
  ∀ other k, (c.table other).find? k = some h ↔ other = resource ∧ k = key

variable {c d : Context σ} {h : HandleId} {resource : Resource} {key : DescriptorKey}

theorem concerns_iff {entry : InstanceId × String × Call} :
    concerns h entry = true ↔ ∃ opened, entry.2.2.about? = some opened ∧ opened.id = h := by
  rw [concerns, Option.any_eq_true]
  constructor
  · rintro ⟨opened, habout, hid⟩
    exact ⟨opened, habout, beq_iff_eq.mp hid⟩
  · rintro ⟨opened, habout, hid⟩
    exact ⟨opened, habout, beq_iff_eq.mpr hid⟩

/-- Calls that are not about a handle do not count for it. -/
theorem filter_of_adds {P : InstanceId × String × Call → Bool} (h : Adds (fun entry => P entry = false) c d) :
    d.calls.filter P = c.calls.filter P := by
  obtain ⟨made, hcalls, hmade⟩ := h
  have hnone : made.filter P = [] := List.filter_eq_nil_iff.mpr fun entry hentry => by
    rw [hmade entry hentry]
    exact Bool.false_ne_true
  rw [hcalls, List.filter_append, hnone, List.append_nil]

theorem dealings_of_adds
    (hadds : Adds (fun entry => ∀ opened, entry.2.2.about? = some opened → opened.id ≠ h) c d) :
    d.dealings h = c.dealings h := by
  refine filter_of_adds (hadds.mono fun entry hentry => Bool.eq_false_iff.mpr fun hconcerns => ?_)
  obtain ⟨opened, habout, hid⟩ := concerns_iff.mp hconcerns
  exact hentry opened habout hid

theorem closings_of_adds (hadds : Adds (fun entry => entry.2.2.closes = true →
      ∀ opened, entry.2.2.about? = some opened → opened.id ≠ h) c d) :
    d.closings h = c.closings h := by
  refine filter_of_adds (hadds.mono fun entry hentry => Bool.eq_false_iff.mpr fun hboth => ?_)
  obtain ⟨hconcerns, hcloses⟩ := Bool.and_eq_true_iff.mp hboth
  obtain ⟨opened, habout, hid⟩ := concerns_iff.mp hconcerns
  exact hentry hcloses opened habout hid

theorem Reaches.holds (hreaches : c.Reaches h resource key) : c.Holds h :=
  ⟨resource, key, (hreaches resource key).mpr ⟨rfl, rfl⟩⟩

theorem Reaches.find?_eq (hreaches : c.Reaches h resource key) : (c.table resource).find? key = some h :=
  (hreaches resource key).mpr ⟨rfl, rfl⟩

theorem Reaches.congr (hreaches : c.Reaches h resource key)
    (htable : ∀ other, d.table other = c.table other) : d.Reaches h resource key := fun other k => by
  rw [htable]
  exact hreaches other k

end Context

/-- Whether a step ends the life of the handle under a key: it closes the key and succeeds, or it is the end
of the context. -/
def Step.Ends (resource : Resource) (key : DescriptorKey) (step : Step σ) (outcome : Except Error Value) :
    Prop :=
  step = .request .tearDown ∨ (step = .request (resource.closing key) ∧ ∃ value, outcome = .ok value)

namespace Session

open Context

/-- Whether one of the steps of a run ends the life of the handle under a key. -/
def Ended (resource : Resource) (key : DescriptorKey) : List (Step σ) → Session σ → Prop
  | [], _ => False
  | step :: steps, s => step.Ends resource key (s.step step).1 ∨ Ended resource key steps (s.step step).2

section Life

variable {h : HandleId} {resource : Resource} {key : DescriptorKey} {s : Session σ} {step : Step σ}

/-! ## While a handle is open -/

/-- A handle that is reached stays so until its life is ended. -/
theorem reaches_step (hs : s.Sound) (hreaches : s.context.Reaches h resource key)
    (hedit : step.editsTable = false) (hgoes : ¬ step.Ends resource key (s.step step).1) :
    (s.step step).2.context.Reaches h resource key := by
  have hdealing := dealing_step hs hedit
  generalize (s.step step).1 = outcome at hdealing hgoes
  generalize (s.step step).2.context = d at hdealing ⊢
  have hlt := hs.lt_size h hreaches.holds
  cases hdealing with
  | calm hcalm => exact hreaches.congr hcalm.table_eq
  | rejected _ htable => exact hreaches.congr htable
  | ended => exact absurd (.inl rfl) hgoes
  | @opened o issued after _ hinsert htable =>
      intro other k
      rw [htable, ← hreaches other k]
      by_cases hother : other = o.resource
      · -- The new key finds the new handle, which is another one.
        rw [hother, table_withTable, DescriptorTable.find?_insert (hs.wellFormed _) hinsert]
        split
        · rename_i hk
          rw [hk, DescriptorTable.find?_key_of_insert (hs.wellFormed _) hinsert]
          refine ⟨fun heq => absurd (Option.some.inj heq) (Nat.ne_of_gt hlt), nofun⟩
        · exact Iff.rfl
      · rw [table_withTable_ne _ hother]
  | @closed changed closing id after result _ _ _ hremove _ htable =>
      cases result with
      | error error =>
          refine hreaches.congr fun other => ?_
          rw [htable]
          exact table_made s.context changed other
      | ok _ =>
          -- The key that was closed is another one, so it was taken away from another handle.
          have hne : ¬ (changed = resource ∧ closing = key) := by
            rintro ⟨rfl, rfl⟩
            exact hgoes (.inr ⟨rfl, _, rfl⟩)
          intro other k
          rw [htable, ← hreaches other k]
          by_cases hother : other = changed
          · rw [hother, table_withTable, show s.context.tableAfter changed after (.ok _) = after from rfl,
              DescriptorTable.find?_remove hremove]
            split
            · rename_i hk
              refine ⟨nofun, fun hfind => absurd ((hreaches changed k).mp hfind) fun ⟨hr, hkey⟩ => ?_⟩
              exact hne ⟨hr, hk.symm.trans hkey⟩
            · exact Iff.rfl
          · rw [table_withTable_ne _ hother]

/-- **What a step may do to a handle that is open under a key**: nothing closes it but a closing of the key,
and then its owner is called once, or nobody if it has no owner. -/
structure Keeping (h : HandleId) (resource : Resource) (key : DescriptorKey) (s : Session σ) (step : Step σ) :
    Prop where
  other : step ≠ .request (resource.closing key) →
    (s.step step).2.context.closings h = s.context.closings h
  closing : step = .request (resource.closing key) → ∃ result made world,
    OwnerCloses resource.closingOperation resource (s.context.shown h) s.context.registry.plugins
      s.context.world result made world ∧
    (s.step step).1 = (fun _ => Value.unit) <$> result ∧
    (s.step step).2.context.calls = s.context.calls ++ made

theorem closings_step (hs : s.Sound) (hreaches : s.context.Reaches h resource key)
    (hedit : step.editsTable = false) (hother : step ≠ .request (resource.closing key)) :
    (s.step step).2.context.closings h = s.context.closings h := by
  have hdealing := dealing_step hs hedit
  have hlt := hs.lt_size h hreaches.holds
  have hnone (entry : InstanceId × String × Call) (hnone : entry.2.2.about? = none)
      (_ : entry.2.2.closes = true) (opened : OpenHandle) (hopened : entry.2.2.about? = some opened) :
      opened.id ≠ h := by
    rw [hnone] at hopened
    cases hopened
  generalize (s.step step).1 = outcome at hdealing
  generalize (s.step step).2.context = d at hdealing ⊢
  refine closings_of_adds ?_
  cases hdealing with
  | calm hcalm =>
      refine hcalm.adds.mono fun entry ⟨hopen, _⟩ hcloses => ?_
      rw [hopen] at hcloses
      cases hcloses
  | opened _ _ _ _ hcalls | ended _ _ hcalls => exact hcalls.mono hnone
  | rejected _ _ _ hcloses hcalls =>
      obtain ⟨asked, hcalls, hasked⟩ := hcalls
      obtain ⟨world, result, world', hcloses⟩ := hcloses
      refine ⟨_, by rw [hcalls, List.append_assoc], fun entry hentry => ?_⟩
      rcases List.mem_append.mp hentry with hentry | hentry
      · exact hnone entry (hasked entry hentry)
      · -- The handle that is closed for want of room is a new one.
        intro _ opened hopened
        rw [show opened.id = _ from hcloses.about hentry hopened]
        exact Nat.ne_of_gt hlt
  | @closed changed closing id _ _ _ _ _ hremove hcloses _ _ hcalls =>
      refine ⟨_, hcalls, fun entry hentry _ opened hopened heq => ?_⟩
      have hid : id = h := (hcloses.about hentry hopened).symm.trans heq
      have hfind := DescriptorTable.find?_of_remove hremove
      rw [hid] at hfind
      obtain ⟨rfl, rfl⟩ := (hreaches changed closing).mp hfind
      exact hother rfl

theorem keeping_of_reaches (hs : s.Sound) (hreaches : s.context.Reaches h resource key)
    (hedit : step.editsTable = false) : Keeping h resource key s step := by
  refine ⟨closings_step hs hreaches hedit, fun hstep => ?_⟩
  obtain ⟨after, hremove⟩ := DescriptorTable.remove_of_find? hreaches.find?_eq
  obtain ⟨result, made, world, hcloses, houtcome, -, -, hcalls⟩ :=
    close_of_remove (hs.known h hreaches.holds) hremove
  rw [hstep]
  exact ⟨result, made, world, hcloses, houtcome, hcalls⟩

/-! ## When a handle is gone -/

/-- A handle that is in no table stays out of them, and nobody is called about it. -/
theorem gone_step (hs : s.Sound) (hlt : h < s.context.handles.size) (hgone : ¬ s.context.Holds h)
    (hedit : step.editsTable = false) :
    ¬ (s.step step).2.context.Holds h ∧ (s.step step).2.context.dealings h = s.context.dealings h := by
  have hdealing := dealing_step hs hedit
  refine ⟨?_, dealings_of_adds (hdealing.adds.mono fun entry hentry opened hopened heq => ?_)⟩
  · rintro ⟨other, k, hfind⟩
    rcases hdealing.find? hs.wellFormed hfind with hfind | ⟨hnew, -, -⟩
    · exact hgone ⟨other, k, hfind⟩
    · exact Nat.ne_of_lt hlt hnew
  · rcases hentry opened hopened with hholds | ⟨hnew, -⟩
    · rw [heq] at hholds
      exact hgone hholds
    · exact Nat.ne_of_lt hlt (heq.symm.trans hnew)

/-- Whatever ends the life of a handle takes it out of the tables. -/
theorem gone_of_ends (hs : s.Sound) (hreaches : s.context.Reaches h resource key)
    (hends : step.Ends resource key (s.step step).1) : ¬ (s.step step).2.context.Holds h := by
  rcases hends with rfl | ⟨rfl, value, hvalue⟩
  · obtain ⟨htable, -, -⟩ := teardown_clears s.context
    rintro ⟨other, k, hfind⟩
    have hempty : ((s.context.table other).clear).find? k = some h := by
      rw [← htable]
      exact hfind
    rw [DescriptorTable.find?_clear] at hempty
    cases hempty
  · obtain ⟨after, hremove⟩ := DescriptorTable.remove_of_find? hreaches.find?_eq
    obtain ⟨result, made, world, hcloses, houtcome, htable, -, -⟩ :=
      close_of_remove (hs.known h hreaches.holds) hremove
    rw [houtcome] at hvalue
    cases result with
    | error error => cases hvalue
    | ok _ =>
        rintro ⟨other, k, hfind⟩
        rw [htable] at hfind
        -- The key was the only one of its handle, in this table and in the other.
        by_cases hother : other = resource
        · rw [hother, table_withTable, show s.context.tableAfter resource after (.ok _) = after from rfl,
            DescriptorTable.find?_remove hremove] at hfind
          split at hfind
          · cases hfind
          · rename_i hk
            exact hk ((hreaches resource k).mp hfind).2
        · rw [table_withTable_ne _ hother] at hfind
          exact hother ((hreaches other k).mp hfind).1

/-! ## Runs -/

variable {steps : List (Step σ)}

/-- Until its life is ended, a handle stays reached. -/
theorem reaches_run (hs : s.Sound) (hreaches : s.context.Reaches h resource key)
    (hedit : ∀ step ∈ steps, step.editsTable = false) (hgoes : ¬ Ended resource key steps s) :
    (run steps s).2.context.Reaches h resource key := by
  induction steps generalizing s with
  | nil => exact hreaches
  | cons step steps ih =>
      obtain ⟨hstep, hsteps⟩ := List.forall_mem_cons.mp hedit
      obtain ⟨hgoes, hgoesOn⟩ := not_or.mp hgoes
      exact ih (sound_step hs hstep) (reaches_step hs hreaches hstep hgoes) hsteps hgoesOn

theorem gone_run (hs : s.Sound) (hlt : h < s.context.handles.size) (hgone : ¬ s.context.Holds h)
    (hedit : ∀ step ∈ steps, step.editsTable = false) :
    h < (run steps s).2.context.handles.size ∧ ¬ (run steps s).2.context.Holds h ∧
      (run steps s).2.context.dealings h = s.context.dealings h := by
  induction steps generalizing s with
  | nil => exact ⟨hlt, hgone, rfl⟩
  | cons step steps ih =>
      obtain ⟨hstep, hsteps⟩ := List.forall_mem_cons.mp hedit
      obtain ⟨hgone', hdealings⟩ := gone_step hs hlt hgone hstep
      have hlt' := Nat.lt_of_lt_of_le hlt (dealing_step hs hstep).size_le
      obtain ⟨hend, hnowhere, hdealings'⟩ := ih (sound_step hs hstep) hlt' hgone' hsteps
      exact ⟨hend, hnowhere, hdealings'.trans hdealings⟩

/-- Once its life is ended, a handle is gone. -/
theorem gone_of_ended (hs : s.Sound) (hreaches : s.context.Reaches h resource key)
    (hedit : ∀ step ∈ steps, step.editsTable = false) (hended : Ended resource key steps s) :
    h < (run steps s).2.context.handles.size ∧ ¬ (run steps s).2.context.Holds h := by
  induction steps generalizing s with
  | nil => exact hended.elim
  | cons step steps ih =>
      obtain ⟨hstep, hsteps⟩ := List.forall_mem_cons.mp hedit
      by_cases hends : step.Ends resource key (s.step step).1
      · have hlt := Nat.lt_of_lt_of_le (hs.lt_size h hreaches.holds) (dealing_step hs hstep).size_le
        obtain ⟨hlt', hgone, -⟩ := gone_run (sound_step hs hstep) hlt (gone_of_ends hs hreaches hends) hsteps
        exact ⟨hlt', hgone⟩
      · have hlater := hended.resolve_left hends
        exact ih (sound_step hs hstep) (reaches_step hs hreaches hstep hends) hsteps hlater

/-- The end of a session's context closes nothing. -/
theorem closings_dispose (s : Session σ) : s.dispose.context.closings h = s.context.closings h := by
  obtain ⟨-, -, hcleared⟩ := teardown_clears s.context
  have F : Aloof (Calm (fun _ => False) : Context σ → Context σ → Prop) := calm_aloof
  have hagain : Calm (fun _ => False) (Context.teardown.run s.context).2 s.dispose.context :=
    F.tearDownRegistry _
  refine closings_of_adds ((hcleared.trans hagain.about?_eq_none).mono fun entry hnone _ opened hopened => ?_)
  rw [hnone] at hopened
  cases hopened

end Life

/-! ## Openings -/

/-- Nobody was called yet about a handle that was not taken in. -/
theorem dealings_size {s : Session σ} (hs : s.Sound) : s.context.dealings s.context.handles.size = [] :=
  List.filter_eq_nil_iff.mpr fun entry hentry hconcerns => by
    obtain ⟨opened, habout, hid⟩ := concerns_iff.mp hconcerns
    exact Nat.ne_of_lt (hs.about_lt_size entry hentry opened habout) hid

/-- A new handle is reached under its key, and there only. -/
theorem reaches_of_insert {s : Session σ} {resource : Resource} {key : DescriptorKey}
    {after : DescriptorTable HandleId} {d : Context σ} (hs : s.Sound)
    (hinsert : (s.context.table resource).insert s.context.handles.size = .ok (key, after))
    (htable : ∀ other, d.table other = (s.context.withTable resource after).table other) :
    d.Reaches s.context.handles.size resource key := by
  have hnew (other : Resource) (k : DescriptorKey) :
      (s.context.table other).find? k ≠ some s.context.handles.size := fun hfind =>
    Nat.lt_irrefl _ (hs.lt_size _ ⟨other, k, hfind⟩)
  intro other k
  rw [htable]
  by_cases hother : other = resource
  · rw [hother, table_withTable, DescriptorTable.find?_insert (hs.wellFormed resource) hinsert]
    by_cases hk : k = key
    · simp [hk]
    · simp [hk, hnew]
  · rw [table_withTable_ne _ hother]
    simp [hother, hnew]

/-- **Handles are conserved.** Let nobody edit the tables, and let a backend open a handle. With room in the
table, the handle gets a key and is reached under it, and only under it, until a closing of the key succeeds
or the context ends. Until then nothing but a closing of the key closes it, each time by one call on its
owner; from then on nobody is called about it. Without room the caller is told so, the tables stay as they
are, and all that is ever done about the handle is one attempt of its owner to close it. -/
theorem handle_conserved (config : Config) (host : Host σ) (world : σ) (before : List (Step σ)) (o : Opening)
    {handle : FileHandle} {d : Context σ} (hbefore : ∀ step ∈ before, step.editsTable = false) :
    let s := after config host world before
    let h := s.context.handles.size
    let t := (s.step (.request o.request)).2
    (dispatchUrl o.part).run.run s.context = (.ok handle, d) →
      s.context.dealings h = [] ∧
      ((s.context.table o.resource).HasRoom →
        ∃ key, (s.step (.request o.request)).1 = .ok (.key key) ∧ t.context.dealings h = [] ∧
          ∀ later : List (Step σ), (∀ step ∈ later, step.editsTable = false) →
            let u := (run later t).2
            (¬ Ended o.resource key later t →
              u.context.Reaches h o.resource key ∧ u.dispose.context.closings h = u.context.closings h ∧
                ∀ step : Step σ, step.editsTable = false → Keeping h o.resource key u step) ∧
            (Ended o.resource key later t →
              ¬ u.context.Holds h ∧ ∀ step : Step σ, step.editsTable = false →
                (u.step step).2.context.dealings h = u.context.dealings h)) ∧
      (¬ (s.context.table o.resource).HasRoom →
        (s.step (.request o.request)).1 = .error .tooManyOpenFiles ∧
          (∀ resource, t.context.table resource = s.context.table resource) ∧
          (∃ result made world', OwnerCloses o.operation o.resource (t.context.shown h)
            t.context.registry.plugins d.world result made world' ∧ t.context.dealings h = made) ∧
          ∀ later : List (Step σ), (∀ step ∈ later, step.editsTable = false) →
            ¬ (run later t).2.context.Holds h ∧
              (run later t).2.context.dealings h = t.context.dealings h) := by
  intro s h t hopen
  have hs : s.Sound := sound_run hbefore (sound_start config host world)
  have hopening : (Step.request o.request : Step σ).editsTable = false := by
    cases o <;> rfl
  have ht : t.Sound := sound_step hs hopening
  refine ⟨dealings_size hs, fun hroom => ?_, fun hfull => ?_⟩
  · obtain ⟨key, after, hinsert, houtcome, htable, -, -, hcalls⟩ :=
      open_of_room (hs.wellFormed o.resource) hopen hroom
    have hreaches : t.context.Reaches h o.resource key := reaches_of_insert hs hinsert htable
    have hdealings : t.context.dealings h = s.context.dealings h :=
      dealings_of_adds (hcalls.mono fun entry hnone opened hopened => by
        rw [hnone] at hopened
        cases hopened)
    refine ⟨key, houtcome, hdealings.trans (dealings_size hs), fun later hlater => ?_⟩
    have hu : (run later t).2.Sound := sound_run hlater ht
    refine ⟨fun hgoes => ?_, fun hended => ?_⟩
    · have hreached := reaches_run ht hreaches hlater hgoes
      exact ⟨hreached, closings_dispose _, fun step hstep => keeping_of_reaches hu hreached hstep⟩
    · obtain ⟨hlt, hgone⟩ := gone_of_ended ht hreaches hlater hended
      exact ⟨hgone, fun step hstep => (gone_step hu hlt hgone hstep).2⟩
  · obtain ⟨houtcome, htable, hsize, result, asked, made, world', hcloses, hcalls, hasked⟩ :=
      open_of_full (hs.wellFormed o.resource) hopen hfull
    have hlt : h < t.context.handles.size := by
      rw [show t.context.handles.size = h + 1 from hsize]
      exact Nat.lt_succ_self h
    have hgone : ¬ t.context.Holds h := by
      rintro ⟨resource, key, hfind⟩
      rw [show t.context.table resource = _ from htable resource] at hfind
      exact Nat.lt_irrefl h (hs.lt_size h ⟨resource, key, hfind⟩)
    -- Nobody was called about the handle before, and then its owner was.
    have hdealings : t.context.dealings h = made := by
      have hasked : asked.filter (concerns h) = [] :=
        List.filter_eq_nil_iff.mpr fun entry hentry hconcerns => by
          obtain ⟨opened, habout, -⟩ := concerns_iff.mp hconcerns
          rw [hasked entry hentry] at habout
          cases habout
      have hmade : made.filter (concerns h) = made :=
        List.filter_eq_self.mpr fun entry hentry => concerns_iff.mpr (hcloses.concerns hentry)
      rw [dealings, show t.context.calls = _ from hcalls, List.filter_append, List.filter_append,
        show s.context.calls.filter (concerns h) = [] from dealings_size hs, hasked, hmade]
      rfl
    refine ⟨houtcome, htable, ⟨result, made, world', hcloses, hdealings⟩, fun later hlater => ?_⟩
    obtain ⟨-, hnowhere, hsame⟩ := gone_run ht hlt hgone hlater
    exact ⟨hnowhere, hsame⟩

/-- A backend that fails to close a file at first, and then succeeds. -/
def reluctant (id : InstanceId) : Backend Nat where
  id := id
  name := "a"
  respond call tries :=
    match call with
    | .checkUrl .. => (.ok true, tries)
    | .openFile .. => (.ok { owner := "a" }, tries)
    | .close _ => (if tries = 0 then .error ⟨.io, "busy"⟩ else .ok (), tries + 1)
    | call => (call.unimplemented, tries)

/-- A file is closed twice: it is still reached after the first attempt, and gone after the second. -/
theorem reluctant_conserved :
    let before : List (Step Nat) := [.register reluctant]
    let o : Opening := .file "file" 0 ⟨0o644⟩
    let s := after .inProcess {} 0 before
    let t := (s.step (.request o.request)).2
    let closing : Step Nat := .request (Resource.file.closing (.pack 0 0))
    (∀ step ∈ before, step.editsTable = false) ∧
      ((dispatchUrl o.part).run.run s.context).1 = .ok { owner := "a" } ∧
      (s.step (.request o.request)).1 = .ok (.key (.pack 0 0)) ∧
      (run [closing] t).2.context.Reaches 0 .file (.pack 0 0) ∧
      ¬ (run [closing, closing] t).2.context.Holds 0 := by
  intro before o s t closing
  have hbefore : ∀ step ∈ before, step.editsTable = false := List.forall_mem_singleton.mpr rfl
  have hopen : ((dispatchUrl o.part).run.run s.context).1 = .ok { owner := "a" } := by cbv
  have hroom : (s.context.table .file).HasRoom := by decide
  have hissued : (s.step (.request o.request)).1 = .ok (.key (.pack 0 0)) := by cbv
  have hfails : (t.step closing).1 = .error (.backend "close" ⟨.io, "busy"⟩) := by cbv
  have hcloses : ((t.step closing).2.step closing).1 = .ok .unit := by cbv
  obtain ⟨-, hkept, -⟩ := handle_conserved .inProcess {} 0 before o hbefore (Prod.ext hopen rfl)
  obtain ⟨key, houtcome, -, hlife⟩ := hkept hroom
  obtain rfl : key = .pack 0 0 := by
    have hkeys := houtcome.symm.trans hissued
    exact Value.key.inj (Except.ok.inj hkeys)
  have hedit : closing.editsTable = false := rfl
  have hgoes : ¬ Ended .file (.pack 0 0) [closing] t := by
    rintro ((h | ⟨-, value, hvalue⟩) | h)
    · have hrequest : (Request.close (.pack 0 0) : Request Nat) = .tearDown := Step.request.inj h
      cases hrequest
    · rw [hfails] at hvalue
      cases hvalue
    · exact h
  obtain ⟨hreached, -⟩ := (hlife [closing] (List.forall_mem_singleton.mpr hedit)).1 hgoes
  obtain ⟨hgone, -⟩ := (hlife [closing, closing] (List.forall_mem_cons.mpr ⟨hedit,
    List.forall_mem_singleton.mpr hedit⟩)).2 (.inr (.inl (.inr ⟨rfl, _, hcloses⟩)))
  have hsize : (after .inProcess {} 0 before).context.handles.size = 0 := by cbv
  rw [hsize] at hreached hgone
  simp only [t, s]
  exact ⟨hbefore, hopen, hissued, hreached, hgone⟩

end Session

end StorageDispatch
