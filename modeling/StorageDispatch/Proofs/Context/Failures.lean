import StorageDispatch.Proofs.Context.Counters
import StorageDispatch.Proofs.Session.Steps

set_option autoImplicit false

/-! # Failures of operations in several parts

Opening something and listing it with metadata are done in parts, each of which counts its own failures. Work
that counts its failures once, and nothing else, is `Tallied`; a sequence of such work is so too. What follows
the parts does not always count:

* a handle for which its table has no room is closed again, and only a failure of that is counted
  (`Opening.Rejected`);
* once an entry was listed for a listing with metadata, the rest fails under another name or under none
  (`ListedAlready`).

Whatever else fails is counted once, and what succeeds is not counted as failed
(`Request.failures_serve`).
-/

namespace StorageDispatch

variable {σ α β : Type}

namespace Context

def failures (operation : Operation) (c : Context σ) : Nat := c.counters.count (.failed operation)

def faults : Except Error α → Nat
  | .ok _ => 0
  | .error _ => 1

variable {operation other : Operation}

/-! ## Work that counts no failure of an operation -/

def Spared (operation : Operation) (c d : Context σ) : Prop := d.failures operation = c.failures operation

theorem Spared.of_eq {c d : Context σ} (h : d.counters = c.counters) : Spared operation c d := by
  rw [Spared, failures, failures, h]

theorem spared_path : Path (Spared operation : Context σ → Context σ → Prop) where
  refl _ := rfl
  trans h h' := h'.trans h

theorem spared_log (entry : LogEntry) : Respects (Spared operation) (log entry : Act σ Unit) :=
  fun c => .of_eq (counters_log entry c)

theorem spared_call (backend : Backend σ) (request : Call) :
    Respects (Spared operation) (call backend request) := fun c => .of_eq (counters_call backend request c)

theorem spared_useTable (resource : Resource) :
    Respects (Spared operation) (useTable resource : Act σ (DescriptorTable HandleId)) :=
  fun c => .of_eq (counters_withTable c resource _)

/-- A change of a metric counts no failure but the one that it is. -/
theorem spared_measure {change : Metric} (h : change ≠ .failed operation) :
    Respects (Spared operation) (measure change : Act σ Unit) := by
  intro c
  rw [Spared, failures, failures]
  cases hgauge : change.isGauge with
  | true => rw [counters_gauge hgauge]
  | false =>
      rw [counters_measure hgauge, List.count_append, List.count_singleton, beq_eq_false_iff_ne.mpr h]
      rfl

theorem spared_heedless : Heedless (Spared operation : Context σ → Context σ → Prop) where
  toPath := spared_path
  entry := spared_log
  gauge change h := spared_measure (by
    rintro rfl
    cases h)
  tearDown backend := spared_call backend .teardown
  registry _ _ := .of_eq rfl

theorem spared_seeking : Seeking (Spared operation : Context σ → Context σ → Prop) where
  toPath := spared_path
  discover := spared_heedless.discover
  question backend _ _ := spared_call backend _
  matched _ _ _ := spared_log _

theorem spared_timedEngine (plugin : String) {work : Engine σ α} (h : Keeps (Spared operation) work) :
    Keeps (Spared operation) (timedEngine other plugin work) :=
  spared_path.bind (spared_measure nofun) fun _ => spared_path.bind h fun _ =>
    spared_path.bind (spared_measure nofun) fun _ => spared_path.pure _

theorem spared_insertHandle (resource : Resource) (id : HandleId) :
    Keeps (Spared operation) (insertHandle resource id : Engine σ DescriptorKey) := by
  refine spared_path.bindE (spared_useTable resource).perform fun _ => ?_
  refine spared_path.bindE (spared_path.fromOutcome _) fun inserted => ?_
  refine spared_path.bindE (Respects.perform (spared_path.bind (fun c => ?_) fun _ => ?_)) fun _ =>
    spared_path.pureE _
  · exact .of_eq (counters_withTable c resource _)
  · exact spared_measure nofun

/-- The failures of one operation are not those of another. -/
theorem spared_counted (hne : other ≠ operation) {work : Engine σ α} (h : Keeps (Spared operation) work) :
    Keeps (Spared operation) (counted other work) := by
  intro c
  rw [run_counted]
  have hwork := h c
  generalize work.run.run c = result at hwork ⊢
  rcases result with ⟨outcome, d⟩
  cases outcome with
  | ok a => exact hwork
  | error error =>
      have hfailed : Spared operation d ((measure (.failed other)).run d).2 :=
        spared_measure (fun heq => hne (Metric.failed.inj heq)) d
      exact spared_path.trans hwork (spared_path.trans hfailed (spared_log _ _))

/-! ## Work that counts its failures -/

/-- In a context, work counts its failure as one of an operation, and counts it once. -/
def TalliedAt (operation : Operation) (c : Context σ) (work : Engine σ α) : Prop :=
  (work.run.run c).2.failures operation = c.failures operation + faults (work.run.run c).1

/-- Wherever it is done, work counts its failure as one of an operation, and counts it once. -/
def Tallied (operation : Operation) (work : Engine σ α) : Prop := ∀ c, TalliedAt operation c work

namespace Tallied

theorem pure (a : α) : Tallied operation (Pure.pure a : Engine σ α) := fun _ => rfl

/-- Counting counts, unless the work itself does. -/
theorem counted {work : Engine σ α} (h : Keeps (Spared operation) work) :
    Tallied operation (Context.counted operation work) := by
  intro c
  rw [TalliedAt, run_counted]
  have hwork := h c
  generalize work.run.run c = result at hwork ⊢
  rcases result with ⟨outcome, d⟩
  cases outcome with
  | ok a => exact hwork
  | error error =>
      have hlog : Spared operation _ ((recordFailure operation error).run d).2 :=
        spared_log (.dispatchFailed operation error) ((measure (.failed operation)).run d).2
      have hfailed : ((measure (.failed operation)).run d).2.failures operation = d.failures operation + 1 := by
        rw [failures, counters_measure rfl, List.count_append, List.count_singleton_self]
        rfl
      calc ((recordFailure operation error).run d).2.failures operation
          = ((measure (.failed operation)).run d).2.failures operation := hlog
        _ = d.failures operation + 1 := hfailed
        _ = c.failures operation + 1 := by rw [show d.failures operation = _ from hwork]

/-- What is done before does not matter if it counts nothing. -/
theorem after {x : Act σ α} {f : α → Engine σ β} (hx : Respects (Spared operation) x)
    (hf : ∀ a, Tallied operation (f a)) : Tallied operation (perform x >>= f) := by
  intro c
  have hrest := hf (x.run c).1 (x.run c).2
  have hsame : (x.run c).2.failures operation = c.failures operation := hx c
  rw [TalliedAt, hsame] at hrest
  exact hrest

/-- A sequence ends with its first failure, which is counted. -/
theorem bindAt {x : Engine σ α} {f : α → Engine σ β} {c : Context σ} (hx : Tallied operation x)
    (hf : ∀ a d, x.run.run c = (.ok a, d) → TalliedAt operation d (f a)) :
    TalliedAt operation c (x >>= f) := by
  have hfirst := hx c
  unfold TalliedAt at hfirst ⊢
  rw [run_bindE]
  generalize x.run.run c = result at hfirst hf ⊢
  rcases result with ⟨outcome, d⟩
  cases outcome with
  | error error => exact hfirst
  | ok a =>
      have hrest : TalliedAt operation d (f a) := hf a d rfl
      have hsame : d.failures operation = c.failures operation := hfirst
      rwa [TalliedAt, hsame] at hrest

/-- Work that succeeds counts nothing. -/
theorem ok {work : Engine σ α} (h : Tallied operation work) {c d : Context σ} {a : α}
    (hrun : work.run.run c = (.ok a, d)) : d.failures operation = c.failures operation := by
  have hcount := h c
  rwa [TalliedAt, hrun] at hcount

/-- Work that fails is counted. -/
theorem error {work : Engine σ α} (h : Tallied operation work) {c d : Context σ} {error : Error}
    (hrun : work.run.run c = (.error error, d)) : d.failures operation = c.failures operation + 1 := by
  have hcount := h c
  rwa [TalliedAt, hrun] at hcount

end Tallied

/-! ## The parts -/

theorem spared_dispatchUrl (request : UrlRequest α) (h : request.operation ≠ operation) :
    Keeps (Spared operation) (dispatchUrl request : Engine σ α) := by
  refine spared_path.bindE (spared_log _).perform fun _ => spared_counted h ?_
  refine spared_path.bindE (spared_seeking.resolveUrl _ _) fun plugin => spared_timedEngine _ ?_
  exact spared_path.bindE (spared_call _ _).perform fun _ => spared_path.fromReply _ _

theorem tallied_dispatchUrl (request : UrlRequest α) :
    Tallied request.operation (dispatchUrl request : Engine σ α) := by
  refine .after (spared_log _) fun _ => .counted ?_
  refine spared_path.bindE (spared_seeking.resolveUrl _ _) fun plugin => spared_timedEngine _ ?_
  exact spared_path.bindE (spared_call _ _).perform fun _ => spared_path.fromReply _ _

theorem tallied_lookupHandle (operation : Operation) (resource : Resource) (key : DescriptorKey) :
    Tallied operation (lookupHandle operation resource key : Engine σ HandleId) :=
  .counted (spared_path.bindE (spared_useTable resource).perform fun _ => spared_path.fromOutcome _)

theorem tallied_dispatchHandle (operation : Operation) (id : HandleId) {serve : Plugin σ → Engine σ α}
    (hserve : ∀ plugin, Keeps (Spared operation) (serve plugin)) :
    Tallied operation (dispatchHandle operation id serve) := by
  refine .after (spared_path.openHandle id) fun opened => .after (spared_log _) fun _ => .counted ?_
  refine spared_path.bindE (spared_path.resolveOwner spared_seeking.discover _) fun plugin => ?_
  exact spared_timedEngine _ (hserve plugin)

theorem tallied_closeWithOwner (operation : Operation) (resource : Resource) (id : HandleId) :
    Tallied operation (closeWithOwner operation resource id : Engine σ Unit) :=
  tallied_dispatchHandle operation id fun _ =>
    spared_path.bindE (spared_path.openHandle id).perform fun _ =>
      spared_path.bindE (spared_call _ _).perform fun _ => spared_path.fromReply _ _

theorem tallied_nextEntry (operation : Operation) (id : HandleId) :
    Tallied operation (nextEntry operation id : Engine σ (Option DirEntry)) :=
  tallied_dispatchHandle operation id fun _ =>
    spared_path.bindE (spared_path.openHandle id).perform fun _ =>
      spared_path.bindE (spared_call _ _).perform fun _ => spared_path.fromReply _ _

theorem tallied_nativeListing (id : HandleId) :
    Tallied .readdirPlus (nativeListing id : Engine σ (Option (Option (DirEntry × FileStat)))) := by
  refine tallied_dispatchHandle .readdirPlus id fun plugin => ?_
  refine spared_path.bindE (spared_path.openHandle id).perform fun opened => ?_
  refine spared_path.bindE (spared_call _ _).perform fun answer => ?_
  cases answer with
  | some reply => exact (spared_path.fromReply _ _).map _
  | none => exact spared_path.pureE _

/-! ## Storing what was opened -/

/-- A handle that was taken in finds no room in its table, and its owner closes it again. -/
def ClosedAgain (operation : Operation) (resource : Resource) (id : HandleId) (c : Context σ) : Prop :=
  ∃ error d e, (insertHandle resource id).run.run c = (.error error, d) ∧
    (closeWithOwner operation resource id).run.run ((log (.noRoom operation error)).run d).2 = (.ok (), e)

theorem run_closeRejected (operation : Operation) (resource : Resource) (id : HandleId) (reason : Error)
    (c : Context σ) :
    ((closeRejected operation resource id reason).run c).2 =
      match (closeWithOwner operation resource id).run.run ((log (.noRoom operation reason)).run c).2 with
      | (.ok (), d) => d
      | (.error error, d) => ((log (.rejectedCloseFailed operation error)).run d).2 := by
  unfold closeRejected
  rw [run_bind, run_bind]
  rcases (closeWithOwner operation resource id).run.run _ with ⟨outcome, d⟩
  cases outcome <;> rfl

section Storing

variable {resource : Resource} {id : HandleId} {c : Context σ}

/-- If the owner closes the handle again, the failure is not counted. -/
theorem failures_of_closedAgain (h : ClosedAgain operation resource id c) :
    ((storeAdopted operation resource id).run.run c).2.failures operation = c.failures operation := by
  obtain ⟨error, d, e, hinsert, hclose⟩ := h
  have hinserted : Spared operation c ((insertHandle resource id).run.run c).2 :=
    spared_insertHandle resource id c
  have hlogged : Spared operation d ((log (.noRoom operation error)).run d).2 := spared_log _ d
  rw [run_storeAdopted, hinsert]
  dsimp only
  rw [run_closeRejected, hclose]
  rw [hinsert] at hinserted
  calc e.failures operation
      = ((log (.noRoom operation error)).run d).2.failures operation :=
        (tallied_closeWithOwner operation resource id).ok hclose
    _ = d.failures operation := hlogged
    _ = c.failures operation := hinserted

/-- Otherwise a handle that is not stored is a failure that is counted. -/
theorem failures_of_not_closedAgain (h : ¬ ClosedAgain operation resource id c) :
    ((storeAdopted operation resource id).run.run c).2.failures operation =
      c.failures operation + faults ((storeAdopted operation resource id).run.run c).1 := by
  have hinserted : Spared operation c ((insertHandle resource id).run.run c).2 :=
    spared_insertHandle resource id c
  rw [run_storeAdopted]
  rcases hinsert : (insertHandle resource id).run.run c with ⟨stored, d⟩
  rw [hinsert] at hinserted
  cases stored with
  | ok key => exact hinserted
  | error error =>
      have hlogged : Spared operation d ((log (.noRoom operation error)).run d).2 := spared_log _ d
      dsimp only
      rw [run_closeRejected]
      rcases hclose : (closeWithOwner operation resource id).run.run
        ((log (.noRoom operation error)).run d).2 with ⟨closed, e⟩
      cases closed with
      | ok closed => exact absurd ⟨error, d, e, hinsert, hclose⟩ h
      | error reason =>
          -- The failure of the closing is counted under this operation, and stands for that of storing.
          have hclosed := (tallied_closeWithOwner operation resource id).error hclose
          have hleft : Spared operation e ((log (.rejectedCloseFailed operation reason)).run e).2 :=
            spared_log _ e
          dsimp only
          rw [show _ = _ from hleft, hclosed, show _ = _ from hlogged, show _ = _ from hinserted]
          rfl

end Storing

end Context

open Context

/-! ## Openings -/

namespace Opening

variable {o : Opening} {c : Context σ}

/-- A backend opens something, its table has no room for it, and the backend closes it again. -/
def Rejected (o : Opening) (c : Context σ) : Prop :=
  ∃ handle d, (dispatchUrl o.part).run.run c = (.ok handle, d) ∧
    ClosedAgain o.operation o.resource d.handles.size ((adopt (handle.setPathIfMissing o.url)).run d).2

theorem tallied_part (o : Opening) : Tallied o.operation (dispatchUrl o.part : Engine σ FileHandle) := by
  have hpart : Tallied o.part.operation (dispatchUrl o.part : Engine σ FileHandle) := tallied_dispatchUrl _
  cases o <;> exact hpart

/-- **An opening that fails is counted once**, but not if its handle was closed again for want of room. -/
theorem failures_open (o : Opening) (c : Context σ) :
    (o.Rejected c →
      (o.request.serve.run.run c).2.failures o.operation = c.failures o.operation) ∧
    (¬ o.Rejected c → (o.request.serve.run.run c).2.failures o.operation =
      c.failures o.operation + faults (o.request.serve.run.run c).1) := by
  rcases hopen : (dispatchUrl o.part).run.run c with ⟨outcome, d⟩
  cases outcome with
  | error error =>
      have hstep := Session.step_open_error (s := { context := c }) hopen
      have hresult : (o.request.serve.run.run c).1 = .error error := hstep.1
      have hleft : (o.request.serve.run.run c).2 = d := hstep.2
      rw [hresult, hleft]
      constructor
      · rintro ⟨handle, e, hopened, -⟩
        rw [hopened] at hopen
        cases hopen
      · -- The backend's part has counted its own failure.
        exact fun _ => o.tallied_part.error hopen
  | ok handle =>
      have hstep := Session.step_open (s := { context := c }) hopen
      set adopted := ((adopt (handle.setPathIfMissing o.url)).run d).2
      set stored := (storeAdopted o.operation o.resource d.handles.size).run.run adopted with hstored
      have hresult : (o.request.serve.run.run c).1 = Value.key <$> stored.1 := hstep.1
      have hleft : (o.request.serve.run.run c).2 = stored.2 := hstep.2
      have hadopted : d.failures o.operation = c.failures o.operation := o.tallied_part.ok hopen
      have hfaults : faults (Value.key <$> stored.1) = faults stored.1 := by
        cases stored.1 <;> rfl
      rw [hresult, hleft, hfaults, ← hadopted]
      constructor
      · rintro ⟨handle', e, hopened, hagain⟩
        rw [hopen] at hopened
        cases hopened
        exact failures_of_closedAgain hagain
      · exact fun hnot => failures_of_not_closedAgain fun hagain => hnot ⟨handle, d, hopen, hagain⟩

end Opening

/-! ## Listings with metadata -/

/-- Finding the metadata of an entry counts no failure of the listing. -/
theorem spared_withMetadata (id : HandleId) (entry : DirEntry) :
    Keeps (Spared .readdirPlus) (withMetadata id entry : Engine σ (DirEntry × FileStat)) := by
  refine spared_path.bindE (spared_path.openHandle id).perform fun opened => ?_
  dsimp only
  cases opened.handle.path with
  | none => exact spared_path.throwE _
  | some dir =>
      refine spared_path.bindE (spared_log _).perform fun _ => ?_
      exact spared_path.bindE (spared_dispatchUrl (.stat _) nofun) fun _ => spared_path.pureE _

namespace ListedAlready

variable {key : DescriptorKey} {c : Context σ}

/-- Once an entry is listed, nothing is counted as a failure of the listing. -/
theorem failures_eq (h : ListedAlready key c) :
    ((readdirPlus key).run.run c).2.failures .readdirPlus = c.failures .readdirPlus := by
  obtain ⟨id, entry, f, hlists⟩ := h
  have hmetadata := (spared_withMetadata id entry).map some f
  rw [hlists.run_eq]
  obtain ⟨d, e, hlookup, hnative, hnext⟩ := hlists
  calc ((some <$> withMetadata id entry : Engine σ _).run.run f).2.failures .readdirPlus
      = f.failures .readdirPlus := hmetadata
    _ = e.failures .readdirPlus := (tallied_nextEntry .readdirPlus id).ok hnext
    _ = d.failures .readdirPlus := (tallied_nativeListing id).ok hnative
    _ = c.failures .readdirPlus := (tallied_lookupHandle .readdirPlus .directory key).ok hlookup

/-- Until an entry is listed, the listing counts its failures. -/
theorem tallied_of_not (h : ¬ ListedAlready key c) : TalliedAt .readdirPlus c (readdirPlus key) := by
  refine (tallied_lookupHandle .readdirPlus .directory key).bindAt fun id d hlookup => ?_
  refine (tallied_nativeListing id).bindAt fun native e hnative => ?_
  cases native with
  | some entry => exact Tallied.pure _ e
  | none =>
      refine (tallied_nextEntry .readdirPlus id).bindAt fun next f hnext => ?_
      cases next with
      | none => exact Tallied.pure _ f
      | some entry => exact absurd ⟨id, entry, f, d, e, hlookup, hnative, hnext⟩ h

end ListedAlready

/-! ## Requests -/

namespace Request

/-- Whether a failure of a request would not be counted as one of its own. -/
def Overlooked : Request σ → Context σ → Prop
  | openFile url flags mode, c => (Opening.file url flags mode).Rejected c
  | opendir url, c => (Opening.directory url).Rejected c
  | readdirPlus key, c => ListedAlready key c
  | _, _ => False

/-- **Openings and listings with metadata count their failures once**, and nothing else as a failure of their
own, unless a failure is overlooked: then it is not counted. -/
theorem failures_serve (request : Request σ) {operation : Operation}
    (hoperation : request.operation? = some operation)
    (hparts : operation ∈ [.openFile, .opendir, .readdirPlus]) (c : Context σ) :
    (request.Overlooked c → (request.serve.run.run c).2.failures operation = c.failures operation) ∧
    (¬ request.Overlooked c → (request.serve.run.run c).2.failures operation =
      c.failures operation + faults (request.serve.run.run c).1) := by
  cases request with
  | openFile url flags mode =>
      cases hoperation
      exact (Opening.file url flags mode).failures_open c
  | opendir url =>
      cases hoperation
      exact (Opening.directory url).failures_open c
  | readdirPlus key =>
      cases hoperation
      have hfaults (outcome : Except Error (Option (DirEntry × FileStat))) :
          faults (Value.entryPlus <$> outcome) = faults outcome := by
        cases outcome <;> rfl
      have hrun : (readdirPlus key : Request σ).serve.run.run c = _ := run_map _ (Context.readdirPlus key) c
      rw [hrun, hfaults]
      exact ⟨ListedAlready.failures_eq, ListedAlready.tallied_of_not⟩
  | _ => cases hoperation <;> simp at hparts

/-- A backend that opens and closes whatever it is asked for, and lists one entry over and over. -/
def keeper : Backend Unit where
  id := .registered 0
  name := "keeper"
  respond call world :=
    match call with
    | .checkUrl .. => (.ok true, world)
    | .openFile .. => (.ok { owner := "keeper" }, world)
    | .close _ => (.ok (), world)
    | .readdir _ => (.ok (some { name := "entry" }), world)
    | other => (other.unimplemented, world)

/-- A context of that backend with no room for files, and with an open directory whose URL is not known. -/
def crowded : Context Unit where
  config := { maxOpenFiles := 0 }
  world := ()
  registry := { phase := .ready, plugins := [{ backend := keeper, loadOrder := 0, origin := .static }] }
  directories := some { name := "directory", limit := 1, slots := #[{ entry := some 0 }], live := 1 }
  handles := #[{ owner := "keeper" }]

theorem openFile_failures :
    let request : Request Unit := .openFile "keeper://a" 0 (.ofRaw 0)
    (request.Overlooked crowded → (request.serve.run.run crowded).2.failures .openFile =
      crowded.failures .openFile) ∧
    (¬ request.Overlooked crowded → (request.serve.run.run crowded).2.failures .openFile =
      crowded.failures .openFile + faults (request.serve.run.run crowded).1) :=
  failures_serve (.openFile "keeper://a" 0 (.ofRaw 0)) rfl (by decide) crowded

/-- Failures are overlooked: of an opening without room, and of a listing whose entry has no known URL. -/
theorem failures_overlooked :
    (faults ((openFile "keeper://a" 0 (.ofRaw 0) : Request Unit).serve.run.run crowded).1 = 1 ∧
      ((openFile "keeper://a" 0 (.ofRaw 0) : Request Unit).serve.run.run crowded).2.failures .openFile = 0) ∧
    (faults ((readdirPlus (.pack 0 0) : Request Unit).serve.run.run crowded).1 = 1 ∧
      ((readdirPlus (.pack 0 0) : Request Unit).serve.run.run crowded).2.failures .readdirPlus = 0) := by
  decide

end Request

end StorageDispatch
