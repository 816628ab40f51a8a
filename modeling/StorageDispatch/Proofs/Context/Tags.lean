import StorageDispatch.Proofs.Context.Batches
import StorageDispatch.Proofs.Context.Closing
import StorageDispatch.Proofs.Context.Surface

set_option autoImplicit false

/-! # The tags of backends' errors

A backend's error reaches the caller under a tag. An action's error is tagged with the public operation that
called it, and so is that of each step of an emulation, but for the stat of an emulated listing, which is an
operation of its own. The error of a predicate is tagged with the capability that the backend was asked
about.

For most operations that makes no difference, as they have the name of their capability. It does for the
seven that are routed by the capability of another operation (`Operation.borrows`).

`Told` says where an error comes from and which tag that gives it. Most operations need no more than a
judgement on the errors that work fails with (`Fails`), whose lemmas follow the way operations are written;
operations that borrow their capability are told apart by how the lookup of their plugin ended, and listings by
whether the dispatcher has listed an entry. **The result** is `serve_told`.
-/

namespace StorageDispatch

variable {σ α β ε : Type}

/-- Whether an operation is routed by the capability of an operation of another name. -/
def Operation.borrows : Operation → Bool
  | unlinkList | bringOnlinePoll | releaseFile | bringOnlineList | bringOnlinePollList | releaseFileList
  | abortFiles => true
  | _ => false

namespace Error

/-- An error does not come from a backend. -/
def Plain : Error → Prop
  | backend .. => False
  | _ => True

def Tagged (name : String) (error : Error) : Prop :=
  ∀ tag source, error = .backend tag source → tag = name

theorem Plain.tagged {error : Error} (h : error.Plain) (name : String) : error.Tagged name := by
  intro tag source heq
  rw [heq] at h
  exact h.elim

theorem tagged_backend (name : String) (source : BackendError) : (backend name source).Tagged name := by
  intro tag other h
  cases h
  rfl

end Error

open Error

def failure? : Except Error α → Option Error
  | .ok _ => none
  | .error error => some error

/-- The errors in a value, which are those of the entries of a batch. -/
def Value.errors : Value → List Error
  | outcomes entries => entries.filterMap failure?
  | flags entries => entries.filterMap failure?
  | staged batch => batch.files.filterMap failure?
  | _ => []

def errorsOf : Except Error Value → List Error
  | .ok value => value.errors
  | .error error => [error]

theorem mem_failures {entries : List (Except Error α)} {error : Error} :
    error ∈ entries.filterMap failure? ↔ .error error ∈ entries := by
  rw [List.mem_filterMap]
  constructor
  · rintro ⟨_ | _, hentry, h⟩
    · cases h
      exact hentry
    · cases h
  · exact fun h => ⟨_, h, rfl⟩

namespace Context

/-! ## Errors that work fails with -/

/-- From a context, work fails with errors of a kind only. -/
def FailsAt (P : ε → Prop) (c : Context σ) (work : ExceptT ε (Act σ) α) : Prop :=
  ∀ error, (work.run.run c).1 = .error error → P error

/-- Wherever it is done, work fails with errors of a kind only. -/
def Fails (P : ε → Prop) (work : ExceptT ε (Act σ) α) : Prop := ∀ c : Context σ, FailsAt P c work

namespace Fails

variable {P Q : ε → Prop} {work : ExceptT ε (Act σ) α}

theorem mono (h : Fails P work) (hP : ∀ error, P error → Q error) : Fails Q work :=
  fun c error herror => hP error (h c error herror)

theorem pure (a : α) : Fails P (Pure.pure a : ExceptT ε (Act σ) α) := by
  intro c error h
  cases h

theorem throw {error : ε} (h : P error) : Fails P (throw error : ExceptT ε (Act σ) α) := by
  intro c other hother
  cases hother
  exact h

theorem perform (work : Act σ α) : Fails P (Context.perform work : ExceptT ε (Act σ) α) := by
  intro c error h
  cases h

/-- A sequence fails as its first part does, or as its second does in the context that the first leaves. -/
theorem bindAt {f : α → ExceptT ε (Act σ) β} {c : Context σ} (h : FailsAt P c work)
    (hf : ∀ a d, work.run.run c = (.ok a, d) → FailsAt P d (f a)) : FailsAt P c (work >>= f) := by
  intro error herror
  rw [run_bindE] at herror
  unfold FailsAt at h
  generalize work.run.run c = found at h hf herror
  rcases found with ⟨outcome, d⟩
  cases outcome with
  | ok a => exact hf a d rfl error herror
  | error e =>
      cases herror
      exact h _ rfl

theorem bind {f : α → ExceptT ε (Act σ) β} (h : Fails P work) (hf : ∀ a, Fails P (f a)) :
    Fails P (work >>= f) := fun c => bindAt (h c) fun a d _ => hf a d

theorem map (f : α → β) (h : Fails P work) : Fails P (f <$> work) := by
  intro c error herror
  rw [run_map] at herror
  have hwork := h c
  unfold FailsAt at hwork
  generalize (work.run.run c).1 = outcome at hwork herror
  cases outcome with
  | ok a => cases herror
  | error e =>
      cases herror
      exact hwork _ rfl

/-- Work that goes on with how another part of it ended. -/
theorem attempt {τ : Type} {S : τ → Prop} {work : ExceptT τ (Act σ) α}
    {f : Except τ α → ExceptT ε (Act σ) β} (h : Fails S work) (hok : ∀ a, Fails P (f (.ok a)))
    (herror : ∀ error, S error → Fails P (f (.error error))) :
    Fails P (Context.perform work.run >>= f) := by
  intro c error hfailed
  rw [run_perform_bindE] at hfailed
  have hwork := h c
  unfold FailsAt at hwork
  generalize work.run.run c = found at hwork hfailed
  rcases found with ⟨outcome, d⟩
  cases outcome with
  | ok a => exact hok a d error hfailed
  | error e => exact herror e (hwork e rfl) d error hfailed

theorem fromOutcome {outcome : Except ε α} (h : ∀ error, outcome = .error error → P error) :
    Fails P (Context.fromOutcome outcome : ExceptT ε (Act σ) α) :=
  fun _ error herror => h error herror

end Fails

section Engine

variable {P : Error → Prop} {work : Engine σ α}

/-- Counting a failure keeps its error. -/
theorem Fails.counted (operation : Operation) (h : Fails P work) : Fails P (Context.counted operation work) := by
  intro c error herror
  rw [run_counted] at herror
  have hwork := h c
  unfold FailsAt at hwork
  generalize work.run.run c = found at hwork herror
  rcases found with ⟨outcome, d⟩
  cases outcome with
  | ok a => cases herror
  | error e =>
      cases herror
      exact hwork _ rfl

theorem Fails.timedEngine (operation : Operation) (plugin : String) (h : Fails P work) :
    Fails P (Context.timedEngine operation plugin work) :=
  fun _ error herror => h _ error herror

/-- Errors that are not a backend's may be thrown under any tag. -/
theorem Fails.refuse {name : String} {error : Error} (h : error.Plain) :
    Fails (Tagged name) (MonadExcept.throw error : Engine σ α) := throw (h.tagged name)

theorem Fails.tagged (h : Fails Plain work) (name : String) : Fails (Tagged name) work :=
  h.mono fun _ hplain => hplain.tagged name

/-- An error of a reply is tagged with the operation. -/
theorem tagged_tag {operation : Operation} {reply : Reply α} {error : Error} (h : tag operation reply = .error error) :
    error.Tagged operation.name := by
  cases reply with
  | ok a => cases h
  | error source =>
      cases h
      exact tagged_backend _ _

theorem Fails.fromReply (operation : Operation) (reply : Reply α) :
    Fails (Tagged operation.name) (Context.fromReply operation reply : Engine σ α) :=
  fromOutcome fun _ => tagged_tag

/-- Work whose value holds no errors tells no error but the one that it fails with. -/
theorem run_of_mem_errorsOf {f : α → Value} (hf : ∀ a, (f a).errors = []) {c d : Context σ}
    {outcome : Except Error Value} (hrun : (f <$> work).run.run c = (outcome, d)) {error : Error}
    (h : error ∈ errorsOf outcome) : work.run.run c = (.error error, d) := by
  rw [run_map] at hrun
  rcases hwork : work.run.run c with ⟨found, e⟩
  rw [hwork] at hrun
  cases hrun
  cases found with
  | ok a =>
      have hnone : error ∈ (f a).errors := h
      rw [hf] at hnone
      exact absurd hnone List.not_mem_nil
  | error other => rw [List.mem_singleton.mp h]

/-- All errors that work tells are of a kind. -/
def Tells (P : Error → Prop) (work : Engine σ Value) : Prop :=
  ∀ c : Context σ, ∀ error ∈ errorsOf (work.run.run c).1, P error

theorem Fails.tells (h : Fails P work) {f : α → Value} (hf : ∀ a, (f a).errors = []) : Tells P (f <$> work) :=
  fun c error herror => h c error (congrArg Prod.fst (run_of_mem_errorsOf hf (Prod.eta _).symm herror))

end Engine

/-! ## Looking plugins and handles up -/

theorem fails_discover : Fails Plain (Registry.discover : Engine σ (List (Plugin σ))) := by
  intro c error herror
  obtain ⟨result, made, d, hlisted, hdoes⟩ := Registry.discover_listed c c.events
  have hresult : (Registry.discover.run.run c).1 = result := hdoes.result_eq
  rw [← hresult, herror] at hlisted
  obtain ⟨cause, rfl⟩ := hlisted.eq_discovery
  trivial

theorem fails_resolveOwner (owner : String) : Fails Plain (resolveOwner owner : Engine σ (Plugin σ)) := by
  have hfind : Fails Plain (Registry.findByName owner : Engine σ (Plugin σ)) := by
    refine fails_discover.bind fun plugins => ?_
    cases plugins.find? fun plugin => plugin.name == owner with
    | none => exact .throw trivial
    | some plugin => exact .pure _
  intro c error herror
  unfold resolveOwner at herror
  rw [ExceptT.run_tryCatch, run_bind] at herror
  have hplain := hfind c
  unfold FailsAt at hplain
  generalize (Registry.findByName owner).run.run c = found at hplain herror
  rcases found with ⟨outcome, d⟩
  cases outcome with
  | ok plugin => cases herror
  | error e =>
      have he := hplain e rfl
      -- That nobody has the name becomes another error, and all others stay what they are.
      cases e with
      | notFound text =>
          cases herror
          trivial
      | _ =>
          cases herror
          exact he

/-- Tables do not know backends. -/
theorem plain_get (table : DescriptorTable α) (key : DescriptorKey) (error : Error)
    (h : table.get key = .error error) : error.Plain := by
  unfold DescriptorTable.get at h
  split at h
  · cases h
  · cases h
    trivial

theorem plain_remove (table : DescriptorTable α) (key : DescriptorKey) (error : Error)
    (h : table.remove key = .error error) : error.Plain := by
  unfold DescriptorTable.remove at h
  split at h
  · cases h
  · cases h
    trivial

theorem plain_insert (table : DescriptorTable α) (a : α) (error : Error)
    (h : table.insert a = .error error) : error.Plain := by
  have hfull : error = .tooManyOpenFiles := by
    unfold DescriptorTable.insert at h
    split at h
    · cases h
      rfl
    · split at h
      · cases h
      · split at h
        · cases h
        · cases h
          rfl
  rw [hfull]
  trivial

theorem fails_lookupHandle (operation : Operation) (resource : Resource) (key : DescriptorKey) :
    Fails Plain (lookupHandle operation resource key : Engine σ HandleId) :=
  .counted _ <| (Fails.perform _).bind fun table => .fromOutcome <| plain_get table key

theorem fails_removeHandle (resource : Resource) (key : DescriptorKey) :
    Fails Plain (removeHandle resource key : Engine σ HandleId) :=
  (Fails.perform _).bind fun table =>
    (Fails.fromOutcome <| plain_remove table key).bind fun _ =>
      (Fails.perform _).bind fun _ => .pure _

/-! ## Operations on open handles -/

theorem fails_dispatchHandle {operation : Operation} {id : HandleId} {serve : Plugin σ → Engine σ α}
    (hserve : ∀ plugin, Fails (Tagged operation.name) (serve plugin)) :
    Fails (Tagged operation.name) (dispatchHandle operation id serve) := by
  refine (Fails.perform _).bind fun opened => (Fails.perform _).bind fun _ => .counted _ ?_
  exact ((fails_resolveOwner _).tagged _).bind fun plugin => .timedEngine _ _ (hserve plugin)

/-- A handle is looked up and served. -/
theorem fails_served (operation : Operation) {resource : Resource} {key : DescriptorKey}
    {serve : HandleId → Engine σ α} (hserve : ∀ id, Fails (Tagged operation.name) (serve id)) :
    Fails (Tagged operation.name) (lookupHandle operation resource key >>= serve) :=
  ((fails_lookupHandle _ _ _).tagged _).bind hserve

theorem fails_emulate {operation : Operation} {plugin : Plugin σ} {id : HandleId} {offset size : Nat}
    {transfer : OpenHandle → Act σ (Reply α)} {count : α → Nat} :
    Fails (Tagged operation.name) (emulate operation plugin id offset size transfer count) := by
  refine (Fails.perform _).bind fun file => (Fails.perform _).bind fun _ => (Fails.perform _).bind fun _ => ?_
  refine (Fails.perform _).bind fun answer => (Fails.fromReply _ _).bind fun landed => ?_
  split
  · exact (Fails.perform _).bind fun reply => (Fails.fromReply _ _).bind fun a =>
      (Fails.perform _).bind fun _ => .pure _
  · exact .refuse trivial

theorem fails_closeKey (operation : Operation) (resource : Resource) (key : DescriptorKey) :
    Fails (Tagged operation.name) (closeKey operation resource key : Engine σ Unit) := by
  refine fails_served operation fun id => Fails.bind (fails_dispatchHandle fun plugin => ?_) fun _ => ?_
  · exact (Fails.perform _).bind fun opened => (Fails.perform _).bind fun answer => .fromReply _ _
  · exact .map _ (.counted _ ((fails_removeHandle resource key).tagged _))

theorem fails_nextEntry (operation : Operation) (id : HandleId) :
    Fails (Tagged operation.name) (nextEntry operation id : Engine σ (Option DirEntry)) :=
  fails_dispatchHandle fun _ =>
    (Fails.perform _).bind fun _ => (Fails.perform _).bind fun _ => .fromReply _ _

/-- Of a plain use only the backend's answer can fail: that the handle is moved afterwards adds no error. -/
theorem fails_plain (operation : Operation) (id : HandleId) {ask : Plugin σ → OpenHandle → Act σ (Reply α)}
    {moved : α → FileHandle → FileHandle} {value : α → β} :
    Fails (Tagged operation.name) (dispatchHandle operation id fun plugin => do
      let file ← perform (openHandle id)
      let answer ← perform (ask plugin file)
      let a ← fromReply operation answer
      perform (updateHandle id (moved a))
      return value a) :=
  fails_dispatchHandle fun _ => (Fails.perform _).bind fun _ => (Fails.perform _).bind fun _ =>
    (Fails.fromReply _ _).bind fun _ => (Fails.perform _).bind fun _ => .pure _

theorem fails_read (key : DescriptorKey) (buffer : Bytes) :
    Fails (Tagged "read") (read key buffer : Engine σ (Nat × Bytes)) := by
  unfold read
  split
  · exact .counted _ (.refuse trivial)
  · exact fails_served .read fun id => fails_plain .read id

theorem fails_write (key : DescriptorKey) (data : Bytes) :
    Fails (Tagged "write") (write key data : Engine σ Nat) := by
  unfold write
  split
  · exact .counted _ (.refuse trivial)
  · exact fails_served .write fun id => fails_plain .write id

theorem fails_lseek (key : DescriptorKey) (target : SeekTarget) :
    Fails (Tagged "lseek") (lseek key target : Engine σ Nat) :=
  fails_served .lseek fun id => fails_plain .lseek id

/-- A positioned transfer is tagged alike, whether the backend positions it or it is emulated. -/
theorem fails_pread (key : DescriptorKey) (buffer : Bytes) (offset : Nat) :
    Fails (Tagged "pread") (pread key buffer offset : Engine σ (Nat × Bytes)) := by
  refine fails_served .pread fun id => fails_dispatchHandle fun plugin => ?_
  refine (Fails.perform _).bind fun file => (Fails.perform _).bind fun native => ?_
  cases native with
  | some reply => exact (Fails.fromReply _ _).bind fun _ => .pure _
  | none => exact fails_emulate.bind fun _ => .pure _

theorem fails_pwrite (key : DescriptorKey) (data : Bytes) (offset : Nat) :
    Fails (Tagged "pwrite") (pwrite key data offset : Engine σ Nat) := by
  refine fails_served .pwrite fun id => fails_dispatchHandle fun plugin => ?_
  refine (Fails.perform _).bind fun file => (Fails.perform _).bind fun native => ?_
  cases native with
  | some reply => exact .fromReply _ _
  | none => exact fails_emulate

theorem fails_nativeListing (id : HandleId) :
    Fails (Tagged Operation.readdirPlus.name)
      (nativeListing id : Engine σ (Option (Option (DirEntry × FileStat)))) := by
  refine fails_dispatchHandle fun plugin => ?_
  refine (Fails.perform _).bind fun dir => (Fails.perform _).bind fun answer => ?_
  cases answer with
  | some reply => exact .map _ (.fromReply .readdirPlus reply)
  | none => exact .pure _

/-- Until the dispatcher has listed an entry, a listing fails under its own name. -/
theorem tagged_of_not_listed {key : DescriptorKey} {c : Context σ} (h : ¬ ListedAlready key c) :
    FailsAt (Tagged "readdir_plus") c (readdirPlus key) := by
  refine Fails.bindAt ((fails_lookupHandle .readdirPlus .directory key).tagged _ c) fun id d hlookup => ?_
  refine Fails.bindAt (fails_nativeListing id d) fun native e hnative => ?_
  cases native with
  | some entry => exact Fails.pure _ e
  | none =>
      refine Fails.bindAt (fails_nextEntry .readdirPlus id e) fun next f hnext => ?_
      cases next with
      | none => exact Fails.pure _ f
      | some entry => exact absurd ⟨id, entry, f, d, e, hlookup, hnative, hnext⟩ h

/-! ## Operations on URLs -/

section Urls

variable {operation : Operation} {tag : String} {source : BackendError}

/-- A predicate's error is tagged with the operation if that has the name of its capability. -/
theorem fails_resolveUrl (hname : operation.capability.name = operation.name) (url : String) :
    Fails (Tagged operation.name) (resolveUrl operation url : Engine σ (Plugin σ)) := by
  rintro c _ herror tag source rfl
  obtain ⟨found, made, d, hlookup, hdoes⟩ := resolveUrl_looks operation url c c.events
  have hfound : ((resolveUrl operation url).run.run c).1 = found := hdoes.result_eq
  rw [← hfound, herror] at hlookup
  exact hlookup.undecided.1.trans hname

theorem fails_dispatchUrl (request : UrlRequest α)
    (hname : request.operation.capability.name = request.operation.name) :
    Fails (Tagged request.operation.name) (dispatchUrl request : Engine σ α) :=
  (Fails.perform _).bind fun _ => .counted _ <| (fails_resolveUrl hname _).bind fun _ =>
    .timedEngine _ _ <| (Fails.perform _).bind fun _ => .fromReply _ _

theorem fails_dispatchPair (request : PairRequest)
    (hname : request.operation.capability.name = request.operation.name) :
    Fails (Tagged request.operation.name) (dispatchPair request : Engine σ Unit) := by
  refine (Fails.perform _).bind fun _ => .counted _ ?_
  refine (fails_resolveUrl hname _).bind fun source => (fails_resolveUrl hname _).bind fun destination => ?_
  split
  · exact .timedEngine _ _ <| (Fails.perform _).bind fun _ => .fromReply _ _
  · exact .refuse trivial

theorem fails_storeHandle (operation : Operation) (resource : Resource) (url : String) (handle : FileHandle) :
    Fails (Tagged operation.name) (storeHandle operation resource url handle : Engine σ DescriptorKey) := by
  have hinsert (id : HandleId) : Fails Plain (insertHandle resource id : Engine σ DescriptorKey) :=
    (Fails.perform _).bind fun table => (Fails.fromOutcome <| plain_insert table id).bind fun _ =>
      (Fails.perform _).bind fun _ => .pure _
  refine (Fails.perform _).bind fun id => (hinsert id).attempt (fun key => .pure key) fun error hplain => ?_
  exact (Fails.perform _).bind fun _ => .refuse hplain

/-- With the URL of the directory, an entry's metadata is found by a stat. -/
theorem run_withMetadata {id : HandleId} (entry : DirEntry) {f : Context σ} {dir : String}
    (hdir : (f.shown id).handle.path = some dir) :
    (withMetadata id entry).run.run f =
      match (stat (childUrl dir entry.name)).run.run
        ((log (.emulatingListing (childUrl dir entry.name))).run f).2 with
      | (.ok metadata, d) => (.ok (entry, metadata), d)
      | (.error error, d) => (.error error, d) := by
  rw [withMetadata, run_perform_bindE]
  dsimp only
  rw [show ((openHandle id).run f).1.handle.path = some dir from hdir, show ((openHandle id).run f).2 = f from rfl]
  dsimp only
  rw [run_perform_bindE, run_bindE]
  rcases (stat (childUrl dir entry.name)).run.run _ with ⟨outcome, d⟩
  cases outcome <;> rfl

/-- If finding the metadata fails with the error of a backend, that is the error of the stat. -/
theorem withMetadata_error {id : HandleId} {entry : DirEntry} {f d : Context σ}
    (h : (withMetadata id entry).run.run f = (.error (.backend tag source), d)) :
    tag = "stat" ∧ ∃ dir, (f.shown id).handle.path = some dir ∧
      (stat (childUrl dir entry.name)).run.run
        ((log (.emulatingListing (childUrl dir entry.name))).run f).2 = (.error (.backend "stat" source), d) := by
  cases hdir : (f.shown id).handle.path with
  | none =>
      rw [withMetadata, run_perform_bindE] at h
      dsimp only at h
      rw [show ((openHandle id).run f).1.handle.path = none from hdir] at h
      cases h
  | some dir =>
      rw [run_withMetadata entry hdir] at h
      have htells := fails_dispatchUrl (σ := σ) (.stat (childUrl dir entry.name)) rfl
        ((log (.emulatingListing (childUrl dir entry.name))).run f).2
      rcases hstat : (stat (childUrl dir entry.name)).run.run
        ((log (.emulatingListing (childUrl dir entry.name))).run f).2 with ⟨outcome, e⟩
      rw [hstat] at h
      cases outcome with
      | ok metadata => cases h
      | error error =>
          cases h
          have htag : tag = "stat" := htells _ (congrArg Prod.fst hstat) tag source rfl
          rw [htag] at hstat ⊢
          exact ⟨rfl, dir, rfl, hstat⟩

end Urls

end Context

open Context

namespace Request

/-! ## Where an error comes from -/

/-- **Where the error of a backend comes from**, when a request leads from one context to another, and under which
tag it is told. -/
inductive Told (request : Request σ) (operation : Operation) (c d : Context σ) (source : BackendError) :
    String → Prop
  /-- It comes from the operation's own work. If the capability is borrowed, the plugin was found; and the
  dispatcher has not listed an entry itself. -/
  | own
      (hserved : operation.borrows = true → ∃ url plugin made e, request.url? = some url ∧
        Lookup url operation.capability c (.ok plugin) made e)
      (hunlisted : ∀ key, request = .readdirPlus key → ¬ ListedAlready key c) :
      Told request operation c d source operation.name
  /-- It comes from a predicate: the capability is borrowed, and a plugin that is asked cannot tell whether it
  serves the URL. No other calls are made than those that ask. -/
  | predicate (hborrows : operation.borrows = true) {url : String} (hurl : request.url? = some url)
      {made : List (InstanceId × String × Call)}
      (hundecided : Undecided url operation.capability c source made) (hcalls : d.calls = c.calls ++ made) :
      Told request operation c d source operation.capability.name
  /-- It comes from the stat of an entry that the dispatcher has listed, by its URL in the directory. -/
  | metadata {key : DescriptorKey} (hrequest : request = .readdirPlus key) {id : HandleId} {entry : DirEntry}
      {f : Context σ} (hlists : Lists key c id entry f) {dir : String}
      (hdir : (f.shown id).handle.path = some dir)
      (hstat : (Context.stat (childUrl dir entry.name)).run.run
        ((log (.emulatingListing (childUrl dir entry.name))).run f).2 = (.error (.backend "stat" source), d)) :
      Told request operation c d source "stat"

section Told

variable {request : Request σ} {operation : Operation} {c d e : Context σ} {tag url : String} {source : BackendError}
  {made : List (InstanceId × String × Call)}

theorem Told.of_found {plugin : Plugin σ} (hurl : request.url? = some url)
    (hlookup : Lookup url operation.capability c (.ok plugin) made e) :
    request.Told operation c d source operation.name := by
  refine .own (fun _ => ⟨url, plugin, made, e, hurl, hlookup⟩) ?_
  rintro key rfl
  cases hurl

/-- Operations that borrow their capability and have one URL. -/
theorem told_dispatchUrl (part : UrlRequest α) (hborrows : part.operation.borrows = true)
    (hurl : request.url? = some part.url)
    (hrun : (dispatchUrl part).run.run c = (.error (.backend tag source), d)) :
    request.Told part.operation c d source tag := by
  obtain ⟨begun, hlost, hfound⟩ := dispatchUrl_goOn part c
  obtain ⟨found, made, e, hlookup, hdoes⟩ := resolveUrl_looks part.operation part.url c begun
  -- Without a plugin the error is the lookup's, and with one it is the action's.
  cases found with
  | error error =>
      have hrefused := hlost hdoes
      have hresult := hrefused.result_eq
      have hcalls := hrefused.calls_eq
      rw [hrun] at hresult hcalls
      cases hresult
      obtain ⟨rfl, hundecided⟩ := hlookup.undecided
      exact .predicate hborrows hurl hundecided hcalls
  | ok plugin =>
      have hresult := (hfound hdoes).result_eq
      rw [hrun] at hresult
      rw [tagged_tag hresult.symm tag source rfl]
      exact .of_found hurl hlookup

end Told

end Request

/-! ## Lists of URLs -/

namespace ListOperation

variable {op : ListOperation} {c d e : Context σ} {tag : String} {source : BackendError}
  {outcome : Option String × List (Except Error op.Entry)} {made : List (InstanceId × String × Call)}
  {counted : List Metric}

theorem errors_request (op : ListOperation) (c : Context σ) :
    errorsOf (op.request.serve.run.run c).1 = (op.serve.run c).1.2.filterMap failure? := by
  cases op <;> rfl

theorem context_request (op : ListOperation) (c : Context σ) :
    (op.request.serve.run.run c).2 = (op.serve.run c).2 := by
  cases op <;> rfl

theorem url?_request (op : ListOperation) : (op.request : Request σ).url? = op.urls.head? := by
  cases op <;> rfl

/-- Operations on lists borrow the capability of operations on one URL. -/
theorem borrows_operation (op : ListOperation) : op.operation.borrows = true := by
  cases op <;> rfl

theorem capability_operation (op : ListOperation) : op.operation.capability = op.kind := by
  cases op <;> rfl

/-- What a backend answers to a list is told under the name of the operation. -/
theorem tagged_of_filled {operation : Operation} {plugin : String} {count : Nat} {reply : Reply (List (Reply α))}
    {outcomes : List (Except Error α)} (h : Filled operation plugin count reply outcomes counted) {error : Error}
    (herror : .error error ∈ outcomes) : error.Tagged operation.name := by
  cases h with
  | each =>
      obtain ⟨reply, -, hreply⟩ := List.mem_map.mp herror
      exact tagged_tag hreply
  | miscounted | failed =>
      cases List.eq_of_mem_replicate herror
      exact tagged_backend _ _

theorem tagged_of_served {plugin : Plugin σ} {world world' : σ}
    (h : op.Served plugin world outcome made counted world') {error : Error} (herror : .error error ∈ outcome.2) :
    error.Tagged op.operation.name := by
  cases h with
  | whole _ hfilled => exact tagged_of_filled hfilled herror
  | oneByOne =>
      obtain ⟨reply, -, hreply⟩ := List.mem_map.mp herror
      exact tagged_tag hreply

/-- The errors of the entries come from the plugin that got the list, or from the search for it. -/
theorem Batched.told (h : op.Batched c outcome made counted e) (hcalls : d.calls = c.calls ++ made)
    (herror : .error (.backend tag source) ∈ outcome.2) : op.request.Told op.operation c d source tag := by
  have hurl {url : String} {rest : List String} (hurls : op.urls = url :: rest) :
      (op.request : Request σ).url? = some url := by
    rw [op.url?_request, hurls]
    rfl
  cases h with
  | nothing => cases herror
  | lost hurls hlookup =>
      cases List.eq_of_mem_replicate herror
      obtain ⟨rfl, hundecided⟩ := hlookup.undecided
      rw [← op.capability_operation] at hundecided ⊢
      exact .predicate op.borrows_operation (hurl hurls) hundecided hcalls
  | served hurls hlookup hwork =>
      rw [tagged_of_served hwork herror tag source rfl]
      rw [← op.capability_operation] at hlookup
      exact .of_found (hurl hurls) hlookup

theorem told_request (op : ListOperation) {result : Except Error Value}
    (hrun : op.request.serve.run.run c = (result, d)) (herror : .backend tag source ∈ errorsOf result) :
    op.request.Told op.operation c d source tag := by
  obtain ⟨outcome, made, counted, e, hbatched, hcosts⟩ := op.serve_costs c
  have herrors := op.errors_request c
  have hleft := op.context_request c
  have hcalls := hcosts.calls_eq
  rw [hrun] at herrors hleft
  rw [herrors, hcosts.result_eq, mem_failures] at herror
  rw [← hleft] at hcalls
  exact hbatched.told hcalls herror

end ListOperation

/-! ## Every public operation -/

namespace Request

/-- Operations that do not borrow their capability, and that the dispatcher does not complete, tell all errors
under their own name. -/
theorem tells_serve {request : Request σ} {operation : Operation} (hoperation : request.operation? = some operation)
    (hborrows : operation.borrows = false) (hne : operation ≠ .readdirPlus) :
    Tells (Tagged operation.name) request.serve := by
  cases request with
  | stat | lstat | access | chmod | mkdir | mkdirRecursive | rmdir | unlink | readlink | getxattr | listxattr
  | setxattr | bringOnline =>
      cases hoperation
      exact (fails_dispatchUrl _ rfl).tells fun _ => rfl
  | rename | symlink =>
      cases hoperation
      exact (fails_dispatchPair _ rfl).tells fun _ => rfl
  | opendir | openFile =>
      cases hoperation
      exact ((fails_dispatchUrl _ rfl).bind fun handle => fails_storeHandle _ _ _ handle).tells fun _ => rfl
  | read key buffer =>
      cases hoperation
      exact (fails_read key buffer).tells fun _ => rfl
  | write key data =>
      cases hoperation
      exact (fails_write key data).tells fun _ => rfl
  | pread key buffer offset =>
      cases hoperation
      exact (fails_pread key buffer offset).tells fun _ => rfl
  | pwrite key data offset =>
      cases hoperation
      exact (fails_pwrite key data offset).tells fun _ => rfl
  | lseek key target =>
      cases hoperation
      exact (fails_lseek key target).tells fun _ => rfl
  | close | closedir =>
      cases hoperation
      exact (fails_closeKey _ _ _).tells fun _ => rfl
  | readdir key =>
      cases hoperation
      exact (fails_served .readdir (fails_nextEntry .readdir)).tells fun _ => rfl
  | readdirPlus => exact absurd (Option.some.inj hoperation).symm hne
  | bringOnlinePoll | releaseFile | unlinkList | bringOnlineList | bringOnlinePollList | releaseFileList
  | abortFiles =>
      cases hoperation
      exact Bool.noConfusion hborrows
  | _ => cases hoperation

theorem told_readdirPlus {key : DescriptorKey} {c d : Context σ} {tag : String} {source : BackendError}
    (hrun : (Context.readdirPlus key).run.run c = (.error (.backend tag source), d)) :
    (readdirPlus key).Told .readdirPlus c d source tag := by
  by_cases hlisted : ListedAlready key c
  · -- The listing has succeeded, so what fails is the stat of the entry.
    obtain ⟨id, entry, f, hlists⟩ := hlisted
    rw [hlists.run_eq, run_map] at hrun
    rcases hfound : (withMetadata id entry).run.run f with ⟨outcome, e⟩
    rw [hfound] at hrun
    cases outcome with
    | ok listed => cases hrun
    | error error =>
        cases hrun
        obtain ⟨rfl, dir, hdir, hstat⟩ := withMetadata_error hfound
        exact .metadata rfl hlists hdir hstat
  · have htagged := tagged_of_not_listed hlisted _ (congrArg Prod.fst hrun) tag source rfl
    rw [htagged]
    refine .own nofun fun other hother => ?_
    cases hother
    exact hlisted

/-- **Under which tag a backend's error is told.** It is told under the name of the operation; but if that borrows
the capability of another one and a plugin cannot tell whether it serves the URL, under the name of the
capability; and if it is the stat of an emulated listing that fails, as a stat's. -/
theorem serve_told {request : Request σ} {operation : Operation}
    (hoperation : request.operation? = some operation) {c d : Context σ} {outcome : Except Error Value}
    (hrun : request.serve.run.run c = (outcome, d)) {tag : String} {source : BackendError}
    (h : .backend tag source ∈ errorsOf outcome) : request.Told operation c d source tag := by
  cases hborrows : operation.borrows with
  | true =>
      -- Each of these is an operation on one URL, or one on a list.
      cases request with
      | bringOnlinePoll url token =>
          cases hoperation
          exact told_dispatchUrl (.bringOnlinePoll url token) rfl rfl
            (run_of_mem_errorsOf (fun _ => rfl) hrun h)
      | releaseFile url token =>
          cases hoperation
          exact told_dispatchUrl (.releaseFile url token) rfl rfl (run_of_mem_errorsOf (fun _ => rfl) hrun h)
      | unlinkList urls =>
          cases hoperation
          exact ListOperation.told_request (.unlinkList urls) hrun h
      | bringOnlineList urls options =>
          cases hoperation
          exact ListOperation.told_request (.bringOnlineList urls options) hrun h
      | bringOnlinePollList urls token =>
          cases hoperation
          exact ListOperation.told_request (.bringOnlinePollList urls token) hrun h
      | releaseFileList urls token =>
          cases hoperation
          exact ListOperation.told_request (.releaseFileList urls token) hrun h
      | abortFiles urls token =>
          cases hoperation
          exact ListOperation.told_request (.abortFiles urls token) hrun h
      | _ => cases hoperation <;> exact Bool.noConfusion hborrows
  | false =>
      by_cases hlisting : operation = .readdirPlus
      · subst hlisting
        cases request <;> cases hoperation
        exact told_readdirPlus (run_of_mem_errorsOf (fun _ => rfl) hrun h)
      · have htells := tells_serve hoperation hborrows hlisting c
        rw [hrun] at htells
        rw [htells _ h tag source rfl]
        refine .own (fun hborrowed => absurd (hborrows.symm.trans hborrowed) Bool.noConfusion) ?_
        rintro key rfl
        exact absurd (Option.some.inj hoperation).symm hlisting

/-- A backend that cannot tell whether it serves a URL. -/
def undecided (id : InstanceId) : Backend Unit where
  id := id
  name := "undecided"
  respond call world :=
    match call with
    | .checkUrl .. => (.error ⟨⟨13⟩, "ask later"⟩, world)
    | call => (call.unimplemented, world)

def undecidedContext : Context Unit :=
  (Session.run [.register undecided] (.start .inProcess {} ())).2.context

theorem errors_undecided :
    errorsOf ((unlinkList ["r://a"]).serve.run.run undecidedContext).1 =
      [.backend "unlink" ⟨⟨13⟩, "ask later"⟩] := by
  decide +kernel

/-- The removal of a list tells the failure of a predicate. -/
theorem unlinkList_told :
    let request : Request Unit := unlinkList ["r://a"]
    let found := request.serve.run.run undecidedContext
    request.operation? = some .unlinkList ∧ .backend "unlink" ⟨⟨13⟩, "ask later"⟩ ∈ errorsOf found.1 ∧
      request.Told .unlinkList undecidedContext found.2 ⟨⟨13⟩, "ask later"⟩ "unlink" := by
  intro request found
  have hmem : .backend "unlink" ⟨⟨13⟩, "ask later"⟩ ∈ errorsOf found.1 := by
    show _ ∈ errorsOf ((unlinkList ["r://a"]).serve.run.run undecidedContext).1
    rw [errors_undecided]
    exact List.mem_cons_self
  have hoperation : request.operation? = some .unlinkList := rfl
  exact ⟨hoperation, hmem, serve_told hoperation rfl hmem⟩

/-- So it is told as if a single file had been removed. -/
theorem unlinkList_told_as_unlink :
    (unlinkList ["r://a"] : Request Unit).operation? = some .unlinkList ∧
      ¬ ∀ error ∈ errorsOf ((unlinkList ["r://a"]).serve.run.run undecidedContext).1,
        error.Tagged Operation.unlinkList.name := by
  refine ⟨rfl, fun h => ?_⟩
  rw [errors_undecided] at h
  have htag : "unlink" = Operation.unlinkList.name := h _ List.mem_cons_self "unlink" _ rfl
  exact absurd htag (by decide)

end Request

end StorageDispatch
