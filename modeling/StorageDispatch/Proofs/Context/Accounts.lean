import StorageDispatch.Proofs.Context.Counters

set_option autoImplicit false

/-! # The accounts of operations with a single result

There are four shapes of such operations, and in each of them the selection of a plugin and its work can be
told apart: operations on a URL, on two URLs and on an open handle, and the closing of a handle, which takes it
out of its table in the end. `Request.serve_accounts` puts them together: whatever the operation and whatever
the backends answer, it is counted as `Accounts` says.
-/

namespace StorageDispatch

variable {σ α β : Type}

namespace Context

variable {operation : Operation} {emulates : Plugin σ → Context σ → Bool}

/-! ## Operations on URLs -/

/-- An operation on a URL selects a plugin, which works. -/
theorem accounts_dispatchUrl {request : UrlRequest α} {url : String}
    (hoperation : request.operation = operation) (hurl : request.url = url)
    (haction : request.call.isAction = true) (hemulates : ∀ plugin d, emulates plugin d = false)
    (c : Context σ) :
    Accounts operation emulates ((selectUrl operation url).run.run c) ((dispatchUrl request).run.run c) := by
  subst hoperation hurl
  rw [← id_map (selectUrl request.operation request.url)]
  refine accounts_counted (selectUrl request.operation request.url) id (fun plugin => do
    let answer ← perform (call plugin.backend request.call)
    fromReply request.operation (request.accept answer)) fun plugin d _ => ?_
  rw [hemulates]
  exact works_call haction (fun _ => Bills.path.fromReply _ _) _

/-- What is done with the plugin for two URLs is done if both have the same. -/
theorem selectPair_bind (operation : Operation) (first second : String) (f : Plugin σ → Engine σ α) :
    selectPair operation first second >>= f = (do
      perform (log (.urlSpan operation first))
      let source ← resolveUrl operation first
      let destination ← resolveUrl operation second
      if source.name = destination.name then
        f source
      else
        throw (.crossBackend operation.name source.name destination.name)) := by
  simp only [selectPair, bind_assoc]
  congr! 6 with _ source destination
  split
  · exact pure_bind source f
  · rfl

/-- The comparison of the two names is a part of the selection. -/
theorem run_dispatchPair (request : PairRequest) (c : Context σ) :
    (dispatchPair request).run.run c =
      (counted request.operation (selectPair request.operation request.first request.second >>= fun plugin =>
        timedEngine request.operation plugin.name do
          let answer ← perform (call plugin.backend request.call)
          fromReply request.operation (request.accept answer))).run.run c := by
  rw [selectPair_bind]
  rfl

/-- An operation on two URLs selects the plugin of both, which works. -/
theorem accounts_dispatchPair {request : PairRequest} {first second : String}
    (hoperation : request.operation = operation) (hfirst : request.first = first)
    (hsecond : request.second = second) (haction : request.call.isAction = true)
    (hemulates : ∀ plugin d, emulates plugin d = false) (c : Context σ) :
    Accounts operation emulates ((selectPair operation first second).run.run c)
      ((dispatchPair request).run.run c) := by
  subst hoperation hfirst hsecond
  rw [← id_map (selectPair request.operation request.first request.second), run_dispatchPair]
  refine accounts_counted (selectPair request.operation request.first request.second) id (fun plugin => do
    let answer ← perform (call plugin.backend request.call)
    fromReply request.operation (request.accept answer)) fun plugin d _ => ?_
  rw [hemulates]
  exact works_call haction (fun _ => Bills.path.fromReply _ _) _

/-! ## Operations on open handles -/

def SameTables (c d : Context σ) : Prop := ∀ resource, d.table resource = c.table resource

/-- What the registry does by itself leaves the tables alone. -/
theorem sameTables_heedless : Heedless (SameTables : Context σ → Context σ → Prop) where
  refl _ _ := rfl
  trans h h' resource := (h' resource).trans (h resource)
  entry _ _ resource := by cases resource <;> rfl
  gauge _ _ _ resource := by cases resource <;> rfl
  tearDown _ _ resource := by cases resource <;> rfl
  registry _ _ resource := by cases resource <;> rfl

/-- A handle whose owner is found is in its table, also afterwards. -/
theorem selectOwner_ok {resource : Resource} {key : DescriptorKey} {found : HandleId × Plugin σ}
    {c d : Context σ} (h : (selectOwner operation resource key).run.run c = (.ok found, d)) :
    (d.table resource).find? key = some found.1 := by
  obtain ⟨id, e, hfind, hrest⟩ := run_bindE_ok h
  have hlookup : (lookupHandle operation resource key).run.run c = (.ok id, e) := by
    rw [lookupHandle, run_counted, hfind]
  obtain ⟨hentry, he⟩ := lookupHandle_ok hlookup
  rw [run_perform_bindE, run_perform_bindE] at hrest
  obtain ⟨plugin, f, hresolve, hpure⟩ := run_bindE_ok hrest
  -- The handle was looked up before the plugins were, and these may have been discovered only then.
  have htables : SameTables e f := by
    have F : Heedless (SameTables : Context σ → Context σ → Prop) := sameTables_heedless
    have hlog := F.entry (.handleSpan operation (e.shown id).handle.owner) e
    have hresolved := F.trans hlog (F.resolveOwner F.discover (e.shown id).handle.owner _)
    exact Eq.subst (motive := SameTables e) (congrArg Prod.snd hresolve) hresolved
  cases hpure
  rw [htables resource, ← hentry]
  subst he
  cases resource <;> rfl

/-- Work on the handle under a key as work on the handle whose owner was selected. -/
theorem run_served (operation : Operation) (resource : Resource) (key : DescriptorKey)
    (serve : HandleId → Plugin σ → Engine σ α) (c : Context σ) :
    (lookupHandle operation resource key >>= fun id => dispatchHandle operation id (serve id)).run.run c =
      (counted operation (selectOwner operation resource key >>= fun found =>
        timedEngine operation found.2.name (serve found.1 found.2))).run.run c := by
  rw [run_bindE, lookupHandle, run_counted, run_counted, run_bindE, selectOwner, run_bindE]
  rcases (findHandle resource key).run.run c with ⟨outcome, d⟩
  cases outcome with
  | error error => rfl
  | ok id =>
      -- Both sides go on to the owner, and count from there on.
      dsimp only
      unfold dispatchHandle
      rw [run_perform_bindE, run_perform_bindE, run_perform_bindE, run_perform_bindE, run_counted, run_bindE,
        run_bindE]
      rcases (resolveOwner _).run.run _ with ⟨outcome, e⟩
      cases outcome <;> rfl

/-- An operation on an open handle selects its owner, which works. -/
theorem accounts_served {resource : Resource} {key : DescriptorKey} {serve : HandleId → Plugin σ → Engine σ α}
    (hserve : ∀ id plugin d, (d.table resource).find? key = some id →
      Works plugin (if emulates plugin d then [.emulated operation] else [])
        (d.dispatched operation plugin.name)
        ((serve id plugin).run.run (d.dispatched operation plugin.name)).2) (c : Context σ) :
    Accounts operation emulates ((Prod.snd <$> selectOwner operation resource key).run.run c)
      ((lookupHandle operation resource key >>= fun id => dispatchHandle operation id (serve id)).run.run c) := by
  rw [run_served]
  exact accounts_counted _ Prod.snd _ fun found d h => hserve found.1 found.2 d (selectOwner_ok h)

/-- The owner of a handle is called about it as it is now. -/
theorem works_opened {plugin : Plugin σ} {id : HandleId} {request : OpenHandle → Call}
    {f : (opened : OpenHandle) → (request opened).Answer → Engine σ α}
    (haction : ∀ opened, (request opened).isAction = true)
    (hf : ∀ opened answer, Keeps (Bills (IsWorkOf plugin) []) (f opened answer)) (c : Context σ) :
    Works plugin [] c ((perform (openHandle id) >>= fun opened =>
      perform (call plugin.backend (request opened)) >>= f opened).run.run c).2 := by
  rw [run_perform_bindE]
  exact works_call (haction _) (hf _) _

/-- An operation that makes nothing of an empty buffer selects nobody for it. -/
theorem accounts_empty (c : Context σ) :
    Accounts operation emulates ((throw .emptyBuffer : Engine σ (Plugin σ)).run.run c)
      ((counted operation (throw .emptyBuffer) : Engine σ α).run.run c) :=
  .refused (bills_recordFailure operation .emptyBuffer c)

/-- Closing selects the owner of a handle, which closes it. -/
theorem accounts_closeKey (resource : Resource) (key : DescriptorKey)
    (hemulates : ∀ plugin d, emulates plugin d = false) (c : Context σ) :
    Accounts operation emulates ((Prod.snd <$> selectOwner operation resource key).run.run c)
      ((closeKey operation resource key).run.run c) := by
  have hclose : Accounts operation emulates ((Prod.snd <$> selectOwner operation resource key).run.run c)
      ((lookupHandle operation resource key >>= closeWithOwner operation resource).run.run c) := by
    refine accounts_served (fun id plugin d _ => ?_) c
    rw [hemulates]
    refine works_opened (fun opened => ?_) (fun _ _ => Bills.path.fromReply _ _) _
    cases resource <;> rfl
  have hall := (hclose.andThen fun _ => Bills.removeHandle resource key).map fun _ => ()
  simp only [map_bind, bind_assoc] at hall
  exact hall

/-! ## Positioned transfers -/

/-- Work that begins with a call depends on the answer only. -/
theorem works_answered {plugin : Plugin σ} {request : Call} {answer : request.Answer}
    {f : request.Answer → Engine σ α} {extra : List Metric} {c : Context σ} (haction : request.isAction = true)
    (hanswer : (plugin.backend.respond request c.world).1 = answer)
    (hf : ∀ d, Bills (IsWorkOf plugin) extra d ((f answer).run.run d).2) :
    Works plugin extra c ((perform (call plugin.backend request) >>= f).run.run c).2 := by
  rw [run_perform_bindE]
  have hcall : ((call plugin.backend request).run c).1 = answer := hanswer
  rw [hcall]
  exact .of_call haction (hf _)

/-- Reading at a position is counted as emulated if the owner leaves it to the dispatcher. -/
theorem accounts_pread (key : DescriptorKey) (buffer : Bytes) (offset : Nat)
    (hemulates : ∀ plugin d id, (d.table .file).find? key = some id → emulates plugin d =
      (plugin.backend.respond (.pread (d.shown id) buffer.length offset) d.world).1.isNone) (c : Context σ) :
    Accounts .pread emulates ((Prod.snd <$> selectOwner .pread .file key).run.run c)
      ((pread key buffer offset).run.run c) := by
  refine accounts_served (fun id plugin d hfind => ?_) c
  rw [hemulates plugin d id hfind, run_perform_bindE]
  cases hanswer : (plugin.backend.respond (.pread (d.shown id) buffer.length offset) d.world).1 with
  | some reply =>
      refine works_answered rfl hanswer fun e => ?_
      exact Bills.path.bindE (Bills.path.fromReply _ _) (fun _ => Bills.path.pureE _) e
  | none =>
      -- What is read is copied into the buffer in the end, which concerns nobody else.
      let transfer (file : OpenHandle) : Act σ (Reply Received) :=
        call plugin.backend (.read file buffer.length)
      refine works_answered rfl hanswer fun e => ?_
      have hemulate := bills_emulate plugin .pread id offset buffer.length
        (show ∀ file, Respects _ (transfer file) from fun _ => .call ⟨rfl, rfl, rfl⟩) Received.count e
      rw [run_bindE]
      generalize (emulate .pread plugin id offset buffer.length transfer _).run.run e = result at hemulate ⊢
      rcases result with ⟨outcome, f⟩
      cases outcome <;> exact hemulate

/-- Writing at a position is counted as emulated if the owner leaves it to the dispatcher. -/
theorem accounts_pwrite (key : DescriptorKey) (data : Bytes) (offset : Nat)
    (hemulates : ∀ plugin d id, (d.table .file).find? key = some id → emulates plugin d =
      (plugin.backend.respond (.pwrite (d.shown id) data offset) d.world).1.isNone) (c : Context σ) :
    Accounts .pwrite emulates ((Prod.snd <$> selectOwner .pwrite .file key).run.run c)
      ((pwrite key data offset).run.run c) := by
  refine accounts_served (fun id plugin d hfind => ?_) c
  rw [hemulates plugin d id hfind, run_perform_bindE]
  cases hanswer : (plugin.backend.respond (.pwrite (d.shown id) data offset) d.world).1 with
  | some reply => exact works_answered rfl hanswer fun e => Bills.path.fromReply _ _ e
  | none =>
      let transfer (file : OpenHandle) : Act σ (Reply Nat) := call plugin.backend (.write file data)
      refine works_answered rfl hanswer fun e => ?_
      exact bills_emulate plugin .pwrite id offset data.length
        (show ∀ file, Respects _ (transfer file) from fun _ => .call ⟨rfl, rfl, rfl⟩) _ e

end Context

/-! ## Requests -/

/-- Whether an operation has a single result, of which nothing is stored and nothing is left to a second
operation. -/
def Operation.isSingle : Operation → Bool
  | .openFile | .opendir | .readdirPlus | .unlinkList | .bringOnlineList | .bringOnlinePollList
  | .releaseFileList | .abortFiles => false
  | _ => true

namespace Request

open Context

/-- How a plugin is selected for an operation with a single result. -/
def selection? (operation : Operation) : Request σ → Option (Engine σ (Plugin σ))
  | stat url | lstat url | access url _ | chmod url _ | mkdir url _ | mkdirRecursive url _ | rmdir url
  | unlink url | readlink url | getxattr url _ | listxattr url | setxattr url _ _ _ | bringOnline url _
  | bringOnlinePoll url _ | releaseFile url _ => some (selectUrl operation url)
  | rename first second | symlink first second => some (selectPair operation first second)
  | read key buffer | write key buffer =>
    some (if buffer.isEmpty then throw .emptyBuffer else Prod.snd <$> selectOwner operation .file key)
  | pread key _ _ | pwrite key _ _ | lseek key _ | close key =>
    some (Prod.snd <$> selectOwner operation .file key)
  | readdir key | closedir key => some (Prod.snd <$> selectOwner operation .directory key)
  | _ => none

/-- Whether a plugin leaves a positioned transfer to the dispatcher: it answers nothing to the call. -/
def emulates (request : Request σ) (plugin : Plugin σ) (c : Context σ) : Bool :=
  match request with
  | pread key buffer offset =>
    ((c.table .file).find? key).any fun id =>
      (plugin.backend.respond (.pread (c.shown id) buffer.length offset) c.world).1.isNone
  | pwrite key data offset =>
    ((c.table .file).find? key).any fun id =>
      (plugin.backend.respond (.pwrite (c.shown id) data offset) c.world).1.isNone
  | _ => false

/-- Selecting a plugin counts nothing, and calls no action. -/
theorem questions_selection {operation : Operation} {request : Request σ} {select : Engine σ (Plugin σ)}
    (h : request.selection? operation = some select) : Keeps (Bills IsQuestion []) select := by
  cases request with
  | stat | lstat | access | chmod | mkdir | mkdirRecursive | rmdir | unlink | readlink | getxattr | listxattr
  | setxattr | bringOnline | bringOnlinePoll | releaseFile =>
      cases h
      exact questions_selectUrl operation _
  | rename | symlink =>
      cases h
      exact questions_selectPair operation _ _
  | read | write =>
      cases h
      split
      · exact Bills.path.throwE _
      · exact (questions_selectOwner operation .file _).map _
  | pread | pwrite | lseek | close | readdir | closedir =>
      cases h
      exact (questions_selectOwner operation _ _).map _
  | _ => cases h

/-- **Single operations are accounted for.** Until a plugin is selected nothing is counted, and backends are
asked questions at most. If none is selected, the operation fails and this is counted. If one is, it does the
rest alone: that is counted as dispatched to it and sampled, as emulated if it leaves a positioned transfer to
the dispatcher, and as failed if it fails. -/
theorem serve_accounts (request : Request σ) {operation : Operation}
    (hoperation : request.operation? = some operation) (hsingle : operation.isSingle = true) (c : Context σ) :
    ∃ select, request.selection? operation = some select ∧
      Bills IsQuestion [] c (select.run.run c).2 ∧
      Accounts operation request.emulates (select.run.run c) (request.serve.run.run c) := by
  suffices h : ∃ select, request.selection? operation = some select ∧
      Accounts operation request.emulates (select.run.run c) (request.serve.run.run c) by
    obtain ⟨select, hselect, haccounts⟩ := h
    exact ⟨select, hselect, questions_selection hselect c, haccounts⟩
  cases request with
  | stat | lstat | access | chmod | mkdir | mkdirRecursive | rmdir | unlink | readlink | getxattr | listxattr
  | setxattr | bringOnline | bringOnlinePoll | releaseFile =>
      cases hoperation
      refine ⟨_, rfl, Accounts.map _ ?_⟩
      refine accounts_dispatchUrl ?_ ?_ ?_ (fun _ _ => ?_) c <;> rfl
  | rename | symlink =>
      cases hoperation
      refine ⟨_, rfl, Accounts.map _ ?_⟩
      refine accounts_dispatchPair ?_ ?_ ?_ ?_ (fun _ _ => ?_) c <;> rfl
  | read key buffer =>
      cases hoperation
      refine ⟨_, rfl, Accounts.map _ ?_⟩
      unfold Context.read
      split
      · exact accounts_empty c
      · refine accounts_served (fun id plugin d _ => works_opened (fun _ => rfl) (fun _ _ => ?_) _) c
        refine Bills.path.bindE (Bills.path.fromReply _ _) fun received => ?_
        exact Bills.path.bindE (bills_update _ _).perform fun _ => Bills.path.pureE _
  | write key data =>
      cases hoperation
      refine ⟨_, rfl, Accounts.map _ ?_⟩
      unfold Context.write
      split
      · exact accounts_empty c
      · refine accounts_served (fun id plugin d _ => works_opened (fun _ => rfl) (fun _ _ => ?_) _) c
        refine Bills.path.bindE (Bills.path.fromReply _ _) fun count => ?_
        exact Bills.path.bindE (bills_update _ _).perform fun _ => Bills.path.pureE _
  | lseek key target =>
      cases hoperation
      refine ⟨_, rfl, Accounts.map _ ?_⟩
      refine accounts_served (fun id plugin d _ => works_opened (fun _ => rfl) (fun _ _ => ?_) _) c
      refine Bills.path.bindE (Bills.path.fromReply _ _) fun offset => ?_
      exact Bills.path.bindE (bills_update _ _).perform fun _ => Bills.path.pureE _
  | readdir key =>
      cases hoperation
      refine ⟨_, rfl, Accounts.map _ ?_⟩
      exact accounts_served (fun id plugin d _ => works_opened (fun _ => rfl)
        (fun _ _ => Bills.path.fromReply _ _) _) c
  -- Whether a transfer is emulated can be told once its plugin is selected.
  | pread key buffer offset =>
      cases hoperation
      refine ⟨_, rfl, (accounts_pread key buffer offset (fun plugin d id hfind => ?_) c).map _⟩
      rw [emulates, hfind, Option.any_some]
  | pwrite key data offset =>
      cases hoperation
      refine ⟨_, rfl, (accounts_pwrite key data offset (fun plugin d id hfind => ?_) c).map _⟩
      rw [emulates, hfind, Option.any_some]
  | close | closedir =>
      cases hoperation
      exact ⟨_, rfl, (accounts_closeKey _ _ (fun _ _ => rfl) c).map _⟩
  -- These have several results, or store something, or leave a part to another operation.
  | openFile | opendir | readdirPlus | unlinkList | bringOnlineList | bringOnlinePollList | releaseFileList
  | abortFiles =>
      cases hoperation
      exact Bool.noConfusion hsingle
  | _ => cases hoperation

/-- A backend that has no action at all, and so neither positioned transfers nor seeks. -/
def plainBackend : Backend Unit where
  id := .registered 0
  name := "plain"
  respond call world := (call.unimplemented, world)

def plainContext : Context Unit where
  config := {}
  world := ()
  registry := { phase := .ready, plugins := [{ backend := plainBackend, loadOrder := 0, origin := .static }] }
  files := some { name := "file", limit := 1, slots := #[{ entry := some 0 }], live := 1 }
  handles := #[{ owner := "plain" }]

/-- A positioned transfer for which the backend does not even seek is counted as emulated and as failed. -/
theorem pread_accounts :
    let request : Request Unit := .pread (.pack 0 0) [] 0
    (∃ select, request.selection? .pread = some select ∧
      Bills IsQuestion [] plainContext (select.run.run plainContext).2 ∧
      Accounts .pread request.emulates (select.run.run plainContext) (request.serve.run.run plainContext)) ∧
    (request.serve.run.run plainContext).2.counters =
      [.dispatched .pread "plain", .emulated .pread, .timed .pread, .failed .pread] :=
  ⟨serve_accounts (.pread (.pack 0 0) [] 0) rfl rfl plainContext, by decide⟩

end Request

end StorageDispatch
