import StorageDispatch.Proofs.Context.Closing
import StorageDispatch.Proofs.Context.Owners
import StorageDispatch.Proofs.Context.Surface

set_option autoImplicit false

/-! # Contexts that have ended

A context is `Silent` once its registry was torn down and nothing is left in it. No request calls a backend
then, or changes the registry (`hushed_serve`), and so the context stays silent.

What the requests return is told by what they need of the registry. An operation that is routed by a URL
finds nobody to claim it (`refusal_of_silent`). An operation on an open handle fails as well
(`badHandle_of_silent`): if its key is good for nothing, that is the reason, and if there is a handle under
it, nobody is there who owns it.
-/

namespace StorageDispatch

variable {σ : Type}

namespace Request

/-- The table and the key of a public operation on an open handle. -/
def handle? : Request σ → Option (Resource × DescriptorKey)
  | read key _ | write key _ | pread key _ _ | pwrite key _ _ | lseek key _ | close key => some (.file, key)
  | readdir key | readdirPlus key | closedir key => some (.directory, key)
  | _ => none

/-- Whether a request is a plain transfer without any room for data. -/
def transfersNothing : Request σ → Bool
  | read _ data | write _ data => data.isEmpty
  | _ => false

end Request

namespace Context

variable {α : Type} {c : Context σ}

/-- **A context that has ended**: all backends were torn down, and none is left. -/
structure Silent (c : Context σ) : Prop where
  phase_eq : c.registry.phase = .tornDown
  plugins_eq : c.registry.plugins = []
  pending_eq : c.registry.pending = []

theorem Silent.congr {d : Context σ} (h : c.Silent) (hregistry : d.registry = c.registry) : d.Silent :=
  ⟨by rw [hregistry, h.phase_eq], by rw [hregistry, h.plugins_eq], by rw [hregistry, h.pending_eq]⟩

theorem Silent.known (h : c.Silent) : c.registry.phase.isKnown := by
  rw [h.phase_eq]
  trivial

theorem Silent.made (h : c.Silent) (resource : Resource) :
    (c.withTable resource (c.table resource)).Silent :=
  h.congr (by cases resource <;> rfl)

/-! ## Nobody is called -/

def Hushed (c d : Context σ) : Prop := c.Silent → d.registry = c.registry ∧ d.calls = c.calls

theorem Hushed.silent {d : Context σ} (h : Hushed c d) (hsilent : c.Silent) : d.Silent :=
  hsilent.congr (h hsilent).1

theorem Hushed.of_does {ε : Type} {work : ExceptT ε (Act σ) α} {result : Except ε α} {d : Context σ}
    (h : Does work c result [] d) (hregistry : d.registry = c.registry) : Hushed c (work.run.run c).2 := by
  obtain ⟨events, hleft⟩ := h.context_eq
  refine fun _ => ⟨?_, ?_⟩
  · rw [hleft]
    exact hregistry
  · rw [h.calls_eq, List.append_nil]

/-- Work that is done in no context which is silent. -/
theorem Hushed.vacuous {d : Context σ} {plugin : Plugin σ} (h : plugin ∈ c.registry.plugins) : Hushed c d := by
  intro hsilent
  rw [hsilent.plugins_eq] at h
  cases h

theorem hushed_finding : Finding (Hushed : Context σ → Context σ → Prop) where
  toFlow := by
    refine .of_emit (fun _ _ => ⟨rfl, rfl⟩) (fun h h' hsilent => ?_)
      fun _ c h _ => ⟨rfl, calls_emit (Event.call?_of_isRoutine h) c⟩
    obtain ⟨hregistry, hcalls⟩ := h' (h.silent hsilent)
    exact ⟨hregistry.trans (h hsilent).1, hcalls.trans (h hsilent).2⟩
  discover c hsilent := Hushed.of_does (Does.discover hsilent.known) rfl hsilent

/-- Handles have no owner in a silent context. -/
theorem hushed_storing : Storing (Hushed : Context σ → Context σ → Prop) where
  toFinding := hushed_finding
  use resource c _ := by cases resource <;> exact ⟨rfl, rfl⟩
  found _ _ _ _ _ := trivial
  stays _ _ _ _ _ := trivial
  handle operation id _ c _ _ :=
    hushed_finding.dispatchHandleAt operation id fun _ _ _ _ hmem => .vacuous hmem
  adopt _ _ _ := ⟨rfl, rfl⟩
  storeTable resource _ _ _ := by cases resource <;> exact ⟨rfl, calls_emit rfl _⟩
  closeWithOwner operation resource id c :=
    hushed_finding.closeWithOwnerAt operation resource id fun _ _ _ _ _ hmem _ => .vacuous hmem

/-! ## What the registry does -/

theorem discover_of_silent (h : c.Silent) : Does Registry.discover c (.ok []) [] c := by
  have hdiscover := Does.discover h.known
  rwa [h.plugins_eq] at hdiscover

theorem rediscover_of_silent (h : c.Silent) : Does Registry.rediscover c (.ok []) [] c := by
  refine .of_run ?_
  unfold Registry.rediscover Registry.forgetFailure
  rw [run_perform_bindE, run_get_bind, h.phase_eq]
  have hdiscover := run_discover h.known
  rwa [h.plugins_eq] at hdiscover

theorem pluginNames_of_silent (h : c.Silent) : Does Registry.pluginNames c (.ok []) [] c :=
  (discover_of_silent h).bind fun _ => .pure _ _

theorem findFor_of_silent (h : c.Silent) (url : String) (capability : Capability) :
    Does (Registry.findFor url capability) c (.error (.protocolNotSupported capability.name url)) [] c :=
  (discover_of_silent h).bind fun _ => .throw _ _

/-- A plugin that was torn down is not torn down again. -/
theorem run_teardown_of_mem {plugin : Plugin σ} {c : Context σ} (h : plugin.id ∈ c.registry.tornDown) :
    plugin.teardown.run c = (false, c) := by
  unfold Plugin.teardown
  rw [run_get_bind, if_pos (List.contains_iff_mem.mpr h)]
  rfl

/-- A backend that comes too late is torn down at once. -/
theorem register_of_silent (h : c.Silent) (backend : Backend σ) :
    Does (perform (Registry.register backend) : Engine σ Unit) c (.ok ())
      [(backend.id, backend.name, .teardown)] (c.inWorld (backend.respond .teardown c.world).2) := by
  have hdoes : Does (perform (log (.rejected backend.name) >>= fun _ => call backend .teardown) : Engine σ Unit)
      c (.ok ()) [(backend.id, backend.name, .teardown)]
      (c.inWorld (backend.respond .teardown c.world).2) :=
    Does.perform_bind <| (Does.log _ _).bind fun events => (Does.call backend .teardown _).congr fun _ => rfl
  have hrun : (Registry.register backend).run c =
      (log (.rejected backend.name) >>= fun _ => call backend .teardown).run c := by
    unfold Registry.register
    rw [run_get_bind, h.phase_eq]
  obtain ⟨events, hmade, hthere⟩ := hdoes
  refine ⟨events, hmade, ?_⟩
  show (Except.ok ((Registry.register backend).run c).1, ((Registry.register backend).run c).2) = _
  rw [hrun]
  exact hthere

/-! ## Serving a URL -/

def unserved (operation : Operation) (url : String) : Error :=
  if url.isEmpty then .emptyUrl else .protocolNotSupported operation.capability.name url

theorem unserved_of_ne {url : String} (h : url ≠ "") (operation : Operation) :
    unserved operation url = .protocolNotSupported operation.capability.name url :=
  if_neg (by simpa using h)

theorem resolveUrl_of_silent (h : c.Silent) (operation : Operation) (url : String) :
    Does (resolveUrl operation url) c (.error (unserved operation url)) [] c := by
  unfold resolveUrl unserved
  split
  · exact .throw _ _
  · exact findFor_of_silent h url _

/-- **Nobody serves a URL in a silent context.** The operation says so, a list of URLs once for each. -/
theorem refusal_of_silent (h : c.Silent) {request : Request σ} {operation : Operation} {url : String}
    (hoperation : request.operation? = some operation) (hurl : request.url? = some url) :
    Does request.serve c (request.refusal (unserved operation url)) [] c :=
  refusal_does hoperation hurl fun events => by
    have hthere : (c.recording events).Silent := h.congr rfl
    exact (resolveUrl_of_silent hthere operation url).congr fun _ => rfl

/-! ## Serving a handle -/

def badHandle (c : Context σ) (resource : Resource) (key : DescriptorKey) : Error :=
  match (c.table resource).find? key with
  | some id => .unknownOwner (c.shown id).handle.owner
  | none => (c.table resource).badKey key

theorem badHandle_eq (c : Context σ) (resource : Resource) (key : DescriptorKey) :
    ∃ text, c.badHandle resource key = .badFileDescriptor text := by
  unfold badHandle
  split
  · exact ⟨_, rfl⟩
  · exact ⟨_, rfl⟩

theorem dispatchHandle_of_silent (h : c.Silent) (operation : Operation) (id : HandleId)
    (serve : Plugin σ → Engine σ α) :
    Does (dispatchHandle operation id serve) c (.error (.unknownOwner (c.shown id).handle.owner)) [] c := by
  refine dispatchHandle_does_unowned h.known ?_
  rw [h.plugins_eq]
  rfl

/-- Work on the handle under a key fails if it begins with looking for the owner. -/
theorem served_of_silent (h : c.Silent) (operation : Operation) (resource : Resource) (key : DescriptorKey)
    {f : HandleId → Engine σ α}
    (hf : ∀ (d : Context σ) id, d.Silent →
      Does (f id) d (.error (.unknownOwner (d.shown id).handle.owner)) [] d) :
    Does (lookupHandle operation resource key >>= f) c (.error (c.badHandle resource key)) []
      (c.withTable resource (c.table resource)) := by
  unfold badHandle
  cases hfind : (c.table resource).find? key with
  | none => exact (lookupHandle_does_missing operation hfind).bind_error _
  | some id =>
      refine (lookupHandle_does operation hfind).bind fun events => ?_
      have hthere := hf ((c.withTable resource (c.table resource)).recording events) id
        ((h.made resource).congr rfl)
      have hshown : ((c.withTable resource (c.table resource)).recording events).shown id = c.shown id := by
        cases resource <;> rfl
      rw [hshown] at hthere
      exact hthere.congr fun _ => rfl

section Served

variable (h : c.Silent) (key : DescriptorKey)

include h

/-- Looking for the owner may be all that there is to do. -/
theorem dispatched_of_silent (operation : Operation) (resource : Resource)
    (serve : HandleId → Plugin σ → Engine σ α) :
    Does (lookupHandle operation resource key >>= fun id => dispatchHandle operation id (serve id)) c
      (.error (c.badHandle resource key)) [] (c.withTable resource (c.table resource)) :=
  served_of_silent h operation resource key fun _ id hd => dispatchHandle_of_silent hd operation id (serve id)

theorem read_of_silent {buffer : Bytes} (hbuffer : buffer.isEmpty = false) :
    Does (Context.read key buffer) c (.error (c.badHandle .file key)) []
      (c.withTable .file (c.table .file)) := by
  rw [Context.read, if_neg (by simp [hbuffer])]
  exact dispatched_of_silent h key .read .file _

theorem write_of_silent {data : Bytes} (hdata : data.isEmpty = false) :
    Does (Context.write key data) c (.error (c.badHandle .file key)) []
      (c.withTable .file (c.table .file)) := by
  rw [Context.write, if_neg (by simp [hdata])]
  exact dispatched_of_silent h key .write .file _

theorem pread_of_silent (buffer : Bytes) (offset : Nat) :
    Does (Context.pread key buffer offset) c (.error (c.badHandle .file key)) []
      (c.withTable .file (c.table .file)) := dispatched_of_silent h key .pread .file _

theorem pwrite_of_silent (data : Bytes) (offset : Nat) :
    Does (Context.pwrite key data offset) c (.error (c.badHandle .file key)) []
      (c.withTable .file (c.table .file)) := dispatched_of_silent h key .pwrite .file _

theorem lseek_of_silent (target : SeekTarget) :
    Does (Context.lseek key target) c (.error (c.badHandle .file key)) []
      (c.withTable .file (c.table .file)) := dispatched_of_silent h key .lseek .file _

theorem readdir_of_silent :
    Does (Context.readdir key) c (.error (c.badHandle .directory key)) []
      (c.withTable .directory (c.table .directory)) := dispatched_of_silent h key .readdir .directory _

/-- A listing that is not the plugin's own does not get beyond the search for the owner either. -/
theorem readdirPlus_of_silent :
    Does (Context.readdirPlus key) c (.error (c.badHandle .directory key)) []
      (c.withTable .directory (c.table .directory)) := by
  refine served_of_silent h .readdirPlus .directory key fun d id hd => ?_
  exact (dispatchHandle_of_silent hd .readdirPlus id _).bind_error _

theorem closeKey_of_silent (operation : Operation) (resource : Resource) :
    Does (closeKey operation resource key) c (.error (c.badHandle resource key)) []
      (c.withTable resource (c.table resource)) := by
  refine served_of_silent h operation resource key fun d id hd => ?_
  exact (dispatchHandle_of_silent hd operation id _).bind_error _

end Served

/-- **No handle is served in a silent context.** -/
theorem badHandle_of_silent (h : c.Silent) {request : Request σ} {resource : Resource} {key : DescriptorKey}
    (hhandle : request.handle? = some (resource, key)) (hdata : request.transfersNothing = false) :
    Does request.serve c (.error (c.badHandle resource key)) [] (c.withTable resource (c.table resource)) := by
  cases request with
  | read key buffer =>
      cases hhandle
      exact (read_of_silent h key hdata).map _
  | write key data =>
      cases hhandle
      exact (write_of_silent h key hdata).map _
  | pread key buffer offset =>
      cases hhandle
      exact (pread_of_silent h key buffer offset).map _
  | pwrite key data offset =>
      cases hhandle
      exact (pwrite_of_silent h key data offset).map _
  | lseek key target =>
      cases hhandle
      exact (lseek_of_silent h key target).map _
  | readdir key =>
      cases hhandle
      exact (readdir_of_silent h key).map _
  | readdirPlus key =>
      cases hhandle
      exact (readdirPlus_of_silent h key).map _
  | close key =>
      cases hhandle
      exact (closeKey_of_silent h key .close .file).map _
  | closedir key =>
      cases hhandle
      exact (closeKey_of_silent h key .closedir .directory).map _
  | _ => cases hhandle

/-- Every request on a handle begins with a look at its key. -/
theorem exists_lookup {request : Request σ} {resource : Resource} {key : DescriptorKey}
    (hhandle : request.handle? = some (resource, key)) (hdata : request.transfersNothing = false) :
    ∃ (operation : Operation) (rest : HandleId → Engine σ Value),
      request.serve = lookupHandle operation resource key >>= rest := by
  cases request with
  | read key buffer =>
      cases hhandle
      have hbuffer : ¬ buffer.isEmpty = true := Bool.eq_false_iff.mp hdata
      rw [Request.serve, Context.read, if_neg hbuffer]
      exact ⟨_, _, map_bind _ _ _⟩
  | write key data =>
      cases hhandle
      have hbuffer : ¬ data.isEmpty = true := Bool.eq_false_iff.mp hdata
      rw [Request.serve, Context.write, if_neg hbuffer]
      exact ⟨_, _, map_bind _ _ _⟩
  | pread | pwrite | lseek | readdir | readdirPlus | close | closedir =>
      cases hhandle
      exact ⟨_, _, map_bind _ _ _⟩
  | _ => cases hhandle

/-- A key that is good for nothing is all that is wrong with a request. -/
theorem badKey_does {request : Request σ} {resource : Resource} {key : DescriptorKey}
    (hhandle : request.handle? = some (resource, key)) (hdata : request.transfersNothing = false)
    (hfind : (c.table resource).find? key = none) :
    Does request.serve c (.error ((c.table resource).badKey key)) [] (c.withTable resource (c.table resource)) := by
  obtain ⟨operation, rest, hserve⟩ := exists_lookup hhandle hdata
  rw [hserve]
  exact (lookupHandle_does_missing operation hfind).bind_error rest

/-- A transfer without room for data is refused in every context. -/
theorem emptyBuffer_does {request : Request σ} (hdata : request.transfersNothing = true) (c : Context σ) :
    Does request.serve c (.error .emptyBuffer) [] c := by
  cases request with
  | read key buffer =>
      have hempty : buffer.isEmpty = true := hdata
      have hread : Does (Context.read key buffer) c (.error .emptyBuffer) [] c := by
        rw [Context.read, if_pos hempty]
        exact .counted .read (.throw _ _)
      exact hread.map _
  | write key data =>
      have hempty : data.isEmpty = true := hdata
      have hwrite : Does (Context.write key data) c (.error .emptyBuffer) [] c := by
        rw [Context.write, if_pos hempty]
        exact .counted .write (.throw _ _)
      exact hwrite.map _
  | _ => exact Bool.noConfusion hdata

/-! ## No request breaks the silence -/

theorem hushed_resolveBatch {β : Type} (operation : Operation) (urls : List String)
    (serve : Plugin σ → Act σ β) (otherwise : List (Except Error α) → β) :
    Respects Hushed (resolveBatch operation urls serve otherwise) := by
  intro c hsilent
  cases urls with
  | nil => exact hushed_finding.bind (hushed_finding.log rfl) (fun _ => hushed_finding.pure _) c hsilent
  | cons first rest =>
      have hrefused (events : List Event) :
          Does (resolveUrl operation first) (c.recording events) (.error (unserved operation first)) [] c := by
        have hthere : (c.recording events).Silent := hsilent.congr rfl
        exact (resolveUrl_of_silent hthere operation first).congr fun _ => rfl
      have hfirst : (first :: rest).head? = some first := rfl
      exact Hushed.of_does (resolveBatch_refused hfirst otherwise hrefused) rfl hsilent

theorem hushed_refused {request : Request σ} {operation : Operation} {url : String}
    (hoperation : request.operation? = some operation) (hurl : request.url? = some url) :
    Keeps Hushed request.serve :=
  fun _ hsilent => Hushed.of_does (refusal_of_silent hsilent hoperation hurl) rfl hsilent

/-- Requests that are routed find nobody to ask. -/
theorem hushed_routed {request : Request σ} (h : request.routed = true) : Keeps Hushed request.serve := by
  cases request with
  | stat | lstat | access | chmod | mkdir | mkdirRecursive | rmdir | unlink | readlink | rename | symlink
  | getxattr | listxattr | setxattr | opendir | openFile | bringOnline | bringOnlinePoll | releaseFile =>
      exact hushed_refused rfl rfl
  | unlinkList urls => exact (hushed_resolveBatch .unlinkList urls _ _).perform.map _
  | bringOnlineList urls | bringOnlinePollList urls | releaseFileList urls | abortFiles urls =>
      refine Keeps.map _ (Respects.perform ?_)
      exact hushed_finding.bind (hushed_resolveBatch _ urls _ _) fun _ => hushed_finding.pure _
  | readdirPlus key =>
      exact fun c hsilent => Hushed.of_does (badHandle_of_silent hsilent rfl rfl) rfl hsilent
  | findFor url capability =>
      exact fun c hsilent =>
        Hushed.of_does ((findFor_of_silent hsilent url capability).bind_error _) rfl hsilent
  | _ => exact Bool.noConfusion h

theorem hushed_tearDownRegistry : Respects Hushed (Registry.teardown : Act σ Unit) := by
  intro c hsilent
  have hrun : (Registry.teardown : Act σ Unit).run c = ((), c) := by
    unfold Registry.teardown
    rw [run_get_bind, if_pos ⟨hsilent.phase_eq, hsilent.plugins_eq⟩]
    rfl
  rw [hrun]
  exact ⟨rfl, rfl⟩

theorem hushed_teardown : Respects Hushed (Context.teardown : Act σ Unit) := by
  refine hushed_finding.bind (hushed_storing.clearMadeTable .file) fun files => ?_
  refine hushed_finding.bind (hushed_storing.clearMadeTable .directory) fun directories => ?_
  split
  · exact hushed_finding.bind (hushed_finding.log rfl) fun _ => hushed_tearDownRegistry
  · exact hushed_tearDownRegistry

/-- **No request breaks the silence.** -/
theorem hushed_serve (request : Request σ) : Keeps Hushed request.serve := by
  by_cases hrouted : request.routed = true
  · exact hushed_routed hrouted
  · by_cases hordinary : request.ordinary = true
    · exact Request.storing_unrouted hushed_storing hordinary (eq_false_of_ne_true hrouted)
    · cases request with
      | rediscover =>
          refine hushed_finding.bindE (fun c hsilent => ?_) fun _ =>
            hushed_finding.bindE (hushed_finding.describePlugins _).perform fun _ => hushed_finding.pureE _
          exact Hushed.of_does (rediscover_of_silent hsilent) rfl hsilent
      | tearDownRegistry => exact hushed_tearDownRegistry.perform.map _
      | tearDown => exact hushed_teardown.perform.map _
      | _ => exact absurd rfl hordinary

end Context

end StorageDispatch
