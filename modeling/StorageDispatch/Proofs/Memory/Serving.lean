import StorageDispatch.Proofs.Context.Closing
import StorageDispatch.Proofs.Context.Positioned
import StorageDispatch.Proofs.Context.Routing
import StorageDispatch.Proofs.Memory.Files
import StorageDispatch.Proofs.Registry.Discovery
import StorageDispatch.Proofs.Session.Openers

set_option autoImplicit false

/-! # Files through a context

A context whose only backend is in memory (`Context.Lone`) hands everything to it, so what the context does is
what the backend does: here for every operation on a URL that the backend claims (`Memory.dispatchUrl_answers`), the
opening of a file among them, and for every request on a key under which a file of the backend is open
(`Memory.HasOpen`). A transfer that the backend does not position itself is a seek and a
plain transfer.

What is left of a request is a world that became another one, and a context that is otherwise as before, but
for positions and what is recorded (`Context.Alike`).
-/

namespace StorageDispatch

variable {σ α : Type}

theorem Sought.eq_nil {c : Context σ} {names : List String} (hnone : Sought c []) (h : Sought c names) :
    names = [] := by
  cases h with
  | nothing => rfl
  | @modules entries _ hload hdir hnames =>
      cases hnone with
      | nothing hload' => exact absurd (hload'.symm.trans hload) nofun
      | modules _ hdir' hnone =>
          cases hdir'.symm.trans hdir
          exact List.perm_nil.mp (hnames.perm.trans hnone.perm.symm)

namespace Context

/-! ## The only backend -/

/-- **The only backend of a context**: it is the only plugin, or will be as soon as the plugins are
discovered. -/
inductive Lone (backend : Backend σ) (c : Context σ) : Prop
  | listed (plugin : Plugin σ) (hbackend : plugin.backend = backend) (hready : c.registry.phase = .ready)
      (hplugins : c.registry.plugins = [plugin])
  | waiting (hphase : c.registry.phase = .uninitialized) (hplugins : c.registry.plugins = [])
      (hpending : c.registry.pending = [backend]) (hmodules : Sought c [])

theorem Lone.congr {backend : Backend σ} {c d : Context σ} (h : Lone backend c)
    (hregistry : d.registry = c.registry) (hconfig : d.config = c.config) (hhost : d.host = c.host) :
    Lone backend d := by
  cases h with
  | listed plugin hbackend hready hplugins =>
      rw [← hregistry] at hready hplugins
      exact .listed plugin hbackend hready hplugins
  | waiting hphase hplugins hpending hmodules =>
      rw [← hregistry] at hphase hplugins hpending
      refine .waiting hphase hplugins hpending ?_
      cases hmodules with
      | nothing hload => exact .nothing (by rw [hconfig]; exact hload)
      | modules hload hdir hnames =>
          exact .modules (by rw [hconfig]; exact hload) (by rw [hconfig, hhost]; exact hdir) hnames

/-- Once plugins are known, it is listed. -/
theorem Lone.listed_of_ready {backend : Backend σ} {c : Context σ} (h : Lone backend c)
    (hready : c.registry.phase = .ready) :
    ∃ plugin : Plugin σ, plugin.backend = backend ∧ c.registry.plugins = [plugin] := by
  cases h with
  | listed plugin hbackend _ hplugins => exact ⟨plugin, hbackend, hplugins⟩
  | waiting hphase => exact absurd (hphase.symm.trans hready) nofun

/-- Whether it is listed yet or not, a lookup finds it. -/
theorem Lone.discover_does {backend : Backend σ} {c : Context σ} (h : Lone backend c) :
    ∃ (registry : Registry σ) (plugin : Plugin σ), plugin.backend = backend ∧ registry.phase = .ready ∧
      registry.plugins = [plugin] ∧
      ∀ events, Does Registry.discover (c.recording events) (.ok [plugin]) [] { c with registry } := by
  cases h with
  | listed plugin hbackend hready hplugins =>
      exact ⟨c.registry, plugin, hbackend, hready, hplugins, Does.discover_recording (known_of_ready hready) hplugins⟩
  | waiting hphase hplugins hpending hmodules =>
      have hfilled : (c.registry.filled []).plugins =
          [{ backend, loadOrder := c.registry.nextOrder, origin := .static }] := by
        simp [Registry.filled, hplugins, hpending, sortPlugins, Registry.newcomers, Registry.numbered]
      refine ⟨c.registry.filled [], _, rfl, rfl, hfilled, fun events => ?_⟩
      rw [← hfilled]
      have hthere : (c.recording events).registry.phase = .uninitialized := hphase
      obtain ⟨result, made, d, hdiscovered, hdoes⟩ := Registry.discover_discovered hthere
      cases hdiscovered with
      | ready hnames hload =>
          rw [hmodules.eq_nil hnames.of_recording] at hload
          cases hload
          exact hdoes.congr fun _ => rfl
      | failed hnames => exact absurd (hmodules.eq_nil hnames.of_recording) (by simp)
      | unlistable hload hdir =>
          -- A directory with no module in it can be listed.
          cases hmodules with
          | nothing hload' => cases hload'.symm.trans hload
          | modules _ hdir' =>
              have hthere :
                  Unlistable (c.host.directory (c.config.resolvedPluginDir c.host.environment).1) _ := hdir
              rw [hdir'] at hthere
              cases hthere

/-! ## Small steps -/

def holding (c : Context σ) (handle : FileHandle) : Context σ := { c with handles := c.handles.push handle }

@[simp] theorem holding_recording (c : Context σ) (events : List Event) (handle : FileHandle) :
    (c.recording events).holding handle = (c.holding handle).recording events := rfl

@[simp] theorem table_holding (c : Context σ) (handle : FileHandle) (resource : Resource) :
    (c.holding handle).table resource = c.table resource := by
  cases resource <;> rfl

/-- The new handle is the last one, and the others are as they were. -/
theorem shown_holding (c : Context σ) (handle : FileHandle) (id : HandleId) :
    (c.holding handle).shown id = if id = c.handles.size then ⟨id, handle⟩ else c.shown id := by
  simp only [shown, holding, Array.getElem?_push]
  split <;> rfl

theorem Does.adopt {ε : Type} (handle : FileHandle) (c : Context σ) :
    Does (perform (Context.adopt handle) : ExceptT ε (Act σ) HandleId) c (.ok c.handles.size) []
      (c.holding handle) := by
  refine ⟨[], rfl, ?_⟩
  rw [List.append_nil]
  rfl

/-- What a backend has opened is stored. -/
theorem opening_stored {o : Opening} {c d e : Context σ} {handle : FileHandle}
    {result : Except Error DescriptorKey} {made later : List (InstanceId × String × Call)}
    (hopen : Does (dispatchUrl o.part) c (.ok handle) made d)
    (hstore : ∀ events, Does (storeAdopted o.operation o.resource d.handles.size)
      ((d.holding (handle.setPathIfMissing o.url)).recording events) result later e) :
    Does o.request.serve c (Value.key <$> result) (made ++ later) e := by
  rw [o.serve_request]
  refine Does.map Value.key (hopen.bind fun events => ?_)
  exact (Does.adopt _ _).bind fun events => hstore events

/-- With room, it gets a key. -/
theorem opening_keyed {o : Opening} {c d : Context σ} {handle : FileHandle}
    {made : List (InstanceId × String × Call)} (hopen : Does (dispatchUrl o.part) c (.ok handle) made d)
    {key : DescriptorKey} {table : DescriptorTable HandleId}
    (hinsert : (d.table o.resource).insert d.handles.size = .ok (key, table)) :
    ∃ made, Does o.request.serve c (.ok (.key key)) made
      ((d.holding (handle.setPathIfMissing o.url)).withTable o.resource table) := by
  set stored := d.holding (handle.setPathIfMissing o.url) with hstored
  have hstore (events : List Event) : Does (storeAdopted o.operation o.resource d.handles.size)
      (stored.recording events) (.ok key) [] (stored.withTable o.resource table) := by
    have hthere : ((stored.recording events).table o.resource).insert d.handles.size = .ok (key, table) := by
      rw [table_recording, hstored, table_holding]
      exact hinsert
    refine (storeAdopted_does o.operation hthere).congr fun _ => ?_
    cases o <;> rfl
  exact ⟨_, opening_stored hopen hstore⟩

/-- **An emulated transfer**: a seek that lands where it should, and a plain transfer from there. -/
theorem emulate_does {operation : Operation} {plugin : Plugin σ} {opened : OpenHandle} {offset size : Nat}
    {transfer : OpenHandle → Act σ (Reply α)} {count : α → Nat} {before sought after : σ} {a : α}
    {made : List (InstanceId × String × Call)}
    (hseek : plugin.backend.respond (.lseek opened (.start offset)) before = (.ok offset, sought))
    (htransfer : ∀ d : Context σ, d.world = sought →
      Does (perform (transfer opened) : Engine σ (Reply α)) d (.ok (.ok a)) made (d.inWorld after))
    {c : Context σ} (hopened : c.shown opened.id = opened) (hc : c.world = before) :
    Does (emulate operation plugin opened.id offset size transfer count) c (.ok a)
      ((plugin.id, plugin.name, .lseek opened (.start offset)) :: made)
      ((c.inWorld after).moving opened.id fun _ => min (offset + count a) maxOffset) := by
  refine (Does.openHandle opened.id c).bind fun events => (Does.log _ _).bind fun events => ?_
  rw [show (⟨opened.id, (c.handles[opened.id]?).getD default⟩ : OpenHandle) = opened from hopened]
  refine (Does.measure _ _).bind fun events => (Does.called hseek (by exact hc)).bind fun events => ?_
  refine (Does.fromOutcome _ _).bind fun events => ?_
  rw [if_pos rfl, ← List.append_nil made]
  refine (htransfer _ (by rfl)).bind fun events => (Does.fromOutcome _ _).bind fun events => ?_
  exact (Does.move opened.id _ _).bind fun events => (Does.pure a _).congr fun _ => by simp

/-! ## What requests leave as it was -/

/-- The contexts are the same but for the world, positions of handles, and what is recorded. -/
structure Alike (c d : Context σ) : Prop where
  registry_eq : d.registry = c.registry
  table_eq : d.table .file = c.table .file
  size_eq : d.handles.size = c.handles.size
  owner_eq : ∀ id, (d.shown id).handle.owner = (c.shown id).handle.owner
  payload_eq : ∀ id, (d.shown id).handle.payload = (c.shown id).handle.payload

/-- The table was made at its first use, and the world may be another one. -/
theorem alike_inWorld (c : Context σ) (world : σ) :
    Alike c ((c.withTable .file (c.table .file)).inWorld world) := ⟨rfl, rfl, rfl, fun _ => rfl, fun _ => rfl⟩

theorem Alike.moving {c d : Context σ} (h : Alike c d) (id : HandleId) (offset : FileHandle → Nat) :
    Alike c (d.moving id offset) := by
  have hshown (other : HandleId) : ((d.moving id offset).shown other).handle =
      if id = other ∧ other < d.handles.size then (d.shown other).handle.setOffset (offset (d.shown other).handle)
        else (d.shown other).handle := by
    simp only [shown, Context.moving, Array.getElem?_modify]
    by_cases hid : id = other
    · by_cases hlt : other < d.handles.size
      · simp [hid, hlt]
      · simp [hid, hlt]
    · simp [hid]
  constructor
  · exact h.registry_eq
  · exact h.table_eq
  · exact Array.size_modify.trans h.size_eq
  · intro other
    rw [hshown, ← h.owner_eq]
    split <;> rfl
  · intro other
    rw [hshown, ← h.payload_eq]
    split <;> rfl

end Context

namespace Memory

open Context

variable {spec : Spec} {id : InstanceId}

/-! ## URLs that the backend claims -/

theorem checkUrl_eq {plugin : Plugin State} (hbackend : plugin.backend = backend id spec) (url : String)
    (kind : Capability) (world : State) :
    plugin.backend.respond (.checkUrl url kind) world = (.ok (spec.claimsUrl url kind), world) := by
  rw [hbackend]
  rfl

/-- A backend that is listed first is asked whether it claims a URL, and then called. -/
theorem dispatchUrl_does_first {c d : Context State} {plugin : Plugin State} {others : List (Plugin State)}
    (hbackend : plugin.backend = backend id spec) {request : UrlRequest α} (hurl : request.url ≠ "")
    (hclaims : spec.claimsUrl request.url request.operation.capability = true)
    (hlisted : ∀ events, Does Registry.discover (c.recording events) (.ok (plugin :: others)) [] d) :
    Does (dispatchUrl request) c (tag request.operation (request.accept (respond id spec request.call d.world).1))
      (asking request.url request.operation.capability [plugin] ++ [(plugin.id, plugin.name, request.call)])
      (d.inWorld (respond id spec request.call d.world).2) := by
  have hasked := checkUrl_eq hbackend request.url request.operation.capability d.world
  rw [hclaims] at hasked
  have hsearch :
      Search request.url request.operation.capability (plugin :: others) d.world (.ok plugin) _ _ :=
    .found [] rfl trivial (congrArg Prod.fst hasked)
  have hworld : afterAsking request.url request.operation.capability [plugin] d.world = d.world :=
    congrArg Prod.snd hasked
  rw [List.nil_append, hworld] at hsearch
  have hdoes := dispatchUrl_does_ok hurl hlisted hsearch
  rw [hbackend] at hdoes
  exact hdoes

/-- **The backend serves what it claims.** It is asked whether it claims the URL, and then called. -/
theorem dispatchUrl_does_claimed {c : Context State} (hlone : Lone (backend id spec) c) {request : UrlRequest α}
    (hurl : request.url ≠ "") (hclaims : spec.claimsUrl request.url request.operation.capability = true) :
    ∃ (registry : Registry State) (plugin : Plugin State), plugin.backend = backend id spec ∧
      registry.phase = .ready ∧ registry.plugins = [plugin] ∧
      ∀ events, Does (dispatchUrl request) (c.recording events)
        (tag request.operation (request.accept (respond id spec request.call c.world).1))
        (asking request.url request.operation.capability [plugin] ++ [(plugin.id, plugin.name, request.call)])
        ({ c with registry }.inWorld (respond id spec request.call c.world).2) := by
  obtain ⟨registry, plugin, hbackend, hready, hplugins, hlisted⟩ := hlone.discover_does
  refine ⟨registry, plugin, hbackend, hready, hplugins, fun events => ?_⟩
  exact dispatchUrl_does_first (c := c.recording events) hbackend hurl hclaims hlisted

/-- What it answers is what the caller is told, and it stays the only backend. -/
theorem dispatchUrl_answers {c : Context State} (hlone : Lone (backend id spec) c) {request : UrlRequest α}
    (hurl : request.url ≠ "") (hclaims : spec.claimsUrl request.url request.operation.capability = true)
    {answer : request.call.Answer} {after : State} (hrespond : respond id spec request.call c.world = (answer, after)) :
    ∃ registry made, Lone (backend id spec) ({ c with registry }.inWorld after) ∧ registry.phase = .ready ∧
      ∀ events, Does (dispatchUrl request) (c.recording events) (tag request.operation (request.accept answer)) made
        ({ c with registry }.inWorld after) := by
  obtain ⟨registry, plugin, hbackend, hready, hplugins, hdoes⟩ := dispatchUrl_does_claimed hlone hurl hclaims
  rw [hrespond] at hdoes
  exact ⟨registry, _, .listed plugin hbackend hready hplugins, hready, hdoes⟩

/-! ## Opening -/

/-- The backend is asked whether it claims the URL, and then opens the file. -/
theorem dispatchOpen_does {c : Context State} (hlone : Lone (backend id spec) c) {url : String} (flags : UInt32)
    (mode : Mode) (hurl : url ≠ "") (hclaims : spec.claimsUrl url .openFile = true) :
    ∃ (registry : Registry State) (plugin : Plugin State), plugin.backend = backend id spec ∧
      registry.phase = .ready ∧ registry.plugins = [plugin] ∧
      Does (dispatchUrl (.openFile url flags mode)) c (tag .openFile (Memory.openFile spec url flags c.world).1)
        (asking url .openFile [plugin] ++ [(plugin.id, plugin.name, .openFile url flags mode)])
        ({ c with registry }.inWorld (Memory.openFile spec url flags c.world).2) := by
  have hrequest : (UrlRequest.openFile url flags mode).url ≠ "" := hurl
  obtain ⟨registry, plugin, hbackend, hready, hplugins, hdoes⟩ := dispatchUrl_does_claimed hlone hrequest hclaims
  exact ⟨registry, plugin, hbackend, hready, hplugins, hdoes c.events⟩

/-- A URL that is empty, or that the backend does not claim, is not opened. -/
theorem openFile_does_unclaimed {c : Context State} (hlone : Lone (backend id spec) c) {url : String}
    (flags : UInt32) (mode : Mode) (hrefuses : url = "" ∨ spec.claimsUrl url .openFile = false) :
    ∃ (registry : Registry State) (error : Error) (made : List (InstanceId × String × Call)),
      Lone (backend id spec) { c with registry } ∧
        (c.registry.phase = .ready → registry.phase = .ready) ∧
        Does (Request.openFile url flags mode).serve c (.error error) made { c with registry } := by
  by_cases hurl : url = ""
  · have hresolve (events : List Event) :
        Does (resolveUrl .openFile url) (c.recording events) (.error .emptyUrl) [] c := by
      rw [resolveUrl, hurl]
      exact (Does.throw _ _).congr fun _ => rfl
    exact ⟨c.registry, _, [], hlone, fun h => h, refusal_does rfl rfl hresolve⟩
  · obtain ⟨registry, plugin, hbackend, hready, hplugins, hlisted⟩ := hlone.discover_does
    have hasked := checkUrl_eq hbackend url .openFile c.world
    rw [hrefuses.resolve_left hurl] at hasked
    have hsearch : Search url .openFile [plugin] c.world
        (.error (.protocolNotSupported Capability.openFile.name url)) _ _ :=
      .unclaimed ⟨congrArg Prod.fst hasked, trivial⟩
    have hworld : afterAsking url .openFile [plugin] c.world = c.world := congrArg Prod.snd hasked
    rw [hworld] at hsearch
    have hrequest : (UrlRequest.openFile url flags mode).url ≠ "" := hurl
    have hresolve (events : List Event) := resolveUrl_does hrequest (hlisted events) hsearch
    exact ⟨registry, _, _, .listed plugin hbackend hready hplugins, fun _ => hready,
      refusal_does rfl rfl hresolve⟩

/-! ## Handles that the backend owns -/

theorem name_eq_owner {plugin : Plugin State} (hbackend : plugin.backend = backend id spec) {handle : FileHandle}
    (howner : handle.owner = spec.name) : plugin.name = handle.owner := by
  rw [howner, Plugin.name, hbackend]
  rfl

/-- If it is the only plugin, it is found by the name that the handle carries. -/
theorem find?_owner {plugin : Plugin State} (hbackend : plugin.backend = backend id spec)
    {plugins : List (Plugin State)} (hplugins : plugins = [plugin]) {handle : FileHandle}
    (howner : handle.owner = spec.name) : (plugins.find? fun p => p.name == handle.owner) = some plugin := by
  rw [hplugins, List.find?_cons, beq_iff_eq.mpr (name_eq_owner hbackend howner)]

/-! ## Requests on an open file -/

/-- **A file that is open under a key** of a context whose only plugin is the backend. -/
structure HasOpen (id : InstanceId) (spec : Spec) (plugin : Plugin State) (c : Context State)
    (key : DescriptorKey) (h : HandleId) (index : Nat) (file : OpenFile) (bytes : Bytes) : Prop where
  backend_eq : plugin.backend = backend id spec
  ready : c.registry.phase = .ready
  plugins_eq : c.registry.plugins = [plugin]
  find?_eq : (c.table .file).find? key = some h
  owner_eq : (c.shown h).handle.owner = spec.name
  reaches : c.world.Reaches spec.store (c.shown h) index file bytes

/-- Work ends with a result, and leaves a context that is alike, but for the contents of the store, and for one
of the open files, which is this from then on. -/
def Uses (label : String) (work : Engine State α) (c : Context State) (result : Except Error α)
    (contents : String → Option Bytes) (index : Nat) (file : OpenFile) : Prop :=
  ∃ made d, Does work c result made d ∧ Alike c d ∧ c.world.Became label contents index file d.world

namespace HasOpen

variable {plugin : Plugin State} {c : Context State} {key : DescriptorKey} {h : HandleId} {index : Nat}
  {file : OpenFile} {bytes : Bytes} (ho : HasOpen id spec plugin c key h index file bytes)

include ho

theorem respond_eq (request : Call) (world : State) :
    plugin.backend.respond request world = respond id spec request world := by
  rw [ho.backend_eq]
  rfl

/-- The backend is at work for every operation on the key. -/
theorem served (operation : Operation) {serve : HandleId → Plugin State → Engine State α} {d : Context State}
    {result : Except Error α} {made : List (InstanceId × String × Call)}
    (hserve : ∀ events,
      Does (serve h plugin) ((c.withTable .file (c.table .file)).recording events) result made d) :
    Does (lookupHandle operation .file key >>= fun id => dispatchHandle operation id (serve id)) c
      result made d := by
  have hfind : (c.registry.plugins.find? fun p => p.name == (c.shown h).handle.owner) = some plugin :=
    find?_owner ho.backend_eq ho.plugins_eq ho.owner_eq
  exact (lookupHandle_does operation ho.find?_eq).bind fun events =>
    dispatchHandle_does_owned (known_of_ready ho.ready) hfind hserve

/-- Every operation on the key begins with a call on the handle. -/
theorem called (operation : Operation) (request : OpenHandle → Call) {answer : (request (c.shown h)).Answer}
    {after : State} (hcall : respond id spec (request (c.shown h)) c.world = (answer, after))
    {f : HandleId → Plugin State → (opened : OpenHandle) → (request opened).Answer → Engine State α}
    {d : Context State} {result : Except Error α} {made : List (InstanceId × String × Call)}
    (hrest : ∀ events, Does (f h plugin (c.shown h) answer)
      (((c.withTable .file (c.table .file)).inWorld after).recording events) result made d) :
    Does (lookupHandle operation .file key >>= fun id => dispatchHandle operation id fun plugin => do
      let opened ← perform (openHandle id)
      let answer ← perform (call plugin.backend (request opened))
      f id plugin opened answer) c result ((plugin.id, plugin.name, request (c.shown h)) :: made) d := by
  refine ho.served operation fun events => (Does.openHandle h _).bind fun events => ?_
  exact (Does.called ((ho.respond_eq _ _).trans hcall) (by rfl)).bind fun events => hrest events

theorem read {buffer : Bytes} (hsize : buffer ≠ []) :
    Uses spec.store (Context.read key buffer) c (.ok (bytes.received file.position buffer))
      (c.world.contents spec.store) index
      { file with position := file.position + (bytes.received file.position buffer).1 } := by
  obtain ⟨after, hread, hbecame⟩ := ho.reaches.read buffer.length
  rw [Bytes.received_eq]
  set data := bytes.slice file.position buffer.length with hdata
  have hbuffer : ¬ buffer.isEmpty = true := by simpa using hsize
  have hdoes : Does (Context.read key buffer) c (.ok (data.length, data.overlay buffer))
      [(plugin.id, plugin.name, .read (c.shown h) buffer.length)]
      (((c.withTable .file (c.table .file)).inWorld after).moving h fun handle =>
        min (handle.offset + data.length) maxOffset) := by
    rw [Context.read, if_neg hbuffer]
    refine ho.called .read (.read · buffer.length) hread fun events => (Does.fromOutcome _ _).bind fun events => ?_
    exact (Does.move h _ _).bind fun events => .pure _ _
  exact ⟨_, _, hdoes, (alike_inWorld c after).moving h _, hbecame⟩

theorem write {data : Bytes} (hsize : data ≠ []) :
    Uses spec.store (Context.write key data) c (.ok data.length)
      (Function.update (c.world.contents spec.store) file.url (some (bytes.splice file.position data))) index
      { file with position := file.position + data.length } := by
  obtain ⟨after, hwrite, hbecame⟩ := ho.reaches.write data
  have hnonempty : ¬ data.isEmpty = true := by simpa using hsize
  have hdoes : Does (Context.write key data) c (.ok data.length)
      [(plugin.id, plugin.name, .write (c.shown h) data)]
      (((c.withTable .file (c.table .file)).inWorld after).moving h fun handle =>
        min (handle.offset + data.length) maxOffset) := by
    rw [Context.write, if_neg hnonempty]
    refine ho.called .write (.write · data) hwrite fun events => (Does.fromOutcome _ _).bind fun events => ?_
    exact (Does.move h _ _).bind fun events => .pure _ _
  exact ⟨_, _, hdoes, (alike_inWorld c after).moving h _, hbecame⟩

theorem lseek (hskew : spec.seekSkew = 0) {target : SeekTarget} {position : Nat} (hle : position ≤ maxOffset)
    (hseek : seekPosition? target file.position bytes.length = some position) :
    Uses spec.store (Context.lseek key target) c (.ok position) (c.world.contents spec.store) index
      { file with position } := by
  obtain ⟨after, hlseek, hbecame⟩ := ho.reaches.lseek hskew hle hseek
  have hdoes : Does (Context.lseek key target) c (.ok position)
      [(plugin.id, plugin.name, .lseek (c.shown h) target)]
      (((c.withTable .file (c.table .file)).inWorld after).moving h fun _ => position) := by
    refine ho.called .lseek (.lseek · target) hlseek fun events => (Does.fromOutcome _ _).bind fun events => ?_
    exact (Does.move h _ _).bind fun events => .pure _ _
  exact ⟨_, _, hdoes, (alike_inWorld c after).moving h _, hbecame⟩

theorem lseek_outOfReach {target : SeekTarget}
    (hseek : seekPosition? target file.position bytes.length = none) :
    Uses spec.store (Context.lseek key target) c (.error (.backend "lseek" negativeOffset))
      (c.world.contents spec.store) index file := by
  have hdoes : Does (Context.lseek key target) c (.error (.backend "lseek" negativeOffset))
      [(plugin.id, plugin.name, .lseek (c.shown h) target)]
      ((c.withTable .file (c.table .file)).inWorld c.world) := by
    refine ho.called .lseek (.lseek · target) (ho.reaches.lseek_outOfReach hseek) fun events => ?_
    exact (Does.fromOutcome _ _).bind_error _
  exact ⟨_, _, hdoes, alike_inWorld c c.world, ho.reaches.became_self⟩

/-- The seek of an emulated transfer. -/
theorem seek_start (hskew : spec.seekSkew = 0) {offset : Nat} (hle : offset ≤ maxOffset) :
    ∃ sought, plugin.backend.respond (.lseek (c.shown h) (.start offset)) c.world = (.ok offset, sought) ∧
      c.world.Became spec.store (c.world.contents spec.store) index { file with position := offset } sought := by
  have hseek : seekPosition? (.start offset) file.position bytes.length = some offset := rfl
  obtain ⟨sought, hlseek, hmoved⟩ := ho.reaches.lseek hskew hle hseek
  exact ⟨sought, (ho.respond_eq _ _).trans hlseek, hmoved⟩

/-- A backend that positions reads itself leaves the position alone. -/
theorem pread_native (hnative : spec.nativePread = true) (buffer : Bytes) (offset : Nat) :
    Uses spec.store (Context.pread key buffer offset) c (.ok (bytes.received offset buffer))
      (c.world.contents spec.store) index file := by
  obtain ⟨after, hpread, hbecame⟩ := ho.reaches.pread hnative id buffer.length offset
  rw [Bytes.received_eq]
  set data := bytes.slice offset buffer.length with hdata
  have hdoes : Does (Context.pread key buffer offset) c (.ok (data.length, data.overlay buffer))
      [(plugin.id, plugin.name, .pread (c.shown h) buffer.length offset)]
      ((c.withTable .file (c.table .file)).inWorld after) := by
    refine ho.called .pread (.pread · buffer.length offset) hpread fun events => ?_
    exact (Does.fromOutcome _ _).bind fun events => .pure _ _
  exact ⟨_, _, hdoes, alike_inWorld c after, hbecame⟩

/-- Any other backend seeks first, and reads then. -/
theorem pread_emulated (hskew : spec.seekSkew = 0) (hnative : spec.nativePread = false) (buffer : Bytes)
    {offset : Nat} (hle : offset ≤ maxOffset) :
    Uses spec.store (Context.pread key buffer offset) c (.ok (bytes.received offset buffer))
      (c.world.contents spec.store) index
      { file with position := offset + (bytes.received offset buffer).1 } := by
  obtain ⟨sought, hlseek, hmoved⟩ := ho.seek_start hskew hle
  obtain ⟨after, hread, hbecame⟩ := (ho.reaches.of_became hmoved).read buffer.length
  rw [Bytes.received_eq]
  set data := bytes.slice offset buffer.length with hdata
  have hnone : Memory.pread spec id (c.shown h) buffer.length offset c.world = (none, c.world) := by
    rw [Memory.pread, if_neg (by simp [hnative])]
  have htransfer (d : Context State) (hd : d.world = sought) :=
    Does.called (ε := Error) ((ho.respond_eq (.read (c.shown h) buffer.length) _).trans hread) hd
  have hemulated (d : Context State) (hshown : d.shown h = c.shown h) (hworld : d.world = c.world) :
      Does (emulate .pread plugin h offset buffer.length
          (fun file => call plugin.backend (.read file buffer.length)) Received.count)
        d (.ok ⟨data.length, data⟩) _ _ := emulate_does hlseek htransfer hshown hworld
  have hdoes : Does (Context.pread key buffer offset) c (.ok (data.length, data.overlay buffer))
      [(plugin.id, plugin.name, .pread (c.shown h) buffer.length offset),
        (plugin.id, plugin.name, .lseek (c.shown h) (.start offset)),
        (plugin.id, plugin.name, .read (c.shown h) buffer.length)]
      (((c.withTable .file (c.table .file)).inWorld after).moving h fun _ =>
        min (offset + data.length) maxOffset) := by
    refine ho.called .pread (.pread · buffer.length offset) hnone fun events => ?_
    exact (hemulated _ (by rfl) (by rfl)).bind fun events => .pure _ _
  rw [hmoved.contents_eq] at hbecame
  exact ⟨_, _, hdoes, (alike_inWorld c after).moving h _, hmoved.trans hbecame⟩

/-- No backend in memory positions writes itself. -/
theorem pwrite (hskew : spec.seekSkew = 0) (data : Bytes) {offset : Nat} (hle : offset ≤ maxOffset) :
    Uses spec.store (Context.pwrite key data offset) c (.ok data.length)
      (Function.update (c.world.contents spec.store) file.url (some (bytes.splice offset data))) index
      { file with position := offset + data.length } := by
  obtain ⟨sought, hlseek, hmoved⟩ := ho.seek_start hskew hle
  obtain ⟨after, hwrite, hbecame⟩ := (ho.reaches.of_became hmoved).write data
  have hnone : respond id spec (.pwrite (c.shown h) data offset) c.world = (none, c.world) := rfl
  have htransfer (d : Context State) (hd : d.world = sought) :=
    Does.called (ε := Error) ((ho.respond_eq (.write (c.shown h) data) _).trans hwrite) hd
  have hemulated (d : Context State) (hshown : d.shown h = c.shown h) (hworld : d.world = c.world) :
      Does (emulate .pwrite plugin h offset data.length (fun file => call plugin.backend (.write file data))
        fun count => count) d (.ok data.length) _ _ := emulate_does hlseek htransfer hshown hworld
  have hdoes : Does (Context.pwrite key data offset) c (.ok data.length)
      [(plugin.id, plugin.name, .pwrite (c.shown h) data offset),
        (plugin.id, plugin.name, .lseek (c.shown h) (.start offset)),
        (plugin.id, plugin.name, .write (c.shown h) data)]
      (((c.withTable .file (c.table .file)).inWorld after).moving h fun _ =>
        min (offset + data.length) maxOffset) := by
    refine ho.called .pwrite (.pwrite · data offset) hnone fun events => ?_
    exact (hemulated _ (by rfl) (by rfl)).congr fun _ => by simp
  rw [hmoved.contents_eq] at hbecame
  exact ⟨_, _, hdoes, (alike_inWorld c after).moving h _, hmoved.trans hbecame⟩

end HasOpen

/-! ## Opening and closing -/

/-- The backend closes everything that it has opened. -/
theorem ownerCloses {plugin : Plugin State} (hbackend : plugin.backend = backend id spec) {opened : OpenHandle}
    (howner : opened.handle.owner = spec.name) (operation : Operation) (world : State) :
    OwnerCloses operation .file opened [plugin] world (.ok ()) [(plugin.id, plugin.name, .close opened)]
      (world.count id fun tally => { tally with closes := tally.closes + 1 }) := by
  have hname : plugin.name = opened.handle.owner := name_eq_owner hbackend howner
  have hcalled : OwnerCloses operation .file opened [plugin] world _ _ _ :=
    .called [] rfl (List.forall_mem_nil _) hname
  rw [hbackend] at hcalled
  exact hcalled

/-- The key of an open file is taken out of the table. -/
theorem HasOpen.close {plugin : Plugin State} {c : Context State} {key : DescriptorKey} {h : HandleId}
    {index : Nat} {file : OpenFile} {bytes : Bytes} (ho : HasOpen id spec plugin c key h index file bytes)
    {after : DescriptorTable HandleId} (hremove : (c.table .file).remove key = .ok (h, after)) :
    Does (Context.close key) c (.ok ()) [(plugin.id, plugin.name, .close (c.shown h))]
      ((c.withTable .file after).inWorld
        (c.world.count id fun tally => { tally with closes := tally.closes + 1 })) := by
  have hcloses := ownerCloses ho.backend_eq ho.owner_eq .close c.world
  rw [← ho.plugins_eq] at hcloses
  exact closeKey_does (known_of_ready ho.ready) hremove hcloses

section Opening

variable {plugin : Plugin State} {c d : Context State} {url : String} {flags : UInt32} {mode : Mode}
  {handle : FileHandle} {made : List (InstanceId × String × Call)}
  (hopen : Does (dispatchUrl (.openFile url flags mode)) c (.ok handle) made d)

include hopen

/-- With room, it gets a key. -/
theorem openFile_does {key : DescriptorKey} {table : DescriptorTable HandleId}
    (hinsert : (d.table .file).insert d.handles.size = .ok (key, table)) :
    ∃ made, Does (Request.openFile url flags mode).serve c (.ok (.key key)) made
      ((d.holding (handle.setPathIfMissing url)).withTable .file table) :=
  opening_keyed (o := .file url flags mode) hopen hinsert

/-- Without room, it is closed again. -/
theorem openFile_does_full {error : Error} (hbackend : plugin.backend = backend id spec)
    (hready : d.registry.phase = .ready) (hplugins : d.registry.plugins = [plugin])
    (howner : handle.owner = spec.name) (hinsert : (d.table .file).insert d.handles.size = .error error) :
    ∃ made, Does (Request.openFile url flags mode).serve c (.error error) made
      (((d.holding (handle.setPathIfMissing url)).withTable .file (d.table .file)).inWorld
        (d.world.count id fun tally => { tally with closes := tally.closes + 1 })) := by
  set stored := d.holding (handle.setPathIfMissing url) with hstored
  have hshown : (stored.shown d.handles.size).handle.owner = spec.name := by
    rw [hstored, shown_holding, if_pos rfl, ← howner]
    exact FileHandle.owner_setPathIfMissing _ _
  have hcloses := ownerCloses hbackend hshown .openFile d.world
  rw [← hplugins] at hcloses
  have hstore (events : List Event) : Does (storeAdopted .openFile .file d.handles.size)
      (stored.recording events) (.error error) [(plugin.id, plugin.name, .close (stored.shown d.handles.size))]
      ((stored.withTable .file (d.table .file)).inWorld
        (d.world.count id fun tally => { tally with closes := tally.closes + 1 })) := by
    have hthere : ((stored.recording events).table .file).insert d.handles.size = .error error := hinsert
    exact (storeAdopted_does_full hthere (known_of_ready hready) hcloses).congr fun _ => rfl
  exact ⟨_, opening_stored (o := .file url flags mode) hopen hstore⟩

end Opening

end Memory

end StorageDispatch
