import StorageDispatch.Proofs.Memory.Calls
import StorageDispatch.Proofs.Memory.Serving
import StorageDispatch.Proofs.Session.Turn
import StorageDispatch.Proofs.Url.Ancestors

set_option autoImplicit false

/-! # Directories of a store

To its users, the directories of a store in memory are a set of URLs. `Directories.Step` says what a request that
creates directories returns and which set it leaves, without stores or backends: a recursive creation adds the
URL and everything around it (`UrlChain`), and a plain one adds the URL only, if the directory around it is there.

**The results** are for a context whose only backend is in memory, over a set of directories that is closed.
`Directories.run_steps` says that every sequence of creations is a run of such steps and leaves a closed set again, and
`mkdirRecursive_closes` what that means for the two requests.
-/

namespace StorageDispatch

/-- Whether a request creates a directory under a URL that the backend claims. -/
def Request.CreatesDirectory {σ : Type} (spec : Memory.Spec) : Request σ → Prop
  | .mkdir url _ => url ≠ "" ∧ spec.claimsUrl url .mkdir = true
  | .mkdirRecursive url _ => url ≠ "" ∧ spec.claimsUrl url .mkdirRecursive = true
  | _ => False

namespace Memory

open Context

variable {spec : Spec} {id : InstanceId}

/-! ## Creating directories in a store -/

namespace Store

def directorySet (store : Store) : Set String := {url | store.hasDirectory url = true}

variable {store : Store} {url : String}

theorem directorySet_putDirectory (store : Store) (url : String) :
    (store.putDirectory url).directorySet = insert url store.directorySet := by
  ext v
  show (store.directories.insert url).contains v = true ↔ v = url ∨ store.directories.contains v = true
  rw [Std.TreeSet.contains_insert, Bool.or_eq_true, beq_iff_eq, Std.LawfulEqCmp.compare_eq_iff_eq, eq_comm]

theorem mem_foldl_putDirectory (urls : List String) (store : Store) (v : String) :
    v ∈ (urls.foldl putDirectory store).directorySet ↔ v ∈ store.directorySet ∨ v ∈ urls := by
  induction urls generalizing store with
  | nil => simp
  | cons url urls ih =>
      rw [List.foldl_cons, ih, directorySet_putDirectory, Set.mem_insert_iff, List.mem_cons]
      exact or_assoc.trans or_left_comm

/-- A directory that exists is not created again. -/
theorem mkdir_existing (h : url ∈ store.directorySet) (recursive : Bool) :
    store.mkdir url recursive = .error directoryExists := if_pos h

/-- Any other is created if none around it is missing, or those that are may be created too. -/
theorem mkdir_new (h : url ∉ store.directorySet) (recursive : Bool) :
    store.mkdir url recursive = match store.missingAncestors url with
      | [] => .ok (store.putDirectory url)
      | missing =>
        if recursive then .ok ((missing.foldl putDirectory store).putDirectory url) else .error noParent := if_neg h

/-- **A recursive creation adds the URL and everything around it.** -/
theorem mkdir_recursive (hclosed : ParentClosed store.directorySet) (hnew : url ∉ store.directorySet) :
    ∃ changed, store.mkdir url true = .ok changed ∧
      changed.directorySet = store.directorySet ∪ UrlChain url := by
  have hmissing (v : String) : (!store.hasDirectory v) = true ↔ v ∉ store.directorySet := by
    rw [Bool.not_eq_true', ← Bool.not_eq_true]
    rfl
  have hmade : store.mkdir url true =
      .ok (((store.missingAncestors url).foldl putDirectory store).putDirectory url) := by
    rw [mkdir_new hnew]
    cases store.missingAncestors url <;> rfl
  refine ⟨_, hmade, ?_⟩
  ext v
  rw [directorySet_putDirectory, Set.mem_insert_iff, mem_foldl_putDirectory]
  exact hclosed.climb_iff hmissing url v

/-- A directory is created in the one around it. -/
theorem mkdir_fresh (hnew : url ∉ store.directorySet)
    (hparent : ∀ up, parentUrl? url = some up → up ∈ store.directorySet) :
    store.mkdir url false = .ok (store.putDirectory url) := by
  have hnone : store.missingAncestors url = [] := by
    rw [missingAncestors]
    cases hup : parentUrl? url with
    | none => rw [ancestorUrls_of_none hup, List.takeWhile_nil]
    | some up =>
        have hthere : store.hasDirectory up = true := hparent up hup
        rw [ancestorUrls_of_some hup, List.takeWhile_cons_of_neg (by simp [hthere])]
  rw [mkdir_new hnew, hnone]

/-- Without the one around it, it is not created. -/
theorem mkdir_orphan (hnew : url ∉ store.directorySet) {up : String} (hup : parentUrl? url = some up)
    (hmissing : up ∉ store.directorySet) : store.mkdir url false = .error noParent := by
  have hthere : store.hasDirectory up = false := Bool.not_eq_true _ |>.mp hmissing
  have hsome : store.missingAncestors url = up :: store.missingAncestors up := by
    rw [missingAncestors, ancestorUrls_of_some hup, List.takeWhile_cons_of_pos (by simp [hthere])]
    rfl
  rw [mkdir_new hnew, hsome]
  rfl

end Store

namespace State

def directories (state : State) (label : String) : Set String := (state.store label).directorySet

theorem directories_withStore (state : State) (label : String) (store : Store) :
    (state.withStore label store).directories label = store.directorySet := by
  rw [directories, store_withStore_eq, if_pos rfl]

end State

/-! ## Creating directories through a context -/

namespace Directories

/-- **What a request that creates directories comes to**: what it returns, and which directories there are then. -/
inductive Step (dirs : Set String) : Request State → Except Error Value → Set String → Prop
  /-- Everything around the URL is there then, and nothing of it needs to be new. -/
  | recursive (url : String) (mode : Mode) :
      Step dirs (.mkdirRecursive url mode) (.ok .unit) (dirs ∪ UrlChain url)
  | fresh {url : String} (mode : Mode) (hnew : url ∉ dirs)
      (hparent : ∀ up, parentUrl? url = some up → up ∈ dirs) :
      Step dirs (.mkdir url mode) (.ok .unit) (insert url dirs)
  | existing {url : String} (mode : Mode) (hthere : url ∈ dirs) :
      Step dirs (.mkdir url mode) (.error (.backend "mkdir" Store.directoryExists)) dirs
  | orphan {url up : String} (mode : Mode) (hnew : url ∉ dirs) (hup : parentUrl? url = some up)
      (hmissing : up ∉ dirs) : Step dirs (.mkdir url mode) (.error (.backend "mkdir" Store.noParent)) dirs

inductive Run : Set String → List (Request State) → List (Except Error Value) → Set String → Prop
  | nil (dirs : Set String) : Run dirs [] [] dirs
  | cons {dirs next last : Set String} {request : Request State} {requests : List (Request State)}
      {outcome : Except Error Value} {outcomes : List (Except Error Value)} (hstep : Step dirs request outcome next)
      (hrun : Run next requests outcomes last) : Run dirs (request :: requests) (outcome :: outcomes) last

variable {dirs next : Set String} {request : Request State} {outcome : Except Error Value}

/-- A step leaves a closed set closed. -/
theorem Step.closed (h : Step dirs request outcome next) (hclosed : ParentClosed dirs) : ParentClosed next := by
  cases h with
  | recursive url mode => exact hclosed.union (.urlChain url)
  | fresh mode hnew hparent => exact hclosed.insert_of_parent hparent
  | existing | orphan => exact hclosed

/-- **When a plain creation succeeds.** -/
theorem Step.ok_iff {url : String} {mode : Mode} (h : Step dirs (.mkdir url mode) outcome next) :
    outcome = .ok .unit ↔ url ∉ dirs ∧ ∀ up, parentUrl? url = some up → up ∈ dirs := by
  cases h with
  | fresh _ hnew hparent => exact iff_of_true rfl ⟨hnew, hparent⟩
  | existing _ hthere => exact iff_of_false nofun fun hboth => hboth.1 hthere
  | orphan _ _ hup hmissing => exact iff_of_false nofun fun hboth => hmissing (hboth.2 _ hup)

theorem Step.of_ok {url : String} {mode : Mode} (h : Step dirs (.mkdir url mode) outcome next)
    (hok : outcome = .ok .unit) : next = insert url dirs := by
  cases h with
  | fresh => rfl
  | existing | orphan => cases hok

/-- Why a plain creation fails, which leaves the directories as they are. -/
theorem Step.of_error {url : String} {mode : Mode} (h : Step dirs (.mkdir url mode) outcome next) {error : Error}
    (herror : outcome = .error error) :
    next = dirs ∧ (url ∈ dirs ∧ error = .backend "mkdir" Store.directoryExists ∨
      url ∉ dirs ∧ error = .backend "mkdir" Store.noParent) := by
  cases h with
  | fresh => cases herror
  | existing _ hthere =>
      cases herror
      exact ⟨rfl, .inl ⟨hthere, rfl⟩⟩
  | orphan _ hnew =>
      cases herror
      exact ⟨rfl, .inr ⟨hnew, rfl⟩⟩

theorem Step.of_recursive {url : String} {mode : Mode} (h : Step dirs (.mkdirRecursive url mode) outcome next) :
    outcome = .ok .unit ∧ next = dirs ∪ UrlChain url := by
  cases h
  exact ⟨rfl, rfl⟩

/-- Recursive creations add up, in whatever order. -/
theorem Run.recursive {wanted : List (String × Mode)} {outcomes : List (Except Error Value)} {last : Set String}
    (h : Run dirs (wanted.map fun w => .mkdirRecursive w.1 w.2) outcomes last) :
    (∀ outcome ∈ outcomes, outcome = .ok .unit) ∧ last = dirs ∪ {v | ∃ w ∈ wanted, v ∈ UrlChain w.1} := by
  induction wanted generalizing dirs outcomes with
  | nil =>
      cases h
      simp
  | cons w wanted ih =>
      cases h with
      | cons hstep hrun =>
          obtain ⟨rfl, rfl⟩ := hstep.of_recursive
          obtain ⟨hall, hlast⟩ := ih hrun
          refine ⟨List.forall_mem_cons.mpr ⟨rfl, hall⟩, ?_⟩
          rw [hlast, Set.union_assoc]
          congr 1
          ext v
          simp

/-! ### One request -/

theorem respond_of_ok (id : InstanceId) {state : State} {url : String} (mode : Mode) {recursive : Bool}
    {changed : Store} (h : (state.store spec.store).mkdir url recursive = .ok changed) :
    respond id spec (.mkdir url mode recursive) state = (.ok (), state.withStore spec.store changed) := by
  have hcall : respond id spec (.mkdir url mode recursive) state =
      state.change spec.store (·.mkdir url recursive) := rfl
  rw [hcall, State.change, h]

theorem respond_of_error (id : InstanceId) {state : State} {url : String} (mode : Mode) {recursive : Bool}
    {error : BackendError} (h : (state.store spec.store).mkdir url recursive = .error error) :
    respond id spec (.mkdir url mode recursive) state = (.error error, state) := by
  have hcall : respond id spec (.mkdir url mode recursive) state =
      state.change spec.store (·.mkdir url recursive) := rfl
  rw [hcall, State.change, h]

/-- The backend's part of a recursive creation, which is none if the directory exists. -/
theorem respond_recursive (id : InstanceId) {state : State} (hclosed : ParentClosed (state.directories spec.store))
    (url : String) (mode : Mode) :
    ∃ reply after, respond id spec (.mkdir url mode true) state = (reply, after) ∧
      UrlRequest.acceptExisting reply = .ok () ∧
      after.directories spec.store = state.directories spec.store ∪ UrlChain url ∧
      (url ∈ state.directories spec.store → after = state) := by
  by_cases hthere : url ∈ state.directories spec.store
  · refine ⟨_, _, respond_of_error id mode (Store.mkdir_existing hthere true), rfl, ?_, fun _ => rfl⟩
    exact (Set.union_eq_left.mpr (hclosed.urlChain_subset hthere)).symm
  · obtain ⟨changed, hchanged, hset⟩ := Store.mkdir_recursive hclosed hthere
    refine ⟨_, _, respond_of_ok id mode hchanged, rfl, ?_, fun h => absurd h hthere⟩
    rw [State.directories_withStore, hset]
    rfl

/-- The backend's part of a plain creation, which is none if it fails. -/
theorem respond_plain (id : InstanceId) (state : State) (url : String) (mode : Mode) :
    ∃ reply after, respond id spec (.mkdir url mode false) state = (reply, after) ∧
      Step (state.directories spec.store) (.mkdir url mode) ((fun _ => .unit) <$> tag .mkdir reply)
        (after.directories spec.store) ∧
      (after.directories spec.store = state.directories spec.store → after = state) := by
  by_cases hthere : url ∈ state.directories spec.store
  · have hrespond := respond_of_error id mode (Store.mkdir_existing hthere false)
    exact ⟨_, _, hrespond, .existing mode hthere, fun _ => rfl⟩
  · by_cases hparent : ∀ up, parentUrl? url = some up → up ∈ state.directories spec.store
    · have hrespond := respond_of_ok id mode (Store.mkdir_fresh hthere hparent)
      have hset := (State.directories_withStore state spec.store _).trans
        (Store.directorySet_putDirectory (state.store spec.store) url)
      refine ⟨_, _, hrespond, ?_, fun hsame => ?_⟩
      · rw [hset]
        exact .fresh mode hthere hparent
      · rw [hset] at hsame
        exact absurd (hsame ▸ Set.mem_insert _ _) hthere
    · simp only [not_forall] at hparent
      obtain ⟨up, hup, hmissing⟩ := hparent
      have hrespond := respond_of_error id mode (Store.mkdir_orphan hthere hup hmissing)
      exact ⟨_, _, hrespond, .orphan mode hthere hup hmissing, fun _ => rfl⟩

/-- **One request that creates a directory is one step of the directories.** The backend stays the only one, and if
no directory is new then nothing in its world is. -/
theorem serve_step {c : Context State} (hlone : Lone (backend id spec) c)
    (hclosed : ParentClosed (c.world.directories spec.store)) {request : Request State}
    (hcreates : request.CreatesDirectory spec) :
    ∃ outcome made d, Does request.serve c outcome made d ∧ Lone (backend id spec) d ∧
      Step (c.world.directories spec.store) request outcome (d.world.directories spec.store) ∧
      (d.world.directories spec.store = c.world.directories spec.store → d.world = c.world) := by
  cases request with
  | mkdir url mode =>
      have hurl : (UrlRequest.mkdir url mode).url ≠ "" := hcreates.1
      obtain ⟨reply, after, hrespond, hstep, hsame⟩ := respond_plain id c.world url mode
      have hanswer : respond id spec (UrlRequest.mkdir url mode).call c.world = (reply, after) := hrespond
      obtain ⟨registry, made, hlone, -, hdoes⟩ := dispatchUrl_answers hlone hurl hcreates.2 hanswer
      exact ⟨_, _, _, (hdoes c.events).map _, hlone, hstep, hsame⟩
  | mkdirRecursive url mode =>
      have hurl : (UrlRequest.mkdirRecursive url mode).url ≠ "" := hcreates.1
      obtain ⟨reply, after, hrespond, haccept, hset, hsame⟩ := respond_recursive id hclosed url mode
      have hanswer : respond id spec (UrlRequest.mkdirRecursive url mode).call c.world = (reply, after) := hrespond
      obtain ⟨registry, made, hlone, -, hdoes⟩ := dispatchUrl_answers hlone hurl hcreates.2 hanswer
      rw [show (UrlRequest.mkdirRecursive url mode).accept reply = .ok () from haccept] at hdoes
      have hmem : url ∈ after.directories spec.store := by
        rw [hset]
        exact .inr (self_mem_urlChain url)
      have hstep : Step (c.world.directories spec.store) (.mkdirRecursive url mode) (.ok .unit)
          (after.directories spec.store) := by
        rw [hset]
        exact .recursive url mode
      exact ⟨_, _, _, (hdoes c.events).map _, hlone, hstep, fun hold => hsame (hold ▸ hmem)⟩
  | _ => cases hcreates

/-! ### Sessions -/

section Sessions

variable {s : Session State} (hlone : Lone (backend id spec) s.context)
  (hclosed : ParentClosed (s.context.world.directories spec.store))

include hlone hclosed

theorem session_step {request : Request State} (hcreates : request.CreatesDirectory spec) :
    let t := s.step (.request request)
    Lone (backend id spec) t.2.context ∧
      Step (s.context.world.directories spec.store) request t.1 (t.2.context.world.directories spec.store) ∧
      (t.2.context.world.directories spec.store = s.context.world.directories spec.store →
        t.2.context.world = s.context.world) := by
  obtain ⟨outcome, made, d, hdoes, hlone, hstep, hsame⟩ := serve_step hlone hclosed hcreates
  obtain ⟨events, hleft⟩ := hdoes.context_eq
  intro t
  rw [show t.2.context = d.recording events from hleft, show t.1 = outcome from hdoes.result_eq]
  exact ⟨hlone.congr rfl rfl rfl, hstep, hsame⟩

/-- **A sequence of requests that create directories is a run of the directories.** -/
theorem run_steps {requests : List (Request State)}
    (hcreates : ∀ request ∈ requests, request.CreatesDirectory spec) :
    let t := s.run (requests.map .request)
    Run (s.context.world.directories spec.store) requests t.1 (t.2.context.world.directories spec.store) := by
  induction requests generalizing s with
  | nil => exact .nil _
  | cons request requests ih =>
      obtain ⟨hfirst, hrest⟩ := List.forall_mem_cons.mp hcreates
      obtain ⟨hlone, hstep, -⟩ := session_step hlone hclosed hfirst
      exact .cons hstep (ih hlone (hstep.closed hclosed) hrest)

/-- **Recursive creations close the tree.** The only backend of a context is in memory, and its set of directories is
closed.

* A recursive creation of a URL that the backend claims succeeds. It adds the URL and everything around it, which
  leaves a closed set again, and when it is repeated nothing changes any more.
* Several of them add what each of them adds, in whatever order they come.
* A plain creation succeeds if the URL is new and the directory around it is there, or none is around it, and then
  it adds the URL. Otherwise it fails because the URL exists, or because the directory around it does not, and
  nothing changes. In both cases the set is closed again. -/
theorem mkdirRecursive_closes :
    let dirs (t : Session State) := t.context.world.directories spec.store
    (∀ url mode, url ≠ "" → spec.claimsUrl url .mkdirRecursive = true →
      let t := s.step (.request (.mkdirRecursive url mode))
      let again := t.2.step (.request (.mkdirRecursive url mode))
      t.1 = .ok .unit ∧ dirs t.2 = dirs s ∪ UrlChain url ∧ ParentClosed (dirs t.2) ∧
        again.1 = .ok .unit ∧ again.2.context.world = t.2.context.world) ∧
    (∀ wanted other : List (String × Mode), other.Perm wanted →
      (∀ w ∈ wanted, w.1 ≠ "" ∧ spec.claimsUrl w.1 .mkdirRecursive = true) →
      let t := s.run (wanted.map fun w => .request (.mkdirRecursive w.1 w.2))
      let u := s.run (other.map fun w => .request (.mkdirRecursive w.1 w.2))
      (∀ outcome ∈ t.1, outcome = .ok .unit) ∧
        dirs t.2 = dirs s ∪ {v | ∃ w ∈ wanted, v ∈ UrlChain w.1} ∧ dirs u.2 = dirs t.2) ∧
    (∀ url mode, url ≠ "" → spec.claimsUrl url .mkdir = true →
      let t := s.step (.request (.mkdir url mode))
      (t.1 = .ok .unit ↔ url ∉ dirs s ∧ ∀ up, parentUrl? url = some up → up ∈ dirs s) ∧
        (t.1 = .ok .unit → dirs t.2 = insert url (dirs s)) ∧
        (∀ error, t.1 = .error error → t.2.context.world = s.context.world ∧
          (url ∈ dirs s ∧ error = .backend "mkdir" Store.directoryExists ∨
            url ∉ dirs s ∧ error = .backend "mkdir" Store.noParent)) ∧
        ParentClosed (dirs t.2)) := by
  intro dirs
  refine ⟨fun url mode hurl hclaims => ?_, fun wanted other hperm hwanted => ?_, fun url mode hurl hclaims => ?_⟩
  · intro t again
    have hcreates : (Request.mkdirRecursive url mode : Request State).CreatesDirectory spec := ⟨hurl, hclaims⟩
    obtain ⟨hlone', hstep, -⟩ := session_step hlone hclosed hcreates
    have hclosed' : ParentClosed (dirs t.2) := hstep.closed hclosed
    obtain ⟨-, hagain, hsame⟩ := session_step hlone' hclosed' hcreates
    obtain ⟨hok, hset⟩ := hstep.of_recursive
    obtain ⟨hok', hset'⟩ := hagain.of_recursive
    refine ⟨hok, hset, hclosed', hok', hsame ?_⟩
    -- The chain is there already.
    rw [hset']
    refine Set.union_eq_left.mpr (hclosed'.urlChain_subset ?_)
    rw [show dirs t.2 = _ from hset]
    exact .inr (self_mem_urlChain url)
  · intro t u
    have hrun (l : List (String × Mode)) (hl : ∀ w ∈ l, w.1 ≠ "" ∧ spec.claimsUrl w.1 .mkdirRecursive = true) :
        let t := s.run (l.map fun w => .request (.mkdirRecursive w.1 w.2))
        (∀ outcome ∈ t.1, outcome = .ok .unit) ∧ dirs t.2 = dirs s ∪ {v | ∃ w ∈ l, v ∈ UrlChain w.1} := by
      have hcreates : ∀ request ∈ l.map fun w => (.mkdirRecursive w.1 w.2 : Request State),
          request.CreatesDirectory spec := List.forall_mem_map.mpr hl
      have hsteps := run_steps hlone hclosed hcreates
      rw [List.map_map] at hsteps
      exact hsteps.recursive
    obtain ⟨hok, hset⟩ := hrun wanted hwanted
    obtain ⟨-, hother⟩ := hrun other fun w hw => hwanted w (hperm.mem_iff.mp hw)
    refine ⟨hok, hset, hother.trans ?_⟩
    simp only [hperm.mem_iff]
    exact hset.symm
  · intro t
    have hcreates : (Request.mkdir url mode : Request State).CreatesDirectory spec := ⟨hurl, hclaims⟩
    obtain ⟨-, hstep, hsame⟩ := session_step hlone hclosed hcreates
    refine ⟨hstep.ok_iff, ?_, ?_, hstep.closed hclosed⟩
    · exact hstep.of_ok
    · intro error herror
      obtain ⟨hset, hwhy⟩ := hstep.of_error herror
      exact ⟨hsame hset, hwhy⟩

end Sessions

def treeSpec : Spec := { name := "memory", scheme := "mem://", store := "tree" }

/-- A world in which one directory is there, right under the root of a storage. -/
def treeWorld : State := State.withStore {} "tree" (Store.putDirectory {} "mem://h/a")

def treeSession : Session State :=
  .after { loadPlugins := false } {} treeWorld [.register fun id => backend id treeSpec]

theorem closed_treeSession : ParentClosed (treeSession.context.world.directories treeSpec.store) := by
  have hempty : (Store.directorySet {}) = ∅ := by
    ext v
    show (∅ : Std.TreeSet String).contains v = true ↔ False
    simp
  have hset : treeSession.context.world.directories treeSpec.store = insert "mem://h/a" ∅ := by
    rw [← hempty, ← Store.directorySet_putDirectory]
    exact State.directories_withStore {} "tree" _
  have hroot : parentUrl? "mem://h/a" = none := by decide
  rw [hset]
  refine ParentClosed.insert_of_parent (fun _ h => h.elim) fun up hup => ?_
  rw [hroot] at hup
  cases hup

theorem mkdirRecursive_closes_tree :
    Lone (backend (.registered 0) treeSpec) treeSession.context ∧
      ParentClosed (treeSession.context.world.directories treeSpec.store) ∧
      let dirs (t : Session State) := t.context.world.directories treeSpec.store
      let both (first second : String) := treeSession.run
        [.request (.mkdirRecursive first (.ofRaw 0o755)), .request (.mkdirRecursive second (.ofRaw 0o755))]
      let t := treeSession.step (.request (.mkdirRecursive "mem://h/a/b/c" (.ofRaw 0o755)))
      let u := treeSession.step (.request (.mkdir "mem://h/x/y" (.ofRaw 0o755)))
      t.1 = .ok .unit ∧ dirs t.2 = dirs treeSession ∪ UrlChain "mem://h/a/b/c" ∧ ParentClosed (dirs t.2) ∧
        dirs (both "mem://h/x" "mem://h/a/b").2 = dirs (both "mem://h/a/b" "mem://h/x").2 ∧
        ParentClosed (dirs u.2) := by
  have hlone : Lone (backend (.registered 0) treeSpec) treeSession.context := .waiting rfl rfl rfl (.nothing rfl)
  obtain ⟨hrecursive, hseveral, hplain⟩ := mkdirRecursive_closes hlone closed_treeSession
  obtain ⟨hok, hset, hclosed, -⟩ := hrecursive "mem://h/a/b/c" (.ofRaw 0o755) (by decide) (by decide)
  obtain ⟨-, -, hsame⟩ := hseveral [("mem://h/a/b", .ofRaw 0o755), ("mem://h/x", .ofRaw 0o755)]
    [("mem://h/x", .ofRaw 0o755), ("mem://h/a/b", .ofRaw 0o755)] (.swap _ _ _) (by decide)
  obtain ⟨-, -, -, hleft⟩ := hplain "mem://h/x/y" (.ofRaw 0o755) (by decide) (by decide)
  exact ⟨hlone, closed_treeSession, hok, hset, hclosed, hsame, hleft⟩

end Directories

end Memory

end StorageDispatch
