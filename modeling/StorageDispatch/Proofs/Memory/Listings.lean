import StorageDispatch.Proofs.Memory.Directories
import StorageDispatch.Proofs.Session.Tables
import StorageDispatch.Proofs.Text.ByteOrder
import StorageDispatch.Proofs.Url.Joining

set_option autoImplicit false

/-! # Listings of a directory

The names in a directory of a store in memory are those of the files whose URLs are that of the directory, a slash
and a name without one. `Enumerates` says that a list is these names, in the order of the bytes of the URLs. A
directory that is open is such a list with a place in it (`HasListing`), and two requests share the place: one
answers with the next name, and the other with its metadata too (`ListingKind`).

The backend cuts a name out of a URL (`Store.nameUnder?_eq_some_iff`), and the dispatcher puts the two together
again (`childUrl_eq`) to find the metadata by a request of its own.

**The result** is `listing_exact`, for a context whose only backend is in memory: one listing moves the place on by
one name (`HasListing.step`), and so a sequence of them answers with the names one after the other, and with
nothing ever after (`HasListing.run`).
-/

namespace StorageDispatch

namespace Memory

open Context

variable {spec : Spec} {id : InstanceId}

/-! ## The names in a directory -/

/-- **The names of the files directly in a directory**, in the order of the bytes of their URLs. -/
structure Enumerates (contents : String → Option Bytes) (dir : String) (names : List String) : Prop where
  mem_iff : ∀ name, name ∈ names ↔ '/' ∉ name.toList ∧ (contents (dir ++ "/" ++ name)).isSome = true
  ascending : names.Pairwise fun first second =>
    Text.bytes (dir ++ "/" ++ first) < Text.bytes (dir ++ "/" ++ second)

/-- Each of them is there once. -/
theorem Enumerates.nodup {contents : String → Option Bytes} {dir : String} {names : List String}
    (h : Enumerates contents dir names) : names.Nodup := by
  refine h.ascending.imp fun hlt heq => ?_
  rw [heq] at hlt
  exact List.lt_irrefl _ hlt

namespace Store

/-- A name is cut out of a URL if the two are a directory and a name put together. -/
theorem nameUnder?_eq_some_iff {dir url name : String} :
    nameUnder? dir url = some name ↔ url = dir ++ "/" ++ name ∧ '/' ∉ name.toList := by
  have hurl : url = dir ++ "/" ++ name ↔ (dir.toList ++ ['/']) ++ name.toList = url.toList := by
    rw [← String.toList_inj, String.toList_append, String.toList_append]
    exact eq_comm
  rw [hurl]
  unfold nameUnder?
  dsimp only
  split
  · rename_i hprefix
    obtain ⟨rest, hrest⟩ := List.isPrefixOf_iff_prefix.mp hprefix
    rw [← hrest, List.drop_left, List.append_cancel_left_eq]
    split
    · rename_i hslash
      rw [List.contains_iff_mem] at hslash
      -- What is left after the directory goes on into another one.
      refine iff_of_false nofun fun ⟨heq, hno⟩ => hno ?_
      rwa [heq]
    · rename_i hslash
      rw [List.contains_iff_mem] at hslash
      rw [Option.some_inj]
      constructor
      · rintro rfl
        rw [String.toList_ofList]
        exact ⟨rfl, hslash⟩
      · rintro ⟨heq, -⟩
        rw [← heq, String.ofList_toList]
  · rename_i hprefix
    refine iff_of_false nofun fun ⟨heq, _⟩ => hprefix ?_
    rw [List.isPrefixOf_iff_prefix]
    exact ⟨_, heq⟩

/-- **A store lists the names in a directory.** -/
theorem enumerates_names (store : Store) (dir : String) : Enumerates store.contents? dir (store.names dir) where
  mem_iff name := by
    simp only [names, List.mem_filterMap, Std.TreeMap.mem_keys, nameUnder?_eq_some_iff]
    constructor
    · rintro ⟨url, hmem, rfl, hno⟩
      exact ⟨hno, Std.TreeMap.isSome_getElem?_iff_mem.mpr hmem⟩
    · rintro ⟨hno, hsome⟩
      exact ⟨_, Std.TreeMap.isSome_getElem?_iff_mem.mp hsome, rfl, hno⟩
  ascending := by
    rw [names, List.pairwise_filterMap]
    refine store.files.ordered_keys.imp fun {first second} hlt name hname other hother => ?_
    obtain ⟨rfl, -⟩ := nameUnder?_eq_some_iff.mp hname
    obtain ⟨rfl, -⟩ := nameUnder?_eq_some_iff.mp hother
    exact Text.bytes_lt_bytes (compare_lt_iff_lt.mp hlt)

end Store

/-! ## The place in a listing -/

namespace State

def advance (state : State) (index : Nat) : State :=
  { state with
    openListings := state.openListings.modify index fun listing => { listing with next := listing.next + 1 } }

variable {state : State} {opened : OpenHandle} {index : Nat} {listing : OpenListing}

/-- The next name is answered, if there is one, and the place moves on in any case. -/
theorem readdir_eq (h : state.listing? opened = some (index, listing)) :
    Memory.readdir opened state =
      (.ok ((listing.names[listing.next]?).map fun name => { name }), state.advance index) := by
  rw [Memory.readdir, h]
  rfl

theorem listing?_advance (h : state.listing? opened = some (index, listing)) :
    (state.advance index).listing? opened = some (index, { listing with next := listing.next + 1 }) := by
  unfold listing? at h ⊢
  cases hpayload : opened.handle.payload with
  | openListing i =>
      rw [hpayload] at h
      obtain ⟨found, hfound, heq⟩ := Option.map_eq_some_iff.mp h
      cases heq
      simp only [advance, Array.getElem?_modify, if_true, hfound, Option.map_some]
  | _ =>
      rw [hpayload] at h
      cases h

end State

def Spec.Claims (spec : Spec) (capability : Capability) : Prop :=
  ∀ url, beginsWith url spec.scheme = true → spec.claimsUrl url capability = true

/-- The metadata of a file in a store: it is a regular one, as large as its contents are. -/
def fileStat (contents : String → Option Bytes) (url : String) : FileStat :=
  .regular (Mode.ofRaw 0o644) ((contents url).getD []).length

/-- The two requests that list a directory, of which the second one finds metadata too. -/
inductive ListingKind
  | plain
  | detailed

namespace ListingKind

def request (key : DescriptorKey) : ListingKind → Request State
  | plain => .readdir key
  | detailed => .readdirPlus key

def answer (contents : String → Option Bytes) (dir : String) (next : Option String) : ListingKind → Value
  | plain => .entry (next.map fun name => { name })
  | detailed => .entryPlus (next.map fun name => ({ name }, fileStat contents (dir ++ "/" ++ name)))

end ListingKind

/-- **A directory that is open under a key** of a context whose only backend is in memory, with the URL that it was
opened with. -/
structure HasListing (id : InstanceId) (spec : Spec) (c : Context State) (key : DescriptorKey) (h : HandleId)
    (index : Nat) (url : String) (listing : OpenListing) : Prop where
  lone : Lone (backend id spec) c
  ready : c.registry.phase = .ready
  find?_eq : (c.table .directory).find? key = some h
  owner_eq : (c.shown h).handle.owner = spec.name
  path_eq : (c.shown h).handle.path = some url
  listing?_eq : c.world.listing? (c.shown h) = some (index, listing)

/-- The metadata of a file is found by a request. -/
theorem stat_does {c : Context State} (hlone : Lone (backend id spec) c) (hstat : spec.Claims .stat) {url : String}
    (hurl : url ≠ "") (hscheme : beginsWith url spec.scheme = true)
    (hthere : (c.world.contents spec.store url).isSome = true) :
    ∃ registry made, Lone (backend id spec) { c with registry } ∧ registry.phase = .ready ∧
      ∀ events, Does (Context.stat url) (c.recording events) (.ok (fileStat (c.world.contents spec.store) url)) made
        { c with registry } := by
  obtain ⟨bytes, hbytes⟩ := Option.isSome_iff_exists.mp hthere
  have hrequest : (UrlRequest.stat url).url ≠ "" := hurl
  have hrespond : respond id spec (UrlRequest.stat url).call c.world =
      (.ok (fileStat (c.world.contents spec.store) url), c.world) := by
    have hcontents : (c.world.store spec.store).contents? url = some bytes := hbytes
    show ((c.world.store spec.store).stat url, c.world) = _
    rw [Store.stat, hcontents, fileStat, hbytes]
    rfl
  exact dispatchUrl_answers hlone hrequest (hstat url hscheme) hrespond

namespace HasListing

variable {c : Context State} {key : DescriptorKey} {h : HandleId} {index : Nat} {url : String}
  {listing : OpenListing}

/-- It is open in every context that has the same handle under the key. -/
theorem carry (hl : HasListing id spec c key h index url listing) (d : Context State)
    (hlone : Lone (backend id spec) d) (hready : d.registry.phase = .ready)
    (hfind : (d.table .directory).find? key = (c.table .directory).find? key) (hshown : d.shown h = c.shown h)
    {moved : OpenListing} (hlisting : d.world.listing? (c.shown h) = some (index, moved)) :
    HasListing id spec d key h index url moved where
  lone := hlone
  ready := hready
  find?_eq := hfind.trans hl.find?_eq
  owner_eq := by rw [hshown]; exact hl.owner_eq
  path_eq := by rw [hshown]; exact hl.path_eq
  listing?_eq := by rw [hshown]; exact hlisting

section Serving

variable (hl : HasListing id spec c key h index url listing)

include hl

/-- What is recorded does not matter. -/
theorem recording (events : List Event) : HasListing id spec (c.recording events) key h index url listing :=
  hl.carry (c.recording events) (hl.lone.congr rfl rfl rfl) hl.ready rfl rfl hl.listing?_eq

/-- The table is made at its first use. -/
theorem table_made : HasListing id spec (c.withTable .directory (c.table .directory)) key h index url listing :=
  hl.carry (c.withTable .directory (c.table .directory)) (hl.lone.congr rfl rfl rfl) hl.ready rfl rfl hl.listing?_eq

/-- The place moves on. -/
theorem advance : HasListing id spec (c.inWorld (c.world.advance index)) key h index url
    { listing with next := listing.next + 1 } :=
  hl.carry (c.inWorld (c.world.advance index)) (hl.lone.congr rfl rfl rfl) hl.ready rfl rfl
    (State.listing?_advance hl.listing?_eq)

/-- The backend owns the handle. -/
theorem owner : ∃ plugin : Plugin State, plugin.backend = backend id spec ∧
    (c.registry.plugins.find? fun p => p.name == (c.shown h).handle.owner) = some plugin := by
  obtain ⟨plugin, hbackend, hplugins⟩ := hl.lone.listed_of_ready hl.ready
  exact ⟨plugin, hbackend, find?_owner hbackend hplugins hl.owner_eq⟩

/-- The backend has no listing with metadata. -/
theorem nativeListing : ∃ made, ∀ events, Does (nativeListing h) (c.recording events) (.ok none) made c := by
  obtain ⟨plugin, hbackend, hfind⟩ := hl.owner
  have hcall : plugin.backend.respond (.readdirPlus (c.shown h)) c.world = (none, c.world) := by
    rw [hbackend]
    rfl
  refine ⟨[(plugin.id, plugin.name, .readdirPlus (c.shown h))], fun noted => ?_⟩
  refine dispatchHandle_does_owned (c := c.recording noted) (known_of_ready hl.ready) hfind fun events => ?_
  refine (Does.openHandle h _).bind fun events => (Does.called hcall (by rfl)).bind fun events => ?_
  exact .pure _ _

/-- The next name is listed. -/
theorem nextEntry (operation : Operation) :
    ∃ made, ∀ events, Does (nextEntry operation h) (c.recording events)
      (.ok ((listing.names[listing.next]?).map fun name => { name })) made
      (c.inWorld (c.world.advance index)) := by
  obtain ⟨plugin, hbackend, hfind⟩ := hl.owner
  have hcall : plugin.backend.respond (.readdir (c.shown h)) c.world =
      (.ok ((listing.names[listing.next]?).map fun name => { name }), c.world.advance index) := by
    rw [hbackend]
    exact State.readdir_eq hl.listing?_eq
  refine ⟨[(plugin.id, plugin.name, .readdir (c.shown h))], fun noted => ?_⟩
  refine dispatchHandle_does_owned (c := c.recording noted) (known_of_ready hl.ready) hfind fun events => ?_
  refine (Does.openHandle h _).bind fun events => (Does.called hcall (by rfl)).bind fun events => ?_
  exact .fromOutcome _ _

/-- The dispatcher finds the metadata of the next name itself. -/
theorem emulateReaddirPlus (hstat : spec.Claims .stat) (hscheme : beginsWith (trimUrl url) spec.scheme = true)
    (hnames : Enumerates (c.world.contents spec.store) (trimUrl url) listing.names) :
    ∃ made d,
      (∀ events, Does (emulateReaddirPlus h) (c.recording events)
        (.ok ((listing.names[listing.next]?).map fun name =>
          ({ name }, fileStat (c.world.contents spec.store) (trimUrl url ++ "/" ++ name)))) made d) ∧
      HasListing id spec d key h index url { listing with next := listing.next + 1 } ∧
      d.world.contents spec.store = c.world.contents spec.store := by
  obtain ⟨listed, hnext⟩ := hl.nextEntry .readdirPlus
  have hmoved := hl.advance
  set e := c.inWorld (c.world.advance index)
  cases hname : listing.names[listing.next]? with
  | none =>
      rw [hname] at hnext
      exact ⟨listed ++ [], e, fun noted => (hnext noted).bind fun _ => .pure _ _, hmoved, rfl⟩
  | some name =>
      rw [hname] at hnext
      -- The name stands for a file, which the stat by its URL finds.
      obtain ⟨hno, hthere⟩ := (hnames.mem_iff name).mp (List.mem_of_getElem? hname)
      simp only [Option.map_some, ← childUrl_eq url hno] at hthere ⊢
      have hbegins : beginsWith (childUrl url name) spec.scheme = true := beginsWith_childUrl hscheme hno
      obtain ⟨registry, made, hlone, hready, hdoes⟩ :=
        stat_does hmoved.lone hstat (childUrl_ne_empty url hno) hbegins hthere
      refine ⟨listed ++ (made ++ []), { e with registry },
        fun noted => (hnext noted).bind fun events => ?_, ?_, rfl⟩
      · have hpath : (((e.recording events).handles[h]?).getD default).path = some url := hmoved.path_eq
        have hfound : Does (withMetadata h { name }) (e.recording events)
            (.ok ({ name }, fileStat (c.world.contents spec.store) (childUrl url name))) (made ++ [])
            { e with registry } := by
          refine (Does.openHandle h _).bind fun events => ?_
          dsimp only
          rw [hpath]
          exact (Does.log _ _).bind fun events => (hdoes events).bind fun _ => .pure _ _
        exact hfound.map some
      · exact hmoved.carry { e with registry } hlone hready rfl rfl hmoved.listing?_eq

/-- **One listing answers with the next name**, moves the place on, and leaves the files as they are. -/
theorem step (hstat : spec.Claims .stat) (hscheme : beginsWith (trimUrl url) spec.scheme = true)
    (hnames : Enumerates (c.world.contents spec.store) (trimUrl url) listing.names) (kind : ListingKind) :
    ∃ made d,
      Does (kind.request key).serve c
        (.ok (kind.answer (c.world.contents spec.store) (trimUrl url) listing.names[listing.next]?)) made d ∧
      HasListing id spec d key h index url { listing with next := listing.next + 1 } ∧
      d.world.contents spec.store = c.world.contents spec.store := by
  have hmade := hl.table_made
  cases kind with
  | plain =>
      obtain ⟨made, hnext⟩ := hmade.nextEntry .readdir
      have hdoes : Does (Context.readdir key) c _ _ _ := (lookupHandle_does .readdir hl.find?_eq).bind hnext
      exact ⟨_, _, hdoes.map Value.entry, hmade.advance, rfl⟩
  | detailed =>
      obtain ⟨_, hnative⟩ := hmade.nativeListing
      obtain ⟨made, d, hlisted, hmoved, hsame⟩ := hmade.emulateReaddirPlus hstat hscheme hnames
      have hdoes : Does (Context.readdirPlus key) c _ _ _ :=
        (lookupHandle_does .readdirPlus hl.find?_eq).bind fun events => (hnative events).bind hlisted
      exact ⟨_, d, hdoes.map Value.entryPlus, hmoved, hsame⟩

end Serving

end HasListing

/-! ## Sequences of listings -/

/-- **A listing is not disturbed**: the plugins stay the same, the key stays good for the same handle, nobody moves
its place, and the files stay as they are. -/
structure Undisturbed (label : String) (key : DescriptorKey) (c d : Context State) : Prop where
  registry_eq : d.registry = c.registry
  contents_eq : d.world.contents label = c.world.contents label
  find?_eq : (d.table .directory).find? key = (c.table .directory).find? key
  shown_eq : ∀ h, (c.table .directory).find? key = some h → d.shown h = c.shown h
  listing?_eq : ∀ h, (c.table .directory).find? key = some h →
    d.world.listing? (c.shown h) = c.world.listing? (c.shown h)

/-- **A sequence of listings of a key**, and how each of them ends. Other steps may come between them, if these do
not disturb the listing. -/
inductive ListingRun (label : String) (key : DescriptorKey) :
    Session State → List ListingKind → List (Except Error Value) → Prop
  | nil (s : Session State) : ListingRun label key s [] []
  | listed {s : Session State} {kind : ListingKind} {kinds : List ListingKind}
      {outcomes : List (Except Error Value)}
      (hrest : ListingRun label key (s.step (.request (kind.request key))).2 kinds outcomes) :
      ListingRun label key s (kind :: kinds) ((s.step (.request (kind.request key))).1 :: outcomes)
  | aside {s : Session State} {step : Step State} {kinds : List ListingKind}
      {outcomes : List (Except Error Value)} (hapart : Undisturbed label key s.context (s.step step).2.context)
      (hrest : ListingRun label key (s.step step).2 kinds outcomes) : ListingRun label key s kinds outcomes

section Sequences

variable {key : DescriptorKey} {h : HandleId} {index : Nat} {url : String}

/-- What does not disturb a listing leaves it open. -/
theorem HasListing.aside {c d : Context State} {listing : OpenListing}
    (hl : HasListing id spec c key h index url listing) (hapart : Undisturbed spec.store key c d) :
    HasListing id spec d key h index url listing := by
  obtain ⟨plugin, hbackend, hplugins⟩ := hl.lone.listed_of_ready hl.ready
  have hready : d.registry.phase = .ready := by
    rw [hapart.registry_eq]
    exact hl.ready
  have hlone : Lone (backend id spec) d := by
    rw [← hapart.registry_eq] at hplugins
    exact .listed plugin hbackend hready hplugins
  exact hl.carry d hlone hready hapart.find?_eq (hapart.shown_eq h hl.find?_eq)
    ((hapart.listing?_eq h hl.find?_eq).trans hl.listing?_eq)

/-- **A sequence of listings answers with the names from the place on**, one after the other. -/
theorem HasListing.run {s : Session State} {names : List String} {next : Nat}
    (hl : HasListing id spec s.context key h index url { names, next }) (hstat : spec.Claims .stat)
    (hscheme : beginsWith (trimUrl url) spec.scheme = true)
    (hnames : Enumerates (s.context.world.contents spec.store) (trimUrl url) names)
    {kinds : List ListingKind} {outcomes : List (Except Error Value)}
    (hrun : ListingRun spec.store key s kinds outcomes) :
    outcomes = kinds.mapIdx fun i kind =>
      .ok (kind.answer (s.context.world.contents spec.store) (trimUrl url) names[next + i]?) := by
  induction hrun generalizing next with
  | nil => rfl
  | @listed s kind kinds outcomes _ ih =>
      obtain ⟨made, d, hdoes, hmoved, hsame⟩ := hl.step hstat hscheme hnames kind
      obtain ⟨events, hleft⟩ := hdoes.context_eq
      have hcontext : (s.step (.request (kind.request key))).2.context = d.recording events := hleft
      have hfirst : (s.step (.request (kind.request key))).1 = _ := hdoes.result_eq
      have hopened := hmoved.recording events
      rw [← hcontext] at hopened
      have hcontents : (s.step (.request (kind.request key))).2.context.world.contents spec.store =
          s.context.world.contents spec.store := by
        rw [hcontext]
        exact hsame
      have hrest := ih hopened (by rw [hcontents]; exact hnames)
      rw [hfirst, hrest, List.mapIdx_cons, hcontents]
      simp only [Nat.add_zero, Nat.add_assoc, Nat.add_comm 1]
  -- Other steps keep the place and the files, so the answers that follow are the same.
  | aside hapart _ ih =>
      have hrest := ih (hl.aside hapart) (by rw [hapart.contents_eq]; exact hnames)
      rwa [hapart.contents_eq] at hrest

end Sequences

/-! ## Opening a directory -/

def State.listingOf (state : State) (names : List String) : State :=
  { state with openListings := state.openListings.push { names } }

/-- What is opened comes behind all that was opened before. -/
theorem State.listing?_listingOf (state : State) (names : List String) {opened : OpenHandle}
    (h : opened.handle.payload = .openListing state.openListings.size) :
    (state.listingOf names).listing? opened = some (state.openListings.size, { names }) := by
  rw [listing?, h]
  simp [listingOf]

/-- A directory is open under the key of a handle that was just taken in. -/
theorem HasListing.of_holding {c : Context State} {handle : FileHandle} {table : DescriptorTable HandleId}
    {key : DescriptorKey} {index : Nat} {url : String} {listing : OpenListing} (hlone : Lone (backend id spec) c)
    (hready : c.registry.phase = .ready) (hfind : table.find? key = some c.handles.size)
    (howner : handle.owner = spec.name) (hpath : handle.path = some url)
    (hlisting : c.world.listing? ⟨c.handles.size, handle⟩ = some (index, listing)) :
    HasListing id spec ((c.holding handle).withTable .directory table) key c.handles.size index url listing := by
  have hshown : ((c.holding handle).withTable .directory table).shown c.handles.size = ⟨c.handles.size, handle⟩ :=
    (shown_holding c handle _).trans (if_pos rfl)
  exact {
    lone := hlone.congr rfl rfl rfl
    ready := hready
    find?_eq := hfind
    owner_eq := by rw [hshown]; exact howner
    path_eq := by rw [hshown]; exact hpath
    listing?_eq := by rw [hshown]; exact hlisting }

section Opening

variable {url : String} (hopens : spec.Claims .opendir) (hurl : url ≠ "")
  (hscheme : beginsWith (trimUrl url) spec.scheme = true)

include hopens hurl hscheme

/-- The backend opens a directory that exists, with the names that are in it now. -/
theorem dispatchOpendir_does {c : Context State} (hlone : Lone (backend id spec) c)
    (hdir : trimUrl url ∈ c.world.directories spec.store) :
    let after := c.world.listingOf ((c.world.store spec.store).names (trimUrl url))
    ∃ registry made, Lone (backend id spec) ({ c with registry }.inWorld after) ∧ registry.phase = .ready ∧
      Does (dispatchUrl (.opendir url)) c
        (.ok { owner := spec.name, payload := .openListing c.world.openListings.size }) made
        ({ c with registry }.inWorld after) := by
  intro after
  have hrequest : (UrlRequest.opendir url).url ≠ "" := hurl
  have hbegins : beginsWith url spec.scheme = true := by
    rw [beginsWith_iff] at hscheme ⊢
    refine hscheme.trans ?_
    rw [toList_trimUrl]
    exact Url.trimSlashes_prefix _
  have hlisted : (c.world.store spec.store).listing url =
      .ok ((c.world.store spec.store).names (trimUrl url)) := if_pos hdir
  have hrespond : respond id spec (UrlRequest.opendir url).call c.world =
      (.ok { owner := spec.name, payload := .openListing c.world.openListings.size },
        after) := by
    show Memory.opendir spec url c.world = _
    rw [Memory.opendir, hlisted]
    rfl
  obtain ⟨registry, made, hlone, hready, hdoes⟩ := dispatchUrl_answers hlone hrequest (hopens url hbegins) hrespond
  exact ⟨registry, made, hlone, hready, hdoes c.events⟩

/-- **With room, a directory is opened under a key**, at its first name. Without, it is not opened. -/
theorem opendir_step {s : Session State} (hlone : Lone (backend id spec) s.context)
    (hw : (s.context.table .directory).WellFormed)
    (hdir : trimUrl url ∈ s.context.world.directories spec.store) :
    let t := s.step (.request (.opendir url))
    let names := (s.context.world.store spec.store).names (trimUrl url)
    ((s.context.table .directory).HasRoom → ∃ key, t.1 = .ok (.key key)) ∧
      ∀ key, t.1 = .ok (.key key) →
        (∃ h index, HasListing id spec t.2.context key h index url { names }) ∧
          t.2.context.world.contents spec.store = s.context.world.contents spec.store := by
  intro t names
  obtain ⟨registry, made, hlone', hready, hpart⟩ := dispatchOpendir_does hopens hurl hscheme hlone hdir
  by_cases hroom : (s.context.table .directory).HasRoom
  · obtain ⟨key, table, hinsert⟩ := DescriptorTable.insert_of_hasRoom hw hroom s.context.handles.size
    obtain ⟨_, hdoes⟩ := opening_keyed (o := .directory url) hpart hinsert
    obtain ⟨events, hleft⟩ := hdoes.context_eq
    have hkey : t.1 = .ok (.key key) := hdoes.result_eq
    refine ⟨fun _ => ⟨key, hkey⟩, fun issued hissued => ?_⟩
    cases hkey.symm.trans hissued
    have hfind : table.find? key = some s.context.handles.size := by
      rw [DescriptorTable.find?_insert hw hinsert, if_pos rfl]
    rw [show t.2.context = _ from hleft]
    refine ⟨⟨s.context.handles.size, s.context.world.openListings.size, HasListing.recording ?_ events⟩, rfl⟩
    exact .of_holding hlone' hready hfind rfl rfl (State.listing?_listingOf _ names rfl)
  · obtain ⟨events, -, hrun⟩ := hpart
    obtain ⟨hfull, -⟩ := Session.open_of_full (o := .directory url) hw hrun hroom
    refine ⟨fun h => absurd h hroom, fun key hkey => ?_⟩
    cases (show t.1 = _ from hfull).symm.trans hkey

end Opening

/-- **Listings are complete and exact.** Whatever a context went through, its only backend is in memory now and
claims openings and metadata under its scheme, and a URL without the slashes at its end is a directory there.

* With room in the table, opening the URL issues a key.
* The names of the files directly in the directory, each once and in the order of the bytes of their URLs, are what
  any sequence of listings of the key answers one after the other, with metadata or without; and nothing after
  them, however often it is asked.
* The metadata that comes with a name is that of a regular file, as large as the contents of this very file. -/
theorem listing_exact {config : Config} {host : Host State} {world : State} {steps : List (Step State)}
    {s : Session State} (hs : s = .after config host world steps) (hlone : Lone (backend id spec) s.context)
    (hopens : spec.Claims .opendir) (hstat : spec.Claims .stat) {url : String} (hurl : url ≠ "")
    (hdir : trimUrl url ∈ s.context.world.directories spec.store)
    (hscheme : beginsWith (trimUrl url) spec.scheme = true) :
    let contents := s.context.world.contents spec.store
    let t := s.step (.request (.opendir url))
    ∃ names : List String, Enumerates contents (trimUrl url) names ∧ names.Nodup ∧
      ((s.context.table .directory).HasRoom → ∃ key, t.1 = .ok (.key key)) ∧
      ∀ key, t.1 = .ok (.key key) → ∀ kinds outcomes, ListingRun spec.store key t.2 kinds outcomes →
        outcomes = kinds.mapIdx fun i kind => .ok (kind.answer contents (trimUrl url) names[i]?) := by
  intro contents t
  have hw : (s.context.table .directory).WellFormed := by
    rw [hs]
    exact Session.wellFormed_after config host world steps .directory
  obtain ⟨hissues, hopened⟩ := opendir_step hopens hurl hscheme hlone hw hdir
  have hnames : Enumerates contents (trimUrl url) _ :=
    Store.enumerates_names (s.context.world.store spec.store) (trimUrl url)
  refine ⟨_, hnames, hnames.nodup, hissues, fun key hkey kinds outcomes hrun => ?_⟩
  obtain ⟨⟨h, index, hl⟩, hsame⟩ := hopened key hkey
  have houtcomes := hl.run hstat hscheme (by rw [hsame]; exact hnames) hrun
  rw [hsame] at houtcomes
  simpa only [Nat.zero_add] using houtcomes

/-- A backend that claims openings of directories and metadata under one scheme. -/
def listerSpec : Spec :=
  { name := "memory", scheme := "mem://", claims := some [.opendir, .stat], store := "files" }

def listedStore : Store :=
  (((Store.putDirectory {} "mem://h/d").putFile "mem://h/d/b" [1, 2]).putFile "mem://h/d/a" []).putFile
    "mem://h/d/x/y" [3]

def listedSession : Session State :=
  .after { loadPlugins := false } {} (State.withStore {} "files" listedStore)
    [.register fun id => backend id listerSpec]

theorem listing_exact_listed :
    let s := listedSession
    let contents := s.context.world.contents "files"
    let t := s.step (.request (.opendir "mem://h/d//"))
    Lone (backend (.registered 0) listerSpec) s.context ∧
      listerSpec.Claims .opendir ∧ listerSpec.Claims .stat ∧
      trimUrl "mem://h/d//" ∈ s.context.world.directories "files" ∧
      ∃ names key outcomes, Enumerates contents "mem://h/d" names ∧ names.Nodup ∧ t.1 = .ok (.key key) ∧
        ListingRun "files" key t.2 [.detailed, .plain] outcomes ∧
        outcomes = [.ok (ListingKind.detailed.answer contents "mem://h/d" names[0]?),
          .ok (ListingKind.plain.answer contents "mem://h/d" names[1]?)] := by
  intro s contents t
  have hlone : Lone (backend (.registered 0) listerSpec) s.context := .waiting rfl rfl rfl (.nothing rfl)
  have hopens : listerSpec.Claims .opendir := fun _ h => h
  have hstat : listerSpec.Claims .stat := fun _ h => h
  have htrim : trimUrl "mem://h/d//" = "mem://h/d" := by decide
  have hdir : trimUrl "mem://h/d//" ∈ s.context.world.directories "files" := by
    have hset : s.context.world.directories "files" = listedStore.directorySet :=
      State.directories_withStore {} "files" listedStore
    have hput : listedStore.directorySet = insert "mem://h/d" (Store.directorySet {}) :=
      Store.directorySet_putDirectory {} "mem://h/d"
    rw [hset, hput, htrim]
    exact Set.mem_insert _ _
  obtain ⟨names, hnames, hnodup, hissues, hexact⟩ :=
    listing_exact rfl hlone hopens hstat (by decide) hdir (by decide)
  obtain ⟨key, hkey⟩ := hissues (by decide)
  -- Between the two listings, another store changes.
  have hapart (u : Session State) : Undisturbed "files" key u.context
      (u.step (.changeWorld (·.withStore "other" {}))).2.context := by
    refine ⟨rfl, ?_, rfl, fun _ _ => rfl, fun _ _ => rfl⟩
    show (u.context.world.withStore "other" {}).contents "files" = _
    rw [State.contents, State.store_withStore_eq, if_neg (by decide)]
    rfl
  have hrun : ListingRun "files" key t.2 [.detailed, .plain] _ :=
    .listed (.aside (hapart _) (.listed (.nil _)))
  have houtcomes := hexact key hkey _ _ hrun
  rw [htrim] at hnames houtcomes
  exact ⟨hlone, hopens, hstat, hdir, names, key, _, hnames, hnodup, hkey, hrun, houtcomes⟩

example : (listedSession.run [.request (.opendir "mem://h/d//"), .request (.readdirPlus (.pack 0 0)),
    .request (.readdir (.pack 0 0)), .request (.readdirPlus (.pack 0 0))]).1 =
      [.ok (.key (.pack 0 0)), .ok (.entryPlus (some ({ name := "a" }, .regular (.ofRaw 0o644) 0))),
        .ok (.entry (some { name := "b" })), .ok (.entryPlus none)] := by
  cbv

end Memory

end StorageDispatch
