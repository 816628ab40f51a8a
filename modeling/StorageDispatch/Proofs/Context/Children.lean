import StorageDispatch.Proofs.Context.Closing
import StorageDispatch.Proofs.Context.Lookup
import StorageDispatch.Proofs.Context.Owners
import StorageDispatch.Proofs.Url.Joining

set_option autoImplicit false

/-! # Which URLs a listing finds metadata of

A listing that the dispatcher completes itself asks for the metadata of one URL: that of the entry which the
backend has just listed (`Lists`), in the directory that the handle was opened with (`readdirPlus_adds`).
Up to there it is work on the handle, along which handles keep their URLs (`Confined`).

**The result** is `readdirPlus_stays`: with `Location.stays_childUrl_iff`, such a listing stays on the storage of
its directory if the directory is anchored or the name starts with a slash, and otherwise leaves it.
-/

namespace StorageDispatch

variable {σ α : Type}

/-- A call that is made to find the metadata of a URL. -/
def Call.FindsMetadata (url : String) (request : Call) : Prop := request = .checkUrl url .stat ∨ request = .stat url

/-- A call of work on handles: it is about one, or it tears a module of a failed discovery down. -/
def Call.Internal (request : Call) : Prop := request.about? ≠ none ∨ request = .teardown

/-- The calls that an operation on a URL may make: its lookup asks about the URL, or tears the modules of a failed
discovery down, and its action is called. -/
def UrlRequest.Makes (request : UrlRequest α) (made : Call) : Prop :=
  made = .teardown ∨ made = .checkUrl request.url request.operation.capability ∨ made = request.call

namespace Context

/-! ## An operation on a URL -/

/-- Only its own action is called for an operation on a URL, and what its lookup calls. -/
theorem adds_dispatchUrl (request : UrlRequest α) :
    Keeps (Adds (σ := σ) fun entry => request.Makes entry.2.2) (dispatchUrl request) := by
  have F : Flow (Adds (σ := σ) fun entry => request.Makes entry.2.2) := Adds.flow
  have hresolve : Keeps (Adds (σ := σ) fun entry => request.Makes entry.2.2)
      (resolveUrl request.operation request.url) := by
    intro c
    obtain ⟨found, made, d, hlookup, hdoes⟩ := resolveUrl_looks request.operation request.url c c.events
    exact ⟨made, hdoes.calls_eq, fun entry hentry => (hlookup.asks hentry).symm.imp_right .inl⟩
  refine F.bindE (F.log rfl).perform fun _ => F.counted _ (F.bindE hresolve fun plugin => F.timedEngine _ _ ?_)
  exact F.bindE (Respects.perform fun c => .of_call (.inr (.inr rfl)) c) fun _ => F.fromReply _ _

/-! ## Work on handles -/

/-- Handles keep their URLs, and calls are about handles. -/
def Confined (c d : Context σ) : Prop :=
  (∀ id, (d.shown id).handle.path = (c.shown id).handle.path) ∧ Adds (fun entry => entry.2.2.Internal) c d

theorem Confined.path_eq {work : Engine σ α} {c d : Context σ} {result : Except Error α}
    (h : Confined c (work.run.run c).2) (hrun : work.run.run c = (result, d)) (id : HandleId) :
    (d.shown id).handle.path = (c.shown id).handle.path := by
  rw [hrun] at h
  exact h.1 id

/-- A handle that moves keeps its URL. -/
theorem path_move (id : HandleId) (offset : FileHandle → Nat) (c : Context σ) (other : HandleId) :
    ((((updateHandle id fun handle => handle.setOffset (offset handle)).run c).2).shown other).handle.path =
      (c.shown other).handle.path := by
  show (((c.handles.modify id fun handle => handle.setOffset (offset handle))[other]?).getD default).path = _
  rw [shown, Array.getElem?_modify]
  split
  · cases c.handles[other]? <;> rfl
  · rfl

theorem confined_aloof : Aloof (Confined : Context σ → Context σ → Prop) :=
  .of_note (fun _ => ⟨fun _ => rfl, .of_eq rfl⟩)
    (fun h h' => ⟨fun id => (h'.1 id).trans (h.1 id), h.2.trans h'.2⟩)
    (fun _ c h => ⟨fun _ => rfl, .of_eq (calls_emit h c)⟩)
    (fun _ c => ⟨fun _ => rfl, .of_call (.inr rfl) c⟩) fun _ _ => ⟨fun _ => rfl, .of_eq rfl⟩

theorem confined_handling : Handling (fun _ _ => True) (Confined : Context σ → Context σ → Prop) where
  toFinding := confined_aloof.finding
  use resource c := by
    cases resource <;> exact ⟨fun _ => rfl, .of_eq rfl⟩
  found _ _ _ _ _ := trivial
  stays _ _ _ _ _ := trivial
  handle operation id serve c _ hserve := by
    refine confined_aloof.finding.dispatchHandleAt operation id fun plugin d _ _ _ => hserve plugin Confined ?_ _
    exact {
      toFlow := confined_aloof.toFlow
      talk := fun request opened c habout _ _ =>
        ⟨fun _ => rfl, .of_call (.inl (by rw [habout]; exact Option.some_ne_none _)) c⟩
      move := fun offset c => ⟨path_move id offset c, .of_eq rfl⟩ }

/-! ## Listings with metadata -/

/-- The calls that a listing may make: those on its handle, and those for the metadata of the entry that it lists
in the directory. -/
def ListingCall (key : DescriptorKey) (c : Context σ) (dir : String) (request : Call) : Prop :=
  request.Internal ∨
    ∃ id entry f, Lists key c id entry f ∧ request.FindsMetadata (childUrl dir entry.name)

/-- **A listing finds metadata of the entry that it lists, and of nothing else.** -/
theorem readdirPlus_adds {c : Context σ} {key : DescriptorKey} {id : HandleId} {dir : String}
    (hkey : (c.table .directory).find? key = some id) (hdir : (c.shown id).handle.path = some dir) :
    Adds (fun entry => ListingCall key c dir entry.2.2) c ((readdirPlus key).run.run c).2 := by
  have F : Flow (Adds (σ := σ) fun entry => ListingCall key c dir entry.2.2) := Adds.flow
  have H : Handling (fun _ _ => True) (Confined : Context σ → Context σ → Prop) := confined_handling
  have hinternal {d e : Context σ} (h : Confined d e) :
      Adds (fun entry => ListingCall key c dir entry.2.2) d e := h.2.mono fun _ => .inl
  -- The three parts before the metadata are confined, and the second and third start where the one before ended.
  have hlook := H.lookupHandle .readdirPlus .directory key c
  refine F.bindAt (hinternal hlook) fun found d hlookup => ?_
  obtain rfl : found = id := Option.some.inj ((lookupHandle_ok hlookup).1.symm.trans hkey)
  have hnatively : Confined d ((nativeListing found).run.run d).2 := H.nativeListing trivial
  refine F.bindAt (hinternal hnatively) fun native e hnative => ?_
  cases native with
  | some entry => exact F.pureE _ e
  | none =>
      have hlisting : Confined e ((nextEntry .readdirPlus found).run.run e).2 := H.nextEntry _ trivial
      refine F.bindAt (hinternal hlisting) fun next f hnext => ?_
      cases next with
      | none => exact F.pureE _ f
      | some entry =>
          have hpath : (f.shown found).handle.path = some dir :=
            calc (f.shown found).handle.path
                = (e.shown found).handle.path := hlisting.path_eq hnext found
              _ = (d.shown found).handle.path := hnatively.path_eq hnative found
              _ = (c.shown found).handle.path := hlook.path_eq hlookup found
              _ = some dir := hdir
          have hlists : Lists key c found entry f := ⟨d, e, hlookup, hnative, hnext⟩
          have hmetadata : Keeps (Adds (σ := σ) fun entry => ListingCall key c dir entry.2.2)
              (stat (childUrl dir entry.name)) := by
            refine fun g => (adds_dispatchUrl (.stat _) g).mono fun _ hmade => ?_
            rcases hmade with hteardown | hasked
            · exact .inl (.inr hteardown)
            · exact .inr ⟨found, entry, f, hlists, hasked⟩
          dsimp only
          rw [run_map, withMetadata, run_perform_bindE]
          dsimp only
          rw [show ((openHandle found).run f).1.handle.path = some dir from hpath]
          exact (F.bindE (F.log rfl).perform fun _ => F.bindE hmetadata fun _ => F.pureE _) f

/-- **Whether a listing stays on the storage of its directory.** A directory with a scheme is listed, and the
dispatcher finds the metadata itself.

* The URL of an entry stays on the storage of the directory, for every name if the directory is anchored, and
  otherwise for names that start with a slash only.
* Otherwise a relative name becomes a path behind the scheme and a single slash.
* The metadata that is asked for is that of the entry which the backend lists, and of no other URL. -/
theorem readdirPlus_stays (l : Location) {c : Context σ} {key : DescriptorKey} {id : HandleId}
    (hkey : (c.table .directory).find? key = some id) (hdir : (c.shown id).handle.path = some l.url) :
    (∀ name, l.Stays (childUrl l.url name) ↔ beginsWith name "/" = true ∨ l.Anchored) ∧
    (∀ name, ¬ beginsWith name "/" = true → ¬ l.Anchored →
      childUrl l.url name = l.scheme ++ ":/" ++ name ∧ l.Leaves (childUrl l.url name)) ∧
    Adds (fun entry => ListingCall key c l.url entry.2.2) c ((readdirPlus key).run.run c).2 :=
  ⟨l.stays_childUrl_iff, fun _ hrelative hloose =>
      ⟨l.childUrl_relative hloose hrelative, l.leaves_of_relative hloose hrelative⟩,
    readdirPlus_adds hkey hdir⟩

/-- A backend that claims every URL and lists the same entry over and over. -/
def lister : Backend Unit where
  id := .registered 0
  name := "lister"
  respond
    | .checkUrl .., world => (.ok true, world)
    | .readdir _, world => (.ok (some { name := "a" }), world)
    | .stat _, world => (.ok (.regular (.ofRaw 0o644) 1), world)
    | request, world => (request.unimplemented, world)

def fileRoot : Location where
  scheme := "file"
  authority := ""
  path := "/"
  scheme_ne := by decide
  scheme_plain := by simp
  authority_plain := List.not_mem_nil
  path_rooted := .inr rfl

/-- A context in which that root is open. -/
def rootOpened : Context Unit where
  config := {}
  world := ()
  registry := { phase := .ready, plugins := [{ backend := lister, loadOrder := 0, origin := .static }] }
  directories := some { name := "directory", limit := 1, slots := #[{ entry := some 0 }], live := 1 }
  handles := #[{ owner := "lister", path := some fileRoot.url }]

theorem readdirPlus_stays_root :
    (rootOpened.table .directory).find? (.pack 0 0) = some 0 ∧
      (rootOpened.shown 0).handle.path = some fileRoot.url ∧
      (∀ name, fileRoot.Stays (childUrl fileRoot.url name) ↔ beginsWith name "/" = true ∨ fileRoot.Anchored) ∧
      (∀ name, ¬ beginsWith name "/" = true → ¬ fileRoot.Anchored →
        childUrl fileRoot.url name = fileRoot.scheme ++ ":/" ++ name ∧
          fileRoot.Leaves (childUrl fileRoot.url name)) ∧
      Adds (fun entry => ListingCall (.pack 0 0) rootOpened fileRoot.url entry.2.2) rootOpened
        ((readdirPlus (.pack 0 0)).run.run rootOpened).2 := by
  have hkey : (rootOpened.table .directory).find? (.pack 0 0) = some 0 := by decide
  exact ⟨hkey, rfl, readdirPlus_stays fileRoot hkey rfl⟩

/-- **A listing of that root leaves its storage**: the metadata that is asked for is that of a path. -/
theorem readdirPlus_leaves :
    fileRoot.url = "file:///" ∧ fileRoot.storage = "file://" ∧
      ((readdirPlus (.pack 0 0)).run.run rootOpened).2.calls =
        [(.registered 0, "lister", .readdirPlus (rootOpened.shown 0)),
          (.registered 0, "lister", .readdir (rootOpened.shown 0)),
          (.registered 0, "lister", .checkUrl "file:/a" .stat), (.registered 0, "lister", .stat "file:/a")] ∧
      childUrl fileRoot.url "a" = "file:/a" ∧ rootUrl "file:/a" = "" ∧ ¬ fileRoot.Stays "file:/a" := by
  have hroot : rootUrl "file:/a" = "" := by decide
  refine ⟨by decide, by decide, by decide, by decide, hroot, fun hstays => ?_⟩
  have hsame : rootUrl "file:/a" = fileRoot.storage := hstays.2
  rw [hroot] at hsame
  exact absurd hsame (by decide)

end Context

end StorageDispatch
