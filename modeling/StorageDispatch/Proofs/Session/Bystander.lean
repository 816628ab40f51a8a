import StorageDispatch.Proofs.Context.Unnoticed
import StorageDispatch.Proofs.Session.Openers
import StorageDispatch.Proofs.Session.Teardown
import StorageDispatch.World

set_option autoImplicit false

/-! # A bystander is not noticed

Registering an inert backend at some point of a session changes nothing for anybody else. The session goes on
beside one without that registration, and the two stay `Session.Flanked`: every step comes to the same in both
(`flanked_step`), so the whole run does (`flanked_run`).

Two kinds of steps need a word. Those that tell about the registry itself show the bystander, of course
(`Step.inspects`). And those that bring something from outside, a backend or another state of the machine,
have to bring the same in both sessions (`Step.Blind`), where a backend that comes later has the next number
for its identity.
-/

namespace StorageDispatch

variable {σ α β : Type}

def Step.inspects : Step σ → Bool
  | .request work => work.inspects
  | .hold .. | .held _ | .compareList _ => true
  | _ => false

/-- **A step is blind to a bystander**: what it brings from outside is the same with the bystander as without
it, and it does not look for the bystander by name. -/
def Step.Blind (B : Bystander σ) : Step σ → Prop
  | .register make => ∀ n, B.number ≤ n →
    (Session.newcomer n make).Alike B.Same (Session.newcomer (n + 1) make)
  | .hold name _ => name ≠ B.backend.name
  | .changeWorld change => ∀ world world', B.Same world world' → B.Same (change world) (change world')
  | .changeHost change => ∀ host, B.Fair host → B.Fair (change host)
  | _ => True

/-- A plugin that is held, and its twin under the same label. -/
def Bystander.HeldTwins (B : Bystander σ) (entry entry' : String × Plugin σ) : Prop :=
  entry'.1 = entry.1 ∧ B.Twin entry.2.backend entry'.2.backend

namespace Bystander

variable {B : Bystander σ} {held held' : List (String × Plugin σ)}

theorem lookup_held (h : List.Forall₂ B.HeldTwins held held') (name : String) :
    Option.Rel (fun p p' => B.Twin p.backend p'.backend) (held.lookup name) (held'.lookup name) := by
  induction h with
  | nil => exact .none
  | @cons entry entry' _ _ hentry _ ih =>
      obtain ⟨label, plugin⟩ := entry
      obtain ⟨label', plugin'⟩ := entry'
      obtain ⟨rfl, htwin⟩ := hentry
      rw [List.lookup_cons, List.lookup_cons]
      cases name == label' with
      | true => exact .some htwin
      | false => exact ih

theorem filter_held (h : List.Forall₂ B.HeldTwins held held') (name : String) :
    List.Forall₂ B.HeldTwins (held.filter fun entry => entry.1 != name)
      (held'.filter fun entry => entry.1 != name) := by
  induction h with
  | nil => exact .nil
  | @cons entry entry' _ _ hentry _ ih =>
      rw [List.filter_cons, List.filter_cons, hentry.1]
      split
      · exact .cons hentry ih
      · exact ih

end Bystander

namespace Session

open Context

/-- **A session, and one where a bystander was handed over besides.** -/
structure Flanked (B : Bystander σ) (base : List (InstanceId × String × Call)) (s s' : Session σ) : Prop where
  context : Context.Flanked B base 0 s.context s'.context
  arrivals_eq : s'.arrivals = s.arrivals + 1
  number_le : B.number ≤ s.arrivals
  held : List.Forall₂ B.HeldTwins s.held s'.held
  kept_eq : s'.kept = s.kept

namespace Flanked

variable {B : Bystander σ} {base : List (InstanceId × String × Call)} {s s' : Session σ}

/-- A plugin and its twin are held under the same label. -/
theorem hold (h : Flanked B base s s') {p p' : Plugin σ} (htwin : B.Twin p.backend p'.backend)
    (label : String) :
    Flanked B base { s with held := Session.label label p s.held }
      { s' with held := Session.label label p' s'.held } :=
  { h with held := .cons ⟨rfl, htwin⟩ (Bystander.filter_held h.held label) }

/-- A handle is kept under the same label. -/
theorem keep (h : Flanked B base s s') {id id' : HandleId} (hid : id = id') (label : String) :
    Flanked B base { s with kept := Session.label label id s.kept }
      { s' with kept := Session.label label id' s'.kept } := by
  rw [← hid]
  exact { h with kept_eq := congrArg (Session.label label id) h.kept_eq }

/-- The same label is put on lists of plugins that need not have the same number. -/
theorem see (h : Flanked B base s s') (version version' : Nat) (label : String) :
    Flanked B base { s with seen := Session.label label version s.seen }
      { s' with seen := Session.label label version' s'.seen } := { h with }

/-- A backend is handed over on both sides, and has the next number where the bystander is. -/
theorem register (h : Flanked B base s s') {make : InstanceId → Backend σ}
    (hmake : (Step.register make).Blind B) :
    Flanked B base (s.step (.register make)).2 (s'.step (.register make)).2 := by
  have htwin : B.Twin (newcomer s.arrivals make) (newcomer s'.arrivals make) := by
    rw [h.arrivals_eq]
    exact ⟨hmake s.arrivals h.number_le, (InstanceId.shift_of_le h.number_le).symm⟩
  have hregistered : Meets (Context.Flanked B base 0) Eq (Registry.register (newcomer s.arrivals make))
      (Registry.register (newcomer s'.arrivals make)) s.context s'.context :=
    Context.Flanked.discovering.register htwin _ _ h.context
  exact {
    context := hregistered.2
    arrivals_eq := congrArg (· + 1) h.arrivals_eq
    number_le := Nat.le_succ_of_le h.number_le
    held := h.held
    kept_eq := h.kept_eq }

/-- Work in both contexts. -/
theorem within (h : Flanked B base s s') {A : Except Error α → Except Error α → Prop} {x y : Engine σ α}
    (hwork : Meets (Context.Flanked B base 0) A x.run y.run s.context s'.context) :
    A (s.within x).1 (s'.within y).1 ∧ Flanked B base (s.within x).2 (s'.within y).2 :=
  ⟨hwork.1, { h with context := hwork.2 }⟩

/-- Work in both contexts, after which each side notes something of its result. -/
theorem noting (h : Flanked B base s s') {A : α → α → Prop}
    {V : Except Error Value → Except Error Value → Prop}
    {work : Engine σ α} {note : α → Session σ → Session σ} {value value' : α → Engine σ Value}
    (hwork : PairedE (Context.Flanked B base 0) A work work)
    (hnote : ∀ a a' t t', A a a' → Flanked B base t t' → Flanked B base (note a t) (note a' t'))
    (hvalue : ∀ a a', A a a' → Paired (Context.Flanked B base 0) V (value a).run (value' a').run)
    (herror : ∀ error, V (.error error) (.error error)) :
    V (s.noting work note value).1 (s'.noting work note value').1 ∧
      Flanked B base (s.noting work note value).2 (s'.noting work note value').2 := by
  have hwithin := h.within (hwork s.context s'.context h.context)
  unfold Session.noting
  generalize s.within work = found at hwithin ⊢
  generalize s'.within work = found' at hwithin ⊢
  obtain ⟨outcome, t⟩ := found
  obtain ⟨outcome', t'⟩ := found'
  obtain ⟨houtcome, ht⟩ := hwithin
  cases houtcome with
  | error error => exact ⟨herror error, ht⟩
  | ok hab =>
      have hnoted := hnote _ _ t t' hab ht
      exact hnoted.within (hvalue _ _ hab _ _ hnoted.context)

/-- Use of what is kept under a label, on both sides. -/
theorem withKept (h : Flanked B base s s') {kept kept' : List (String × β)} {name : String} {R : β → β → Prop}
    (hkept : Option.Rel R (kept.lookup name) (kept'.lookup name))
    {V : Except Error Value → Except Error Value → Prop} {work : β → Engine σ Value}
    (hwork : ∀ b b', R b b' → Paired (Context.Flanked B base 0) V (work b).run (work b').run)
    (herror : ∀ error, V (.error error) (.error error)) :
    V (s.withKept kept name work).1 (s'.withKept kept' name work).1 ∧
      Flanked B base (s.withKept kept name work).2 (s'.withKept kept' name work).2 := by
  unfold Session.withKept
  generalize kept.lookup name = found at hkept ⊢
  generalize kept'.lookup name = found' at hkept ⊢
  cases hkept with
  | none => exact ⟨herror _, h⟩
  | some hb => exact h.within (hwork _ _ hb s.context s'.context h.context)

end Flanked

variable {B : Bystander σ} {base : List (InstanceId × String × Call)} {s s' : Session σ}

theorem paired_pluginValue (p p' : Plugin σ) :
    Paired (Context.Flanked B base 0) (fun _ _ => True) (pluginValue p).run (pluginValue p').run :=
  fun _ _ h => ⟨trivial, h⟩

theorem paired_handleValue {id id' : HandleId} (hid : id = id') :
    Paired (Context.Flanked B base 0) (fun x y => y = x) (handleValue id).run (handleValue id').run := by
  rw [hid]
  refine Paired.mono (PairedE.bindEq (Paired.describeHandle id').perform fun _ => .pure rfl) fun _ _ h => h.eq

theorem paired_teardownValue {p p' : Plugin σ} (htwin : B.Twin p.backend p'.backend) :
    Paired (Context.Flanked B base 0) (fun x y => y = x)
      (Value.flag <$> perform p.teardown : Engine σ Value).run (Value.flag <$> perform p'.teardown).run :=
  (PairedE.mapEq _ (Paired.tearDownPlugin htwin).perform).run.mono fun _ _ h => h.eq

theorem paired_currentList :
    PairedE (Context.Flanked B base 0) (fun _ _ => True) (currentList : Engine σ Nat) currentList :=
  .bind Context.Flanked.discovering.discover fun _ _ _ => .get fun _ _ h => ⟨.ok trivial, h⟩

/-- **No step notices the bystander**, unless it tells about the registry. -/
theorem flanked_step (step : Step σ) (h : Flanked B base s s') (hstocked : s.context.Stocked 0)
    (hblind : step.Blind B)
    (howners : ∀ handle ∈ (s.step step).2.context.handles, handle.owner ≠ B.backend.name) :
    (step.inspects = false → (s'.step step).1 = (s.step step).1) ∧
      Flanked B base (s.step step).2 (s'.step step).2 := by
  cases step with
  | request request =>
      obtain ⟨houtcome, hleft⟩ := request.unnoticed_serve h.context hstocked howners
      exact ⟨houtcome, { h with context := hleft }⟩
  | register make => exact ⟨fun _ => rfl, h.register hblind⟩
  -- Steps like this one tell about the registry, so that their outcomes may differ.
  | hold name label =>
      have hheld := h.noting (.findByName hblind) (fun p p' t t' htwin ht => ht.hold htwin label)
        (fun p p' _ => paired_pluginValue p p') fun _ => trivial
      exact ⟨nofun, hheld.2⟩
  | held label =>
      have hheld := Bystander.lookup_held h.held label
      exact ⟨nofun, (h.withKept hheld (fun p p' _ => paired_pluginValue p p') fun _ => trivial).2⟩
  | tearDownHeld label =>
      obtain ⟨houtcome, hleft⟩ := h.withKept (Bystander.lookup_held h.held label)
        (fun p p' htwin => paired_teardownValue htwin) fun _ => rfl
      exact ⟨fun _ => houtcome, hleft⟩
  | letGo label =>
      refine ⟨fun _ => ?_, { h with held := Bystander.filter_held h.held label }⟩
      have hlookup := Bystander.lookup_held h.held label
      show Except.ok (Value.flag (s'.held.lookup label).isSome) = .ok (.flag (s.held.lookup label).isSome)
      generalize s.held.lookup label = found at hlookup ⊢
      generalize s'.held.lookup label = found' at hlookup ⊢
      cases hlookup <;> rfl
  | keep key label =>
      obtain ⟨houtcome, hleft⟩ := h.noting (Context.Flanked.tabled.findHandle .file key)
        (fun id id' t t' hid ht => ht.keep hid label) (fun _ _ => paired_handleValue) fun _ => rfl
      exact ⟨fun _ => houtcome, hleft⟩
  | kept label =>
      have hkept : Option.Rel Eq (s.kept.lookup label) (s'.kept.lookup label) := by
        rw [h.kept_eq]
        cases s.kept.lookup label with
        | none => exact .none
        | some id => exact .some rfl
      obtain ⟨houtcome, hleft⟩ := h.withKept hkept (fun _ _ => paired_handleValue) fun _ => rfl
      exact ⟨fun _ => houtcome, hleft⟩
  | compareList label =>
      refine ⟨nofun, (h.noting (V := fun _ _ => True) paired_currentList
        (fun version version' t t' _ ht => ?_) (fun version version' _ => ?_) fun _ => trivial).2⟩
      · exact ht.see version version' label
      · exact .pure trivial
  | changeWorld change =>
      exact ⟨fun _ => rfl, { h with context := { h.context with world := hblind _ _ h.context.world } }⟩
  | changeHost change =>
      exact ⟨fun _ => rfl, { h with context := { h.context with
        host_eq := congrArg change h.context.host_eq, fair := hblind _ h.context.fair } }⟩

/-- **No run notices the bystander.** -/
theorem flanked_run (steps : List (Step σ)) (h : Flanked B base s s') (hstocked : s.context.Stocked 0)
    (hblind : ∀ step ∈ steps, step.Blind B)
    (howners : Along (fun t => ∀ handle ∈ t.context.handles, handle.owner ≠ B.backend.name) steps s) :
    (∀ (i : Nat) (step : Step σ), steps[i]? = some step → step.inspects = false →
        (run steps s').1[i]? = (run steps s).1[i]?) ∧
      Flanked B base (run steps s).2 (run steps s').2 := by
  induction steps generalizing s s' with
  | nil => exact ⟨nofun, h⟩
  | cons step steps ih =>
      obtain ⟨hnow, hlater⟩ := List.forall_mem_cons.mp hblind
      obtain ⟨-, howners⟩ := howners
      obtain ⟨houtcome, hleft⟩ := flanked_step step h hstocked hnow howners.head
      obtain ⟨houtcomes, hend⟩ := ih hleft (stocked_step step hstocked) hlater howners
      refine ⟨fun i other hi hinspects => ?_, hend⟩
      cases i with
      | zero =>
          obtain rfl : step = other := Option.some.inj hi
          exact congrArg some (houtcome hinspects)
      | succ i => exact houtcomes i other hi hinspects

/-! ## The bystander comes -/

def backends (s : Session σ) : List (Backend σ) :=
  s.context.registry.plugins.map Plugin.backend ++ s.context.registry.pending ++
    s.held.map fun entry => entry.2.backend

/-- **Nobody in a session knows a bystander**: the world, the backends and the machine's modules are the same
without it as with it. -/
structure Unaware (B : Bystander σ) (s : Session σ) : Prop where
  world : B.Same s.context.world s.context.world
  alike : ∀ backend ∈ s.backends, backend.Alike B.Same backend
  fair : B.Fair s.context.host

/-- What came in before the bystander keeps its identity. -/
theorem Accounted.shift_eq (h : s.Accounted) {id : InstanceId}
    (hid : s.ledger.Knows id ∨ id ∈ s.context.registry.pending.map Backend.id) :
    id.shift s.arrivals = id := by
  have hentered : id ∈ s.ledger.entered s.arrivals := by
    refine h.balanced.perm.subset ?_
    by_cases htorn : id ∈ s.ledger.registry.tornDown
    · exact List.mem_append_right _ (h.balanced.mem_tornDown id htorn)
    · refine List.mem_append_left _ ?_
      rcases hid with (hdown | hlisted) | hqueued
      · exact absurd hdown htorn
      · exact List.mem_append_left _ (List.mem_filter.mpr ⟨hlisted, by simpa using htorn⟩)
      · exact List.mem_append_right _ hqueued
  rcases List.mem_append.mp hentered with harrived | hmade
  · obtain ⟨k, hk, rfl⟩ := List.mem_map.mp harrived
    exact InstanceId.shift_of_lt (List.mem_range.mp hk)
  · obtain ⟨k, -, rfl⟩ := h.balanced.mem_accepted id hmade
    rfl

theorem number_eq {n : Nat} {make : InstanceId → Backend σ} (hmake : newcomer n make = B.backend) :
    B.number = n := by
  have hid : InstanceId.registered n = .registered B.number := (congrArg Backend.id hmake).trans B.id_eq
  exact (InstanceId.registered.inj hid).symm

/-- **The bystander comes to a session**, whatever phase its registry is in. -/
theorem flanked_register {make : InstanceId → Backend σ} (hmake : newcomer s.arrivals make = B.backend)
    (haccounted : s.Accounted) (hunaware : s.Unaware B)
    (howners : ∀ handle ∈ s.context.handles, handle.owner ≠ B.backend.name) :
    Flanked B s.context.calls s (s.step (.register make)).2 := by
  have hnumber := number_eq hmake
  -- All backends that are there came before the bystander, so their identities stay as they are.
  have htwin {b : Backend σ} (hmem : b ∈ s.backends)
      (hid : s.ledger.Knows b.id ∨ b.id ∈ s.context.registry.pending.map Backend.id) : B.Twin b b := by
    refine ⟨hunaware.alike b hmem, ?_⟩
    rw [hnumber, haccounted.shift_eq hid]
  have hregistry : Registry.Flanked B s.context.registry s.context.registry := by
    refine .refl haccounted.consistent.ranked (fun hgone => (haccounted.consistent.empty_of_tornDown hgone).1)
      (fun plugin hplugin => ?_) (fun backend hbackend => ?_) fun id hid => ?_
    · exact htwin (List.mem_append_left _ (List.mem_append_left _ (List.mem_map_of_mem hplugin)))
        (.inl (.inr (List.mem_map_of_mem hplugin)))
    · have hmem : backend ∈ s.backends := List.mem_append_left _ (List.mem_append_right _ hbackend)
      exact htwin hmem (.inr (List.mem_map_of_mem hbackend))
    · rw [hnumber]
      exact haccounted.shift_eq (.inl (.inl hid))
  have hbefore : Context.Flanked B s.context.calls 0 s.context s.context := {
    config_eq := rfl
    host_eq := rfl
    fair := hunaware.fair
    world := hunaware.world
    registry := hregistry
    files_eq := rfl
    directories_eq := rfl
    handles_eq := rfl
    owners := howners
    bound_le := Nat.zero_le _
    heard := .start _ }
  -- Registering it is a step that one of the two sessions takes alone.
  have hafter := hbefore.register_bystander
  rw [← hmake] at hafter
  refine ⟨hafter, rfl, Nat.le_of_eq hnumber, List.forall₂_same.mpr fun entry hentry => ⟨rfl, ?_⟩, rfl⟩
  have hmem : entry.2.backend ∈ s.backends := List.mem_append_right _ (List.mem_map_of_mem hentry)
  exact htwin hmem (.inl (haccounted.knows_held entry hentry))

/-- **A bystander is not noticed.** Take a session at any point of its life, and let it go on with and without
the registration of an inert backend at that point. If nothing else knows of that backend, and no handle of
the run carries its name, then every step comes to the same, unless it tells about the registry itself; and
every other backend is called the same, in the same order. The backends that are handed over later come one
place later, and that is all that the bystander changes of them. -/
theorem bystander_unnoticed (config : Config) (host : Host σ) (world : σ) (before later : List (Step σ))
    (B : Bystander σ) (make : InstanceId → Backend σ) :
    let s := after config host world before
    let t := (s.step (.register make)).2
    newcomer s.arrivals make = B.backend → s.Unaware B → (∀ step ∈ later, step.Blind B) →
      Along (fun t => ∀ handle ∈ t.context.handles, handle.owner ≠ B.backend.name) later s →
        (∀ (i : Nat) (step : Step σ), later[i]? = some step → step.inspects = false →
          (run later t).1[i]? = (run later s).1[i]?) ∧
        ∃ made made', (run later s).2.context.calls = s.context.calls ++ made ∧
          (run later t).2.context.calls = s.context.calls ++ made' ∧
          made'.filter (fun entry => entry.1 != B.backend.id) =
            made.map fun entry => (entry.1.shift s.arrivals, entry.2) := by
  intro s t hmake hunaware hblind howners
  have haccounted : s.Accounted := accounted_run before (accounted_start config host world)
  have hstocked : s.context.Stocked 0 := stocked_run before (stocked_start config host world)
  have hflanked : Flanked B s.context.calls s t := flanked_register hmake haccounted hunaware howners.head
  obtain ⟨houtcomes, hend⟩ := flanked_run later hflanked hstocked hblind howners
  have hheard := hend.context.heard
  unfold Bystander.Heard at hheard
  rw [number_eq hmake] at hheard
  exact ⟨houtcomes, hheard⟩

/-- A backend that looks on: it claims no URL, and counts how often it was asked. -/
def onlooker : Bystander Nat where
  Same _ _ := True
  backend := {
    id := .registered 1
    name := "onlooker"
    priority := cachePriority
    respond := fun call asked =>
      match call with
      | .checkUrl .. => (.ok false, asked + 1)
      | call => (call.unimplemented, asked) }
  number := 1
  id_eq := rfl
  inert := ⟨fun _ _ _ _ _ => rfl, fun _ _ _ _ _ => trivial, fun _ _ _ => trivial⟩

def indifferent (name : String) (id : InstanceId) : Backend Nat :=
  (willing name 0 id).embed (fun _ => ()) fun asked _ => asked

theorem alike_indifferent (name : String) (n n' : Nat) :
    (newcomer n (indifferent name)).Alike onlooker.Same (newcomer n' (indifferent name)) :=
  ⟨rfl, rfl, fun _ _ _ _ => rfl, fun _ _ _ _ => trivial⟩

/-- A file is opened and closed, while another backend comes, and all are torn down. -/
def attended : List (Step Nat) :=
  [.request someFile.request, .register (indifferent "b"), .request (.close (.pack 0 0)), .request .tearDown]

theorem owners_of_toList {t : Session σ} {name : String} (handles : List FileHandle)
    (h : t.context.handles.toList = handles) (howners : ∀ handle ∈ handles, handle.owner ≠ name) :
    ∀ handle ∈ t.context.handles, handle.owner ≠ name := by
  subst h
  exact fun handle hmem => howners handle (Array.mem_toList_iff.mpr hmem)

/-- The onlooker is asked first about the file that is opened, and nothing comes of it. -/
theorem onlooker_unnoticed :
    let s := after .inProcess {} 0 [.register (indifferent "a")]
    let t := (s.step (.register fun _ => onlooker.backend)).2
    newcomer s.arrivals (fun _ => onlooker.backend) = onlooker.backend ∧ s.Unaware onlooker ∧
      (∀ step ∈ attended, step.Blind onlooker) ∧
      Along (fun t => ∀ handle ∈ t.context.handles, handle.owner ≠ onlooker.backend.name) attended s ∧
      (run attended t).2.context.world = 1 ∧
      (∀ (i : Nat) (step : Step Nat), attended[i]? = some step → step.inspects = false →
        (run attended t).1[i]? = (run attended s).1[i]?) ∧
      ∃ made made', (run attended s).2.context.calls = s.context.calls ++ made ∧
        (run attended t).2.context.calls = s.context.calls ++ made' ∧
        made'.filter (fun entry => entry.1 != onlooker.backend.id) =
          made.map fun entry => (entry.1.shift s.arrivals, entry.2) := by
  intro s t
  have hunaware : s.Unaware onlooker := by
    refine ⟨trivial, ?_, nofun⟩
    have hbackends : s.backends = [newcomer 0 (indifferent "a")] := rfl
    rw [hbackends]
    exact List.forall_mem_singleton.mpr (alike_indifferent "a" 0 0)
  have hblind : ∀ step ∈ attended, step.Blind onlooker := by
    simp only [attended, List.forall_mem_cons]
    exact ⟨trivial, fun n _ => alike_indifferent "b" n (n + 1), trivial, trivial, List.forall_mem_nil _⟩
  have howners :
      Along (fun t => ∀ handle ∈ t.context.handles, handle.owner ≠ onlooker.backend.name) attended s := by
    have hopened : ∀ handle ∈ [({ owner := "a", path := some "file" } : FileHandle)],
        handle.owner ≠ "onlooker" := by decide
    exact ⟨owners_of_toList [] (by cbv) nofun, owners_of_toList _ (by cbv) hopened,
      owners_of_toList _ (by cbv) hopened, owners_of_toList _ (by cbv) hopened,
      owners_of_toList _ (by cbv) hopened⟩
  have hasked : (run attended t).2.context.world = 1 := by cbv
  exact ⟨rfl, hunaware, hblind, howners, hasked,
    bystander_unnoticed .inProcess {} 0 [.register (indifferent "a")] attended onlooker
      (fun _ => onlooker.backend) rfl hunaware hblind howners⟩

end Session

end StorageDispatch
