import StorageDispatch.Proofs.Context.Accounts
import StorageDispatch.Proofs.Context.Lookup

set_option autoImplicit false

/-! # Operations on two URLs

Renaming and linking concern two URLs, and one backend has to serve both. The plugins of the two are looked up
one after the other and before anything is done (`JointLookup`); only if both are found and have one name, the
first of them is called.

**The result** is `PairOperation.serve_joint`: the operations go that way (`Joint`), in every context. Where they
are refused, no action is called, so what questions leave alone is as it was.
-/

namespace StorageDispatch

variable {σ : Type}

/-! ## One plugin for two URLs -/

/-- **How the plugin of two URLs is looked up** for an operation of a name: with the result, the calls that are
made, and the context that is left. -/
inductive JointLookup (name : String) (kind : Capability) (first second : String) (c : Context σ) :
    Except Error (Plugin σ) → List (InstanceId × String × Call) → Context σ → Prop
  /-- Nobody serves the first URL, and the second is not looked at. -/
  | firstLost {error : Error} {made : List (InstanceId × String × Call)} {d : Context σ}
      (hfirst : Lookup first kind c (.error error) made d) :
      JointLookup name kind first second c (.error error) made d
  | secondLost {source : Plugin σ} {error : Error} {made more : List (InstanceId × String × Call)}
      {d e : Context σ} (hfirst : Lookup first kind c (.ok source) made d)
      (hsecond : Lookup second kind d (.error error) more e) :
      JointLookup name kind first second c (.error error) (made ++ more) e
  /-- The two URLs are served under different names. -/
  | apart {source destination : Plugin σ} {made more : List (InstanceId × String × Call)} {d e : Context σ}
      (hfirst : Lookup first kind c (.ok source) made d) (hsecond : Lookup second kind d (.ok destination) more e)
      (hname : source.name ≠ destination.name) :
      JointLookup name kind first second c (.error (.crossBackend name source.name destination.name))
        (made ++ more) e
  | joined {source destination : Plugin σ} {made more : List (InstanceId × String × Call)} {d e : Context σ}
      (hfirst : Lookup first kind c (.ok source) made d) (hsecond : Lookup second kind d (.ok destination) more e)
      (hname : source.name = destination.name) :
      JointLookup name kind first second c (.ok source) (made ++ more) e

namespace JointLookup

variable {name : String} {kind : Capability} {first second : String} {c d : Context σ}
  {found : Except Error (Plugin σ)} {made : List (InstanceId × String × Call)}

/-- The calls of a joint lookup are questions, but for those that tear modules down again. -/
theorem asks (h : JointLookup name kind first second c found made d) {entry : InstanceId × String × Call}
    (hentry : entry ∈ made) : (∃ url, entry.2.2 = .checkUrl url kind) ∨ entry.2.2 = .teardown := by
  have hone {url : String} {c d : Context σ} {found : Except Error (Plugin σ)}
      {made : List (InstanceId × String × Call)} (h : Lookup url kind c found made d) (hentry : entry ∈ made) :
      (∃ url, entry.2.2 = .checkUrl url kind) ∨ entry.2.2 = .teardown :=
    (h.asks hentry).imp_left fun hasks => ⟨url, hasks⟩
  cases h with
  | firstLost hfirst => exact hone hfirst hentry
  | secondLost hfirst hsecond | apart hfirst hsecond | joined hfirst hsecond =>
      exact (List.mem_append.mp hentry).elim (hone hfirst) (hone hsecond)

theorem not_isAction (h : JointLookup name kind first second c found made d) {entry : InstanceId × String × Call}
    (hentry : entry ∈ made) : entry.2.2.isAction = false := by
  rcases h.asks hentry with ⟨url, hasks⟩ | htearsDown
  · rw [hasks]
    rfl
  · rw [htearsDown]
    rfl

/-- If no two plugins have one name, the plugin that is found is the first to claim either URL. -/
theorem of_ok {plugin : Plugin σ} (h : JointLookup name kind first second c (.ok plugin) made d)
    (hnames : (d.registry.plugins.map Plugin.name).Nodup) :
    plugin ∈ d.registry.plugins ∧ ∃ asked e more, Lookup first kind c (.ok plugin) asked e ∧
      Lookup second kind e (.ok plugin) more d ∧ made = asked ++ more := by
  cases h with
  | joined hfirst hsecond hname =>
      obtain ⟨-, hfirst_mem, hknown, -⟩ := hfirst.of_ok
      obtain ⟨-, hsecond_mem, -⟩ := hsecond.of_ok
      rw [← hsecond.registry_eq hknown] at hfirst_mem
      have hsame := List.inj_on_of_nodup_map hnames hfirst_mem hsecond_mem hname
      rw [← hsame] at hsecond
      exact ⟨hfirst_mem, _, _, _, hfirst, hsecond, rfl⟩

/-- A joint lookup that tears nothing down changes nothing that no plugin changes when it is asked. -/
theorem view_eq {τ : Type} (view : σ → τ) (h : JointLookup name kind first second c found made d)
    (hup : ∀ entry ∈ made, entry.2.2 ≠ .teardown)
    (hasked : ∀ plugin ∈ d.registry.plugins, ∀ url world,
      view (plugin.backend.respond (.checkUrl url kind) world).2 = view world) : view d.world = view c.world := by
  have hboth {source : Plugin σ} {found : Except Error (Plugin σ)} {made more : List (InstanceId × String × Call)}
      {e : Context σ} (hfirst : Lookup first kind c (.ok source) made e)
      (hsecond : Lookup second kind e found more d) (hup : ∀ entry ∈ made ++ more, entry.2.2 ≠ .teardown) :
      view d.world = view c.world := by
    obtain ⟨hup, hup'⟩ := List.forall_mem_append.mp hup
    -- The second lookup finds the plugins known.
    have hsame := hsecond.registry_eq hfirst.of_ok.2.2.1
    refine (hsecond.view_eq view hup' fun plugin hmem => hasked plugin hmem second).trans ?_
    refine hfirst.view_eq view hup fun plugin hmem => ?_
    rw [← hsame] at hmem
    exact hasked plugin hmem first
  cases h with
  | firstLost hfirst => exact hfirst.view_eq view hup fun plugin hmem => hasked plugin hmem first
  | secondLost hfirst hsecond | apart hfirst hsecond | joined hfirst hsecond => exact hboth hfirst hsecond hup

end JointLookup

namespace Context

/-- Neither URL is empty, and both are claimed, the second after the first, by plugins of one name. -/
def Agreed (kind : Capability) (first second : String) (c : Context σ) : Prop :=
  first ≠ "" ∧ second ≠ "" ∧ ∃ source destination d e,
    (Registry.findFor first kind).run.run c = (.ok source, d) ∧
      (Registry.findFor second kind).run.run d = (.ok destination, e) ∧ source.name = destination.name

theorem resolveUrl_empty (operation : Operation) :
    (resolveUrl operation "" : Engine σ (Plugin σ)) = throw .emptyUrl := rfl

theorem resolveUrl_of_ne {url : String} (h : url ≠ "") (operation : Operation) :
    (resolveUrl operation url : Engine σ (Plugin σ)) = Registry.findFor url operation.capability :=
  if_neg (by simpa using h)

/-- A URL that is resolved is not empty, and was found. -/
theorem resolveUrl_eq_ok {operation : Operation} {url : String} {c d : Context σ} {plugin : Plugin σ} :
    (resolveUrl operation url).run.run c = (.ok plugin, d) ↔
      url ≠ "" ∧ (Registry.findFor url operation.capability).run.run c = (.ok plugin, d) := by
  by_cases hurl : url = ""
  · rw [hurl, resolveUrl_empty, run_throwE]
    exact ⟨nofun, fun h => absurd rfl h.1⟩
  · rw [resolveUrl_of_ne hurl]
    exact ⟨fun h => ⟨hurl, h⟩, And.right⟩

/-- The context in which the plugins of an operation are looked up: the log has told that it begins. -/
def begun (operation : Operation) (url : String) (c : Context σ) : Context σ :=
  ((log (.urlSpan operation url)).run c).2

/-- **Selecting a plugin for two URLs is a joint lookup.** -/
theorem selectPair_looks (operation : Operation) (first second : String) (c : Context σ) :
    ∃ found made d, JointLookup operation.name operation.capability first second c found made d ∧
      Does (selectPair operation first second) c found made d := by
  obtain ⟨begun, hbegun⟩ := (Does.log (ε := Error) (.urlSpan operation first) c).goOn
  obtain ⟨found, made, d, hfirst, hdoes⟩ := resolveUrl_looks operation first c begun
  cases found with
  | error error => exact ⟨_, _, _, .firstLost hfirst, hbegun (hdoes.bind_error _)⟩
  | ok source =>
      obtain ⟨later, hlater⟩ := hdoes.goOn
      obtain ⟨found, more, e, hsecond, hdoes⟩ := resolveUrl_looks operation second d later
      cases found with
      | error error => exact ⟨_, _, _, .secondLost hfirst hsecond, hbegun (hlater (hdoes.bind_error _))⟩
      | ok destination =>
          by_cases hname : source.name = destination.name
          · refine ⟨_, _, _, .joined hfirst hsecond hname, hbegun (hlater ?_)⟩
            rw [← List.append_nil more]
            refine hdoes.bind fun events => ?_
            rw [if_pos hname]
            exact .pure _ _
          · refine ⟨_, _, _, .apart hfirst hsecond hname, hbegun (hlater ?_)⟩
            rw [← List.append_nil more]
            refine hdoes.bind fun events => ?_
            rw [if_neg hname]
            exact .throw _ _

/-- A plugin is selected if and only if both URLs agree on it. -/
theorem selectPair_eq_ok {operation : Operation} {first second : String} {c : Context σ} :
    (∃ plugin, ((selectPair operation first second).run.run c).1 = .ok plugin) ↔
      Agreed operation.capability first second (c.begun operation first) := by
  have hrun : (selectPair operation first second).run.run c =
      (resolveUrl operation first >>= fun source => resolveUrl operation second >>= fun destination =>
        if source.name = destination.name then pure source
        else throw (.crossBackend operation.name source.name destination.name)).run.run
          (c.begun operation first) := rfl
  rw [hrun]
  constructor
  · rintro ⟨plugin, hplugin⟩
    obtain ⟨source, d, hfirst, hrest⟩ := run_bindE_ok (Prod.ext hplugin rfl)
    obtain ⟨destination, e, hsecond, hrest⟩ := run_bindE_ok hrest
    obtain ⟨hfirst_ne, hfirst⟩ := resolveUrl_eq_ok.mp hfirst
    obtain ⟨hsecond_ne, hsecond⟩ := resolveUrl_eq_ok.mp hsecond
    by_cases hname : source.name = destination.name
    · exact ⟨hfirst_ne, hsecond_ne, source, destination, d, e, hfirst, hsecond, hname⟩
    · rw [if_neg hname] at hrest
      cases hrest
  · rintro ⟨hfirst_ne, hsecond_ne, source, destination, d, e, hfirst, hsecond, hname⟩
    refine ⟨source, ?_⟩
    rw [run_bindE, resolveUrl_eq_ok.mpr ⟨hfirst_ne, hfirst⟩]
    dsimp only
    rw [run_bindE, resolveUrl_eq_ok.mpr ⟨hsecond_ne, hsecond⟩]
    dsimp only
    rw [if_pos hname]
    rfl

/-- The plugin that is selected is called, and nobody else. -/
theorem dispatchPair_does (request : PairRequest) {outcome : request.call.Answer → Except Error Unit}
    (hreply : ∀ answer, tag request.operation (request.accept answer) = outcome answer) {c d : Context σ}
    {plugin : Plugin σ} {made : List (InstanceId × String × Call)}
    (h : Does (selectPair request.operation request.first request.second) c (.ok plugin) made d) :
    Does (dispatchPair request) c (outcome (plugin.backend.respond request.call d.world).1)
      (made ++ [(plugin.id, plugin.name, request.call)])
      (d.inWorld (plugin.backend.respond request.call d.world).2) := by
  unfold Does
  rw [run_dispatchPair, ← hreply]
  refine Does.counted _ (h.bind fun events => .timedEngine _ _ fun later => ?_)
  exact (Does.call plugin.backend request.call _).bind fun _ => .fromOutcome _ _

theorem dispatchPair_does_error {request : PairRequest} {c d : Context σ} {error : Error}
    {made : List (InstanceId × String × Call)}
    (h : Does (selectPair request.operation request.first request.second) c (.error error) made d) :
    Does (dispatchPair request) c (.error error) made d := by
  unfold Does
  rw [run_dispatchPair]
  exact Does.counted _ (h.bind_error _)

end Context

/-! ## The public operations -/

inductive PairOperation
  | rename (source destination : String)
  | symlink (target link : String)

namespace PairOperation

open Context

def serve : PairOperation → Engine σ Unit
  | rename source destination => Context.rename source destination
  | symlink target link => Context.symlink target link

def first : PairOperation → String
  | rename url _ | symlink url _ => url

def second : PairOperation → String
  | rename _ url | symlink _ url => url

def operation : PairOperation → Operation
  | rename .. => .rename
  | symlink .. => .symlink

def name : PairOperation → String
  | rename .. => "rename"
  | symlink .. => "symlink"

def kind : PairOperation → Capability
  | rename .. => .rename
  | symlink .. => .symlink

@[reducible] def action : PairOperation → Call
  | rename source destination => .rename source destination
  | symlink target link => .symlink target link

/-- What the caller is told of the answer: an error of the backend comes under the name of the operation. -/
def outcome (op : PairOperation) (answer : op.action.Answer) : Except Error Unit :=
  match op, answer with
  | rename .., .ok () | symlink .., .ok () => .ok ()
  | rename .., .error source => .error (.backend "rename" source)
  | symlink .., .error source => .error (.backend "symlink" source)

/-- **How an operation on two URLs goes**: with its result, the calls that it makes, and the context that it
leaves. -/
inductive Joint (op : PairOperation) (c : Context σ) :
    Except Error Unit → List (InstanceId × String × Call) → Context σ → Prop
  | refused {error : Error} {made : List (InstanceId × String × Call)} {d : Context σ}
      (h : JointLookup op.name op.kind op.first op.second c (.error error) made d) :
      Joint op c (.error error) made d
  /-- The plugin of the first URL is called, once and with both URLs in order. -/
  | served {plugin : Plugin σ} {made : List (InstanceId × String × Call)} {d : Context σ}
      (h : JointLookup op.name op.kind op.first op.second c (.ok plugin) made d) :
      Joint op c (op.outcome (plugin.backend.respond op.action d.world).1)
        (made ++ [(plugin.id, plugin.name, op.action)])
        (d.inWorld (plugin.backend.respond op.action d.world).2)

/-- A plugin that was selected is called, and its answer is the outcome. -/
theorem serve_does (op : PairOperation) {c d : Context σ} {plugin : Plugin σ}
    {made : List (InstanceId × String × Call)}
    (h : Does (selectPair op.operation op.first op.second) c (.ok plugin) made d) :
    Does op.serve c (op.outcome (plugin.backend.respond op.action d.world).1)
      (made ++ [(plugin.id, plugin.name, op.action)])
      (d.inWorld (plugin.backend.respond op.action d.world).2) := by
  -- Each operation is a request of the dispatcher, and tells its caller what was answered.
  cases op with
  | rename source destination =>
      exact dispatchPair_does (.rename source destination) (by rintro (_ | _) <;> rfl) h
  | symlink target link =>
      exact dispatchPair_does (.symlink target link) (by rintro (_ | _) <;> rfl) h

/-- An operation for which no plugin was selected ends there. -/
theorem serve_does_error (op : PairOperation) {c d : Context σ} {error : Error}
    {made : List (InstanceId × String × Call)}
    (h : Does (selectPair op.operation op.first op.second) c (.error error) made d) :
    Does op.serve c (.error error) made d := by
  cases op <;> exact dispatchPair_does_error h

/-- The action of an operation is one. -/
theorem isAction_action (op : PairOperation) : op.action.isAction = true := by cases op <;> rfl

open Context in
/-- **Operations on two URLs.** Both URLs are looked up, the first before the second, and the error of the first
lookup that fails is the result. If and only if the URLs agree, an action is called: once, on the plugin of the
first URL, with both URLs in order. If they do not agree, what no plugin changes when it is asked is left as it
was, unless a discovery failed and tore its modules down. If no two plugins have one name, the plugin that is
called is the first to claim either URL. -/
theorem serve_joint (op : PairOperation) (c : Context σ) :
    ∃ result made d, Joint op c result made d ∧ Does op.serve c result made d ∧
      (Agreed op.kind op.first op.second (c.begun op.operation op.first) →
        ∃ plugin : Plugin σ, made.filter (·.2.2.isAction) = [(plugin.id, plugin.name, op.action)]) ∧
      (¬ Agreed op.kind op.first op.second (c.begun op.operation op.first) →
        (∃ error, result = .error error ∧
          JointLookup op.name op.kind op.first op.second c (.error error) made d) ∧
        made.filter (·.2.2.isAction) = [] ∧
        ((∀ entry ∈ made, entry.2.2 ≠ .teardown) → ∀ {τ : Type} (view : σ → τ),
          (∀ plugin ∈ d.registry.plugins, ∀ url world,
            view (plugin.backend.respond (.checkUrl url op.kind) world).2 = view world) →
          view d.world = view c.world)) ∧
      ((d.registry.plugins.map Plugin.name).Nodup →
        Agreed op.kind op.first op.second (c.begun op.operation op.first) →
        ∃ plugin ∈ d.registry.plugins, ∃ asked e more f,
          Lookup op.first op.kind c (.ok plugin) asked e ∧ Lookup op.second op.kind e (.ok plugin) more f ∧
            made = asked ++ more ++ [(plugin.id, plugin.name, op.action)]) := by
  obtain ⟨found, made, d, hlookup, hdoes⟩ := selectPair_looks op.operation op.first op.second c
  have hname : op.operation.name = op.name := by cases op <;> rfl
  have hkind : op.operation.capability = op.kind := by cases op <;> rfl
  have hagreed : (∃ plugin, found = .ok plugin) ↔
      Agreed op.kind op.first op.second (c.begun op.operation op.first) := by
    rw [← hkind, ← selectPair_eq_ok, hdoes.result_eq]
  rw [hname, hkind] at hlookup
  have hquiet : made.filter (·.2.2.isAction) = [] :=
    List.filter_eq_nil_iff.mpr fun entry hentry => by simpa using hlookup.not_isAction hentry
  -- The lookup calls no action itself, so its outcome decides whether there is one.
  cases found with
  | error error =>
      have hapart : ¬ Agreed op.kind op.first op.second (c.begun op.operation op.first) := by
        rw [← hagreed]
        rintro ⟨plugin, ⟨⟩⟩
      refine ⟨_, _, _, .refused hlookup, op.serve_does_error hdoes, fun h => absurd h hapart, fun _ => ?_,
        fun _ h => absurd h hapart⟩
      exact ⟨⟨error, rfl, hlookup⟩, hquiet, fun hup τ view hasked => hlookup.view_eq view hup hasked⟩
  | ok plugin =>
      refine ⟨_, _, _, .served hlookup, op.serve_does hdoes, fun _ => ⟨plugin, ?_⟩,
        fun h => absurd (hagreed.mp ⟨plugin, rfl⟩) h, fun hnames _ => ?_⟩
      · rw [List.filter_append, hquiet, List.nil_append]
        exact List.filter_cons_of_pos op.isAction_action
      · obtain ⟨hmem, asked, e, more, hfirst, hsecond, hmade⟩ := hlookup.of_ok hnames
        exact ⟨plugin, hmem, asked, e, more, d, hfirst, hsecond, by rw [hmade]⟩

end PairOperation

end StorageDispatch
