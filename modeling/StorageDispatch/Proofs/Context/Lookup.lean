import StorageDispatch.Proofs.Context.Routing
import StorageDispatch.Proofs.Registry.Discovery

set_option autoImplicit false

/-! # Lookups in any phase

A registry may have to discover its plugins before it can ask them, and a discovery may fail or have failed
before. `Listed` says how a lookup comes by the list of plugins, whatever the phase, and `Lookup` how it ends:
the URL is empty, there is no list, or the plugins of the list are asked in turn.

**The result** is `resolveUrl_looks`: looking for the plugin of a URL is such a lookup, in every context.
-/

namespace StorageDispatch

variable {σ : Type}

/-! ## The list of plugins -/

/-- **How a lookup comes by the plugins**: with the list or the reason why there is none, the calls that are
made, and the context that is left. -/
inductive Listed (c : Context σ) :
    Except Error (List (Plugin σ)) → List (InstanceId × String × Call) → Context σ → Prop
  | known (h : c.registry.phase.isKnown) : Listed c (.ok c.registry.plugins) [] c
  /-- A failed discovery is not tried again. -/
  | failed {error : PluginError} (h : c.registry.phase = .failed error) :
      Listed c (.error (.discovery error)) [] c
  /-- The first lookup discovers. -/
  | first {result : Except Error (List (Plugin σ))} {made : List (InstanceId × String × Call)}
      {d : Context σ} (h : c.registry.phase = .uninitialized) (hdiscovered : Discovered c result made d) :
      Listed c result made d

namespace Listed

variable {c d : Context σ} {result : Except Error (List (Plugin σ))} {plugins : List (Plugin σ)}
  {made : List (InstanceId × String × Call)} {error : Error}

/-- The calls that are made tear modules down. -/
theorem isTeardown (h : Listed c result made d) {entry : InstanceId × String × Call} (hentry : entry ∈ made) :
    entry.2.2 = .teardown := by
  cases h with
  | known | failed => cases hentry
  | first _ hdiscovered =>
      cases hdiscovered with
      | ready | unlistable => cases hentry
      | failed =>
          obtain ⟨module, -, rfl⟩ := List.mem_map.mp hentry
          rfl

/-- With a list, nobody was called, and nothing but the registry has changed, which knows its plugins. -/
theorem of_ok (h : Listed c (.ok plugins) made d) :
    made = [] ∧ d = { c with registry := d.registry } ∧ d.registry.plugins = plugins ∧
      d.registry.phase.isKnown := by
  cases h with
  | known h => exact ⟨rfl, rfl, rfl, h⟩
  | first _ hdiscovered =>
      cases hdiscovered with
      | ready => exact ⟨rfl, rfl, rfl, trivial⟩

/-- Without a list, the discovery has failed. -/
theorem phase_of_error (h : Listed c (.error error) made d) : ∃ cause, d.registry.phase = .failed cause := by
  cases h with
  | failed h => exact ⟨_, h⟩
  | first _ hdiscovered => cases hdiscovered <;> exact ⟨_, rfl⟩

/-- Without a list, the registry does not know its plugins. -/
theorem not_known (h : Listed c (.error error) made d) : ¬ d.registry.phase.isKnown := by
  obtain ⟨cause, hphase⟩ := h.phase_of_error
  rw [hphase]
  exact id

/-- A discovery fails for a reason of its own. -/
theorem eq_discovery (h : Listed c (.error error) made d) : ∃ cause, error = .discovery cause := by
  cases h with
  | failed => exact ⟨_, rfl⟩
  | first _ hdiscovered => cases hdiscovered <;> exact ⟨_, rfl⟩

theorem eq_of_known (h : Listed c result made d) (hknown : c.registry.phase.isKnown) : d = c := by
  cases h with
  | known | failed => rfl
  | first h =>
      rw [h] at hknown
      exact hknown.elim

/-- The world is as it was if no module was torn down. -/
theorem world_eq (h : Listed c result made d) (hup : ∀ entry ∈ made, entry.2.2 ≠ .teardown) :
    d.world = c.world := by
  have hmade : made = [] := List.eq_nil_iff_forall_not_mem.mpr fun entry hentry =>
    hup entry hentry (h.isTeardown hentry)
  cases h with
  | known | failed => rfl
  | first _ hdiscovered =>
      cases hdiscovered with
      | ready | unlistable => rfl
      | failed =>
          rw [List.map_eq_nil_iff.mp hmade]
          rfl

/-- Handles and tables have no part in it. -/
theorem keeps (h : Listed c result made d) :
    d.handles = c.handles ∧ ∀ resource, d.table resource = c.table resource := by
  cases h with
  | known | failed => exact ⟨rfl, fun _ => rfl⟩
  | first _ hdiscovered =>
      cases hdiscovered <;> refine ⟨rfl, fun resource => ?_⟩ <;> cases resource <;> rfl

end Listed

open Context in
/-- **Every lookup comes by the plugins in one of these ways.** The record of events has no part in it. -/
theorem Registry.discover_listed (c : Context σ) (events : List Event) :
    ∃ result made d, Listed c result made d ∧ Does Registry.discover (c.recording events) result made d := by
  have hknown (h : c.registry.phase.isKnown) :
      ∃ result made d, Listed c result made d ∧ Does Registry.discover (c.recording events) result made d :=
    ⟨_, _, _, .known h, .discover_recording h rfl events⟩
  cases hphase : c.registry.phase with
  | ready | tornDown => exact hknown (by rw [hphase]; trivial)
  | failed error =>
      refine ⟨_, _, _, .failed hphase, (Does.of_run ?_).congr fun _ => rfl⟩
      unfold Registry.discover
      rw [run_get_bindE]
      dsimp only
      rw [show (c.recording events).registry.phase = .failed error from hphase]
      rfl
  | uninitialized =>
      have hfirst : (c.recording events).registry.phase = .uninitialized := hphase
      obtain ⟨result, made, d, hdiscovered, hdoes⟩ := Registry.discover_discovered hfirst
      obtain ⟨e, hdiscovered, hsame⟩ := hdiscovered.of_recording
      exact ⟨result, made, e, .first hphase hdiscovered, hdoes.congr hsame⟩

/-! ## The plugin of a URL -/

/-- **How the plugin of a URL is looked up**, from a context in any phase: with the result, the calls that are
made, and the context that is left. -/
inductive Lookup (url : String) (kind : Capability) (c : Context σ) :
    Except Error (Plugin σ) → List (InstanceId × String × Call) → Context σ → Prop
  /-- An empty URL is not looked up at all. -/
  | emptyUrl (hurl : url = "") : Lookup url kind c (.error (.invalidArgument "empty url")) [] c
  /-- There are no plugins to ask. -/
  | unlisted (hurl : url ≠ "") {error : Error} {made : List (InstanceId × String × Call)} {d : Context σ}
      (hlisted : Listed c (.error error) made d) : Lookup url kind c (.error error) made d
  /-- The plugins are asked in turn. -/
  | searched (hurl : url ≠ "") {plugins : List (Plugin σ)} {d : Context σ}
      {found : Except Error (Plugin σ)} {made : List (InstanceId × String × Call)} {world : σ}
      (hlisted : Listed c (.ok plugins) [] d) (hsearch : Search url kind plugins d.world found made world) :
      Lookup url kind c found made (d.inWorld world)

/-- **A plugin cannot tell whether it serves a URL**: the plugins are asked in turn, those before it decline, and it
fails. Nobody is asked after it. -/
def Undecided (url : String) (kind : Capability) (c : Context σ) (source : BackendError)
    (made : List (InstanceId × String × Call)) : Prop :=
  ∃ before plugin after d, Listed c (.ok (before ++ plugin :: after)) [] d ∧
    Declined url kind before d.world ∧
    (plugin.backend.respond (.checkUrl url kind) (afterAsking url kind before d.world)).1 = .error source ∧
    made = asking url kind (before ++ [plugin])

/-- The calls of a search ask about its URL. -/
theorem Search.isQuestion {url : String} {kind : Capability} {plugins : List (Plugin σ)} {world world' : σ}
    {found : Except Error (Plugin σ)} {made : List (InstanceId × String × Call)}
    (h : Search url kind plugins world found made world') {entry : InstanceId × String × Call}
    (hentry : entry ∈ made) : entry.2.2 = .checkUrl url kind := by
  cases h <;> obtain ⟨plugin, -, rfl⟩ := List.mem_map.mp hentry <;> rfl

/-- A search finds one of the plugins. -/
theorem Search.mem {url : String} {kind : Capability} {plugins : List (Plugin σ)} {world world' : σ}
    {plugin : Plugin σ} {made : List (InstanceId × String × Call)}
    (h : Search url kind plugins world (.ok plugin) made world') : plugin ∈ plugins := by
  cases h with
  | found before hsplit =>
      rw [hsplit]
      exact List.mem_append_right _ List.mem_cons_self

/-- If the first plugin claims the URL, it is found. -/
theorem Search.eq_ok_of_claims {url : String} {kind : Capability} {plugin : Plugin σ} {others : List (Plugin σ)}
    {world world' : σ} {found : Except Error (Plugin σ)} {made : List (InstanceId × String × Call)}
    (hclaims : (plugin.backend.respond (.checkUrl url kind) world).1 = .ok true)
    (h : Search url kind (plugin :: others) world found made world') : found = .ok plugin := by
  cases h with
  | unclaimed hdeclined => exact nomatch hclaims.symm.trans hdeclined.1
  | failed before hsplit hbefore hfails =>
      -- Nobody is asked before the first plugin, and it does not decline.
      cases before with
      | nil =>
          cases hsplit
          exact nomatch hclaims.symm.trans hfails
      | cons =>
          cases hsplit
          exact nomatch hclaims.symm.trans hbefore.1
  | found before hsplit hbefore =>
      cases before with
      | nil =>
          cases hsplit
          rfl
      | cons =>
          cases hsplit
          exact nomatch hclaims.symm.trans hbefore.1

/-- Asking plugins changes nothing that none of them changes when it is asked. -/
theorem view_afterAsking {τ : Type} (view : σ → τ) {url : String} {kind : Capability} {plugins : List (Plugin σ)}
    (h : ∀ plugin ∈ plugins, ∀ world, view (plugin.backend.respond (.checkUrl url kind) world).2 = view world)
    (world : σ) : view (afterAsking url kind plugins world) = view world := by
  induction plugins generalizing world with
  | nil => rfl
  | cons plugin plugins ih =>
      obtain ⟨hfirst, hrest⟩ := List.forall_mem_cons.mp h
      exact (ih hrest _).trans (hfirst world)

/-- A search changes nothing that no plugin changes when it is asked. -/
theorem Search.view_eq {τ : Type} (view : σ → τ) {url : String} {kind : Capability} {plugins : List (Plugin σ)}
    {world world' : σ} {found : Except Error (Plugin σ)} {made : List (InstanceId × String × Call)}
    (h : Search url kind plugins world found made world')
    (hasked : ∀ plugin ∈ plugins, ∀ world,
      view (plugin.backend.respond (.checkUrl url kind) world).2 = view world) :
    view world' = view world := by
  have hfront {before after : List (Plugin σ)} {plugin : Plugin σ} (hsplit : plugins = before ++ plugin :: after) :
      view (afterAsking url kind (before ++ [plugin]) world) = view world := by
    refine view_afterAsking view (fun other hother => hasked other ?_) world
    rw [hsplit, List.append_cons]
    exact List.mem_append_left _ hother
  cases h with
  | unclaimed => exact view_afterAsking view hasked world
  | failed before hsplit => exact hfront hsplit
  | found before hsplit => exact hfront hsplit

namespace Lookup

variable {url : String} {kind : Capability} {c d : Context σ} {found : Except Error (Plugin σ)}
  {plugin : Plugin σ} {made : List (InstanceId × String × Call)} {entry : InstanceId × String × Call}

/-- The calls of a lookup ask about its URL, but for those that tear modules down again. -/
theorem asks (h : Lookup url kind c found made d) (hentry : entry ∈ made) :
    entry.2.2 = .checkUrl url kind ∨ entry.2.2 = .teardown := by
  cases h with
  | emptyUrl => cases hentry
  | unlisted _ hlisted => exact .inr (hlisted.isTeardown hentry)
  | searched _ _ hsearch => exact .inl (hsearch.isQuestion hentry)

/-- What a lookup finds is one of the plugins that are known afterwards. -/
theorem of_ok (h : Lookup url kind c (.ok plugin) made d) :
    url ≠ "" ∧ plugin ∈ d.registry.plugins ∧ d.registry.phase.isKnown ∧
      ∀ entry ∈ made, entry.2.2 = .checkUrl url kind := by
  cases h with
  | searched hurl hlisted hsearch =>
      obtain ⟨-, -, hplugins, hknown⟩ := hlisted.of_ok
      have hmem := hsearch.mem
      rw [← hplugins] at hmem
      exact ⟨hurl, hmem, hknown, fun entry => hsearch.isQuestion⟩

/-- A lookup fails with a backend's error only if a plugin cannot tell, and names the capability. -/
theorem undecided {tag : String} {source : BackendError} (h : Lookup url kind c (.error (.backend tag source)) made d) :
    tag = kind.name ∧ Undecided url kind c source made := by
  cases h with
  | unlisted _ hlisted =>
      obtain ⟨cause, heq⟩ := hlisted.eq_discovery
      cases heq
  | searched _ hlisted hsearch =>
      cases hsearch with
      | failed before hsplit hbefore hfails =>
          rw [hsplit] at hlisted
          exact ⟨rfl, before, _, _, _, hlisted, hbefore, hfails, rfl⟩

/-- If the plugins are known, they stay the same. -/
theorem registry_eq (h : Lookup url kind c found made d) (hknown : c.registry.phase.isKnown) :
    d.registry = c.registry := by
  cases h with
  | emptyUrl => rfl
  | unlisted _ hlisted => rw [hlisted.eq_of_known hknown]
  | @searched _ plugins d _ _ world hlisted =>
      have hsame : d = c := hlisted.eq_of_known hknown
      rw [hsame]
      rfl

/-- A lookup that tears nothing down changes nothing that no plugin changes when it is asked. -/
theorem view_eq {τ : Type} (view : σ → τ) (h : Lookup url kind c found made d)
    (hup : ∀ entry ∈ made, entry.2.2 ≠ .teardown)
    (hasked : ∀ plugin ∈ d.registry.plugins, ∀ world,
      view (plugin.backend.respond (.checkUrl url kind) world).2 = view world) : view d.world = view c.world := by
  cases h with
  | emptyUrl => rfl
  | unlisted _ hlisted => rw [hlisted.world_eq hup]
  | searched _ hlisted hsearch =>
      obtain ⟨-, hleft, hplugins, -⟩ := hlisted.of_ok
      rw [← hplugins] at hsearch
      refine (hsearch.view_eq view hasked).trans ?_
      rw [hleft]

end Lookup

namespace Context

/-- **Looking for the plugin of a URL is a lookup**, in every context. -/
theorem resolveUrl_looks (operation : Operation) (url : String) (c : Context σ) (events : List Event) :
    ∃ found made d, Lookup url operation.capability c found made d ∧
      Does (resolveUrl operation url) (c.recording events) found made d := by
  unfold resolveUrl
  by_cases hurl : url = ""
  · refine ⟨_, _, _, .emptyUrl hurl, ?_⟩
    rw [hurl]
    exact (Does.throw Error.emptyUrl (c.recording events)).congr fun _ => rfl
  · rw [if_neg (by simpa using hurl)]
    obtain ⟨result, made, d, hlisted, hdoes⟩ := Registry.discover_listed c events
    cases result with
    | error error => exact ⟨_, _, _, .unlisted hurl hlisted, hdoes.bind_error _⟩
    | ok plugins =>
        obtain ⟨rfl, -⟩ := hlisted.of_ok
        obtain ⟨found, asked, world, hsearch⟩ := exists_search url operation.capability plugins d.world
        refine ⟨_, _, _, .searched hurl hlisted hsearch, ?_⟩
        exact hdoes.bind fun later => firstClaiming_does (c := d.recording later) hsearch

/-- An operation on a URL goes on with one certain record of events, with which its plugin is looked for: it is
called, or the caller is told why there is none. -/
theorem dispatchUrl_goOn {α : Type} (request : UrlRequest α) (c : Context σ) :
    ∃ events : List Event,
      (∀ {error : Error} {made : List (InstanceId × String × Call)} {d : Context σ},
        Does (resolveUrl request.operation request.url) (c.recording events) (.error error) made d →
          Does (dispatchUrl request) c (.error error) made d) ∧
      ∀ {plugin : Plugin σ} {made : List (InstanceId × String × Call)} {d : Context σ},
        Does (resolveUrl request.operation request.url) (c.recording events) (.ok plugin) made d →
          Does (dispatchUrl request) c
            (tag request.operation (request.accept (plugin.backend.respond request.call d.world).1))
            (made ++ [(plugin.id, plugin.name, request.call)])
            (d.inWorld (plugin.backend.respond request.call d.world).2) := by
  obtain ⟨begun, hbegun⟩ := (Does.log (.urlSpan request.operation request.url) c).goOn
  refine ⟨begun, fun hlost => hbegun ?_, fun {plugin made d} hfound => hbegun ?_⟩
  · exact .counted _ (hlost.bind_error _)
  · exact .counted _ (hfound.bind fun events => action_does request plugin (d.recording events))

end Context

end StorageDispatch
