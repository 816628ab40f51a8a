import StorageDispatch.Proofs.Context.Routing
import StorageDispatch.Proofs.Registry.Moves
import StorageDispatch.Proofs.Registry.Order

set_option autoImplicit false

/-! # Backends that come late

A backend that is registered when the plugins are known takes its place among them (`exists_place`), and all
others keep theirs. If every plugin has made up its mind about a URL (`Plugin.Settled`), then a lookup is
decided by the first one that does not decline it (`decider?`), so a latecomer changes its result only by
becoming the first.

**The result** is `findFor_register`: a lookup after the registration comes to what it came to before, unless
the latecomer does not decline and stands before the plugin that decided.
-/

namespace StorageDispatch

variable {σ : Type}

/-! ## Who decides -/

namespace Plugin

variable (url : String) (kind : Capability) (world : σ)

def verdict (plugin : Plugin σ) : Reply Bool := (plugin.backend.respond (.checkUrl url kind) world).1

/-- What a lookup comes to if this plugin decides: it has claimed the URL, or failed. -/
def decision (plugin : Plugin σ) : Except Error (Plugin σ) :=
  match plugin.verdict url kind world with
  | .ok _ => .ok plugin
  | .error source => .error (.backend kind.name source)

/-- **A plugin that has made up its mind**: what it answers about a URL is the same in every world. -/
def Settled (plugin : Plugin σ) : Prop :=
  ∀ url kind world world', plugin.verdict url kind world' = plugin.verdict url kind world

end Plugin

section Deciding

variable (url : String) (kind : Capability) (world : σ)

/-- The plugin that decides about a URL: the first that does not decline. -/
def decider? (plugins : List (Plugin σ)) : Option (Plugin σ) :=
  plugins.find? fun plugin => plugin.verdict url kind world ≠ .ok false

def decided : Option (Plugin σ) → Except Error (Plugin σ)
  | some plugin => plugin.decision url kind world
  | none => .error (.protocolNotSupported kind.name url)

end Deciding

section Search

variable {url : String} {kind : Capability} {world : σ} {plugins before after : List (Plugin σ)}
  {plugin newcomer : Plugin σ}

theorem decider?_eq_none_iff :
    decider? url kind world plugins = none ↔
      ∀ plugin ∈ plugins, plugin.verdict url kind world = .ok false := by
  simp [decider?]

theorem decider?_append :
    decider? url kind world (before ++ after) =
      (decider? url kind world before).or (decider? url kind world after) := List.find?_append

theorem decider?_cons_of_declines (h : plugin.verdict url kind world = .ok false) :
    decider? url kind world (plugin :: plugins) = decider? url kind world plugins :=
  List.find?_cons_of_neg (by simpa using h)

theorem decider?_cons_of_ne (h : plugin.verdict url kind world ≠ .ok false) :
    decider? url kind world (plugin :: plugins) = some plugin := List.find?_cons_of_pos (by simpa using h)

theorem mem_of_decider? (h : decider? url kind world plugins = some plugin) : plugin ∈ plugins :=
  List.mem_of_find?_eq_some h

/-- A plugin that is found has decided. -/
theorem decided_eq_ok (h : decided url kind world (decider? url kind world plugins) = .ok plugin) :
    decider? url kind world plugins = some plugin := by
  cases hdecider : decider? url kind world plugins with
  | none =>
      rw [hdecider] at h
      cases h
  | some other =>
      rw [hdecider] at h
      unfold decided Plugin.decision at h
      dsimp only at h
      split at h <;> cases h
      rfl

/-- Plugins that have made up their minds decline in turn if each of them declines. -/
theorem verdict_of_declined (hsettled : ∀ plugin ∈ plugins, plugin.Settled) {asked : σ}
    (h : Declined url kind plugins asked) : ∀ plugin ∈ plugins, plugin.verdict url kind world = .ok false := by
  induction plugins generalizing asked with
  | nil => exact nofun
  | cons plugin plugins ih =>
      obtain ⟨hfirst, hrest⟩ := List.forall_mem_cons.mp hsettled
      rw [List.forall_mem_cons]
      exact ⟨(hfirst url kind asked world).trans h.1, ih hrest h.2⟩

/-- **A search is decided by the first plugin that does not decline**, if all have made up their minds. -/
theorem Search.result_eq {asked world' : σ} {found : Except Error (Plugin σ)}
    {made : List (InstanceId × String × Call)} (h : Search url kind plugins asked found made world')
    (hsettled : ∀ plugin ∈ plugins, plugin.Settled) :
    found = decided url kind world (decider? url kind world plugins) := by
  -- Behind plugins that decline, it is the next one that decides.
  have hdecides {before after : List (Plugin σ)} {plugin : Plugin σ} (hsplit : plugins = before ++ plugin :: after)
      (hbefore : Declined url kind before asked) (hverdict : plugin.verdict url kind world ≠ .ok false) :
      decider? url kind world plugins = some plugin := by
    have hfront : ∀ other ∈ before, other.Settled := fun other hother => hsettled other (by
      rw [hsplit]
      exact List.mem_append_left _ hother)
    rw [hsplit, decider?_append, decider?_eq_none_iff.mpr (verdict_of_declined hfront hbefore), Option.none_or,
      decider?_cons_of_ne hverdict]
  have hanswer {before after : List (Plugin σ)} {plugin : Plugin σ} (hsplit : plugins = before ++ plugin :: after)
      (asked : σ) : (plugin.backend.respond (.checkUrl url kind) asked).1 = plugin.verdict url kind world :=
    hsettled plugin (by simp [hsplit]) url kind world asked
  cases h with
  | unclaimed h =>
      rw [decider?_eq_none_iff.mpr (verdict_of_declined hsettled h)]
      rfl
  | @failed before after plugin source hsplit hbefore h =>
      rw [hanswer hsplit] at h
      rw [hdecides hsplit hbefore (by simp [h]), decided, Plugin.decision, h]
  | @found before after plugin hsplit hbefore h =>
      rw [hanswer hsplit] at h
      rw [hdecides hsplit hbefore (by simp [h]), decided, Plugin.decision, h]

end Search

/-! ## Taking a place -/

/-- **A latecomer prevails**: it does not decline, and it stands before the plugin that decided, if there was
one. -/
def Plugin.Prevails (newcomer : Plugin σ) (url : String) (kind : Capability) (world : σ)
    (decider : Option (Plugin σ)) : Prop :=
  newcomer.verdict url kind world ≠ .ok false ∧ ∀ rival ∈ decider, newcomer.Before rival

section Place

variable {url : String} {kind : Capability} {world : σ} {front back : List (Plugin σ)} {newcomer : Plugin σ}
  (hfront : ∀ plugin ∈ front, plugin.Before newcomer) (hback : ∀ plugin ∈ back, newcomer.Before plugin)

include hfront in
/-- A latecomer that prevails decides. -/
theorem decider?_of_prevails
    (h : newcomer.Prevails url kind world (decider? url kind world (front ++ back))) :
    decider? url kind world (front ++ newcomer :: back) = some newcomer := by
  obtain ⟨hverdict, hbefore⟩ := h
  have hnone : decider? url kind world front = none := by
    refine Option.eq_none_iff_forall_not_mem.mpr fun rival hrival => ?_
    have hdecides : rival ∈ decider? url kind world (front ++ back) := by
      rw [decider?_append, hrival]
      rfl
    exact (hfront rival (mem_of_decider? hrival)).asymm (hbefore rival hdecides)
  rw [decider?_append, hnone, Option.none_or, decider?_cons_of_ne hverdict]

include hback in
/-- Any other latecomer leaves it to who decided before. -/
theorem decider?_of_not_prevails
    (h : ¬ newcomer.Prevails url kind world (decider? url kind world (front ++ back))) :
    decider? url kind world (front ++ newcomer :: back) = decider? url kind world (front ++ back) := by
  by_cases hverdict : newcomer.verdict url kind world = .ok false
  · rw [decider?_append, decider?_append, decider?_cons_of_declines hverdict]
  · -- Somebody decided who does not stand behind the latecomer, and so stands before it.
    obtain ⟨rival, hrival, hbefore⟩ : ∃ rival ∈ decider? url kind world (front ++ back), ¬ newcomer.Before rival := by
      by_contra hall
      refine h ⟨hverdict, fun rival hrival => ?_⟩
      by_contra hbefore
      exact hall ⟨rival, hrival, hbefore⟩
    rw [decider?_append] at hrival
    cases hdecider : decider? url kind world front with
    | some plugin => rw [decider?_append, decider?_append, hdecider, Option.some_or, Option.some_or]
    | none =>
        rw [hdecider, Option.none_or] at hrival
        exact absurd (hback rival (mem_of_decider? hrival)) hbefore

end Place

namespace Registry

/-- What a backend is as a plugin when it is registered late. -/
def latecomer (registry : Registry σ) (backend : Backend σ) : Plugin σ :=
  { backend, loadOrder := registry.nextOrder, origin := .static }

/-- **A latecomer takes its place**, and all others keep theirs. -/
theorem Ranked.exists_place {registry : Registry σ} (h : registry.Ranked) (backend : Backend σ) :
    ∃ front back, registry.plugins = front ++ back ∧
      (registry.enroll [(backend, .static)]).plugins = front ++ registry.latecomer backend :: back ∧
      (∀ plugin ∈ front, plugin.Before (registry.latecomer backend)) ∧
      ∀ plugin ∈ back, (registry.latecomer backend).Before plugin := by
  have hranked := h.enroll [(backend, .static)]
  have hperm : (registry.enroll [(backend, .static)]).plugins.Perm
      (registry.plugins ++ [registry.latecomer backend]) := sortPlugins_perm _
  have hmem : registry.latecomer backend ∈ (registry.enroll [(backend, .static)]).plugins :=
    hperm.mem_iff.mpr (List.mem_append_right _ List.mem_cons_self)
  obtain ⟨front, back, hsplit⟩ := List.append_of_mem hmem
  have hsorted := hranked.sorted
  rw [hsplit] at hsorted hperm
  obtain ⟨hfront, hback, hacross⟩ := List.pairwise_append.mp hsorted
  obtain ⟨hbehind, hback⟩ := List.pairwise_cons.mp hback
  refine ⟨front, back, ?_, hsplit, fun plugin hplugin => hacross plugin hplugin _ List.mem_cons_self, hbehind⟩
  -- Without the latecomer, the list is sorted and has the same plugins, so it is the one there was.
  have hrest : (front ++ back).Perm registry.plugins := by
    refine List.Perm.cons_inv (a := registry.latecomer backend) ?_
    exact List.perm_middle.symm.trans (hperm.trans List.perm_append_comm)
  have hordered : (front ++ back).Pairwise Plugin.Before :=
    List.pairwise_append.mpr ⟨hfront, hback, fun plugin hplugin other hother =>
      hacross plugin hplugin other (List.mem_cons_of_mem _ hother)⟩
  exact hrest.symm.eq_of_pairwise (fun a b _ _ hab hba => (hab.asymm hba).elim) h.sorted hordered

/-! ## Lookups before and after -/

open Context

variable {c : Context σ}

/-- **A lookup comes to what the plugin decides that decides**, if all have made up their minds. -/
theorem findFor_decided (hready : c.registry.phase = .ready)
    (hsettled : ∀ plugin ∈ c.registry.plugins, plugin.Settled) (url : String) (kind : Capability) (world : σ) :
    ((Registry.findFor url kind).run.run c).1 =
      decided url kind world (decider? url kind world c.registry.plugins) := by
  obtain ⟨found, made, left, hsearch⟩ := exists_search url kind c.registry.plugins c.world
  have hdoes : Does (Registry.findFor url kind) c found made (c.inWorld left) :=
    (Does.discover (known_of_ready hready)).bind fun events =>
      firstClaiming_does (c := c.recording events) hsearch
  rw [hdoes.result_eq, hsearch.result_eq hsettled]

/-- A backend that is registered late joins the plugins at once. -/
theorem registry_register (hready : c.registry.phase = .ready) (backend : Backend σ) :
    ((Registry.register backend).run c).2.registry = c.registry.enroll [(backend, .static)] := by
  have hledger := congrArg Ledger.registry (register_run backend c)
  unfold Ledger.register at hledger
  rw [registry_ledger, registry_ledger, hready] at hledger
  exact hledger

/-- **Late registrations.** Let the plugins be known, and let all of them and a backend that is registered now have
made up their minds about every URL. Then who decided about a URL goes on to do so, and a lookup comes to what it
came to before, unless the newcomer prevails: it does not decline, and it stands before the plugin that decided, if
there was one. In that case it is what the newcomer decides. So no backend takes a URL over from a plugin of the
same priority or a higher one, nor makes a lookup fail that finds such a plugin. -/
theorem findFor_register (hready : c.registry.phase = .ready) (hranked : c.registry.Ranked) (backend : Backend σ)
    (hsettled : ∀ plugin ∈ c.registry.latecomer backend :: c.registry.plugins, plugin.Settled) (url : String)
    (kind : Capability) :
    let newcomer := c.registry.latecomer backend
    let decider := decider? url kind c.world c.registry.plugins
    let before := ((Registry.findFor url kind).run.run c).1
    let after := ((Registry.findFor url kind).run.run ((Registry.register backend).run c).2).1
    before = decided url kind c.world decider ∧
      (newcomer.Prevails url kind c.world decider → after = newcomer.decision url kind c.world) ∧
      (¬ newcomer.Prevails url kind c.world decider → after = before) ∧
      ∀ plugin, before = .ok plugin → backend.priority ≤ plugin.priority → after = .ok plugin := by
  intro newcomer decider before after
  obtain ⟨hnew, hold⟩ := List.forall_mem_cons.mp hsettled
  -- The newcomer is put between those that it does not precede and those that it does.
  obtain ⟨front, back, hlisted, hjoined, hfront, hback⟩ := hranked.exists_place backend
  have hbefore : before = decided url kind c.world decider := findFor_decided hready hold url kind c.world
  have hregistry := registry_register hready backend
  have hafter : after =
      decided url kind c.world (decider? url kind c.world (front ++ newcomer :: back)) := by
    rw [← hjoined, ← hregistry]
    refine findFor_decided ?_ ?_ url kind c.world
    · rw [hregistry]
      exact hready
    · intro plugin hplugin
      rw [hregistry, hjoined] at hplugin
      refine hsettled plugin ?_
      rw [hlisted]
      exact List.perm_middle.subset hplugin
  have hdecider : decider = decider? url kind c.world (front ++ back) := congrArg _ hlisted
  have hsame (h : ¬ newcomer.Prevails url kind c.world decider) : after = before := by
    rw [hdecider] at h
    rw [hafter, decider?_of_not_prevails hback h, hbefore, hdecider]
  refine ⟨hbefore, fun h => ?_, hsame, fun plugin hplugin hpriority => ?_⟩
  · rw [hdecider] at h
    rw [hafter, decider?_of_prevails hfront h]
    rfl
  · rw [hbefore] at hplugin
    have hdecides : decider = some plugin := decided_eq_ok hplugin
    have hlt : plugin.loadOrder < c.registry.nextOrder := hranked.lt plugin (mem_of_decider? hdecides)
    -- A plugin of the same priority came earlier, and so it goes on standing before the newcomer.
    have hkeeps : ¬ newcomer.Prevails url kind c.world decider := by
      rintro ⟨-, hstands⟩
      rcases hstands plugin hdecides with hhigher | ⟨-, hearlier⟩
      · exact absurd (show plugin.priority < backend.priority from hhigher) (by omega)
      · exact absurd (show c.registry.nextOrder < plugin.loadOrder from hearlier) (by omega)
    rw [hsame hkeeps, hbefore, hplugin]

/-- A backend that always answers the same when it is asked, and counts how often it is. -/
def stubborn (n : Nat) (priority : Int) (answer : Reply Bool) : Backend Nat where
  id := .registered n
  name := s!"stubborn {n}"
  priority := priority
  respond call asked :=
    match call with
    | .checkUrl .. => (answer, asked + 1)
    | call => (call.unimplemented, asked)

def settledContext : Context Nat where
  config := {}
  world := 0
  registry := {
    phase := .ready
    plugins := [⟨stubborn 1 10 (.ok false), 1, .static⟩, ⟨stubborn 0 0 (.ok true), 0, .static⟩]
    nextOrder := 2 }

def outOfOrder : Reply Bool := .error ⟨.io, "out of order"⟩

/-- A backend that is out of order does no harm if its priority is that of the plugin that claims the URL. -/
theorem findFor_register_outOfOrder :
    let c := settledContext
    let backend := stubborn 2 0 outOfOrder
    let newcomer := c.registry.latecomer backend
    let decider := decider? "any://url" .stat c.world c.registry.plugins
    let before := ((Registry.findFor "any://url" .stat).run.run c).1
    let after := ((Registry.findFor "any://url" .stat).run.run ((Registry.register backend).run c).2).1
    c.registry.phase = .ready ∧ c.registry.Ranked ∧ (∀ plugin ∈ newcomer :: c.registry.plugins, plugin.Settled) ∧
      before = decided "any://url" .stat c.world decider ∧
      (newcomer.Prevails "any://url" .stat c.world decider → after = newcomer.decision "any://url" .stat c.world) ∧
      (¬ newcomer.Prevails "any://url" .stat c.world decider → after = before) ∧
      ∀ plugin, before = .ok plugin → backend.priority ≤ plugin.priority → after = .ok plugin := by
  have hranked : settledContext.registry.Ranked := by
    refine ⟨by decide, ?_, ?_⟩ <;> simp [settledContext, Plugin.Before, Plugin.priority, stubborn]
  have hsettled : ∀ plugin ∈ settledContext.registry.latecomer (stubborn 2 0 outOfOrder) ::
      settledContext.registry.plugins, plugin.Settled := by
    intro plugin hplugin url kind world world'
    simp only [settledContext, List.mem_cons, List.not_mem_nil, or_false] at hplugin
    rcases hplugin with rfl | rfl | rfl <;> rfl
  exact ⟨rfl, hranked, hsettled, findFor_register rfl hranked _ hsettled "any://url" .stat⟩

/-- With a higher priority, it makes the lookup fail. -/
example : ((Registry.findFor "any://url" .stat).run.run
    ((Registry.register (stubborn 2 5 outOfOrder)).run settledContext).2).1 =
      .error (.backend "stat" ⟨.io, "out of order"⟩) := by cbv

end Registry

end StorageDispatch
