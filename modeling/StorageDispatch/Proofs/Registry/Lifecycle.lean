import StorageDispatch.Proofs.Registry.Order
import StorageDispatch.Proofs.Session.Turn

set_option autoImplicit false

/-! # The life of a registry

What every phase promises of the list of plugins and of the queue is `Registry.Consistent`. It holds in
the registry of a new context, and every turn of a session keeps it (`consistent_turn`). How a turn may
change the phase is `Passage`. Both together describe the registry of a session after every run
(`consistent_and_passage`).
-/

namespace StorageDispatch

variable {σ : Type}

/-- Whether a phase is one that a discovery ends in. -/
def Phase.isSettled : Phase → Prop
  | .ready | .failed _ => True
  | .uninitialized | .tornDown => False

namespace Registry

/-- What a registry promises in its phase: nothing is listed and no load order is used up before a
discovery has succeeded; the plugins are numbered and in order after it, and nobody waits; and nobody is
left when all were torn down. -/
def Consistent (registry : Registry σ) : Prop :=
  match registry.phase with
  | .uninitialized | .failed _ => registry.plugins = [] ∧ registry.nextOrder = 0
  | .ready =>
    registry.pending = [] ∧
      (registry.plugins.map Plugin.loadOrder).Perm (List.range registry.plugins.length) ∧
      registry.plugins.Pairwise Plugin.Before ∧ registry.nextOrder = registry.plugins.length
  | .tornDown => registry.plugins = [] ∧ registry.pending = []

/-- The plugins are known, and if they are up then one of them has this name. -/
structure Offers (registry : Registry σ) (name : String) : Prop where
  known : registry.phase.isKnown
  listed : registry.phase = .ready → ∃ plugin ∈ registry.plugins, plugin.name = name

variable {registry : Registry σ}

theorem consistent_of_waiting {phase : Phase} (hphase : registry.phase = phase)
    (hwaiting : phase = .uninitialized ∨ ∃ error, phase = .failed error)
    (hplugins : registry.plugins = []) (horder : registry.nextOrder = 0) : registry.Consistent := by
  unfold Consistent
  rcases hwaiting with rfl | ⟨error, rfl⟩ <;> rw [hphase] <;> exact ⟨hplugins, horder⟩

theorem consistent_of_ready (hphase : registry.phase = .ready) (hpending : registry.pending = [])
    (h : registry.Ordered) : registry.Consistent := by
  have hsize : registry.nextOrder = registry.plugins.length := h.size_eq.symm
  have horders := h.orders
  rw [hsize] at horders
  unfold Consistent
  rw [hphase]
  exact ⟨hpending, horders, h.sorted, hsize⟩

namespace Consistent

theorem plugins_of_waiting (h : registry.Consistent)
    (hwaiting : registry.phase = .uninitialized ∨ ∃ error, registry.phase = .failed error) :
    registry.plugins = [] ∧ registry.nextOrder = 0 := by
  unfold Consistent at h
  rcases hwaiting with hphase | ⟨error, hphase⟩ <;> rw [hphase] at h <;> exact h

theorem ordered_of_ready (h : registry.Consistent) (hphase : registry.phase = .ready) :
    registry.pending = [] ∧ registry.Ordered := by
  unfold Consistent at h
  rw [hphase] at h
  obtain ⟨hpending, horders, hsorted, hsize⟩ := h
  rw [← hsize] at horders
  exact ⟨hpending, horders, hsorted⟩

theorem empty_of_tornDown (h : registry.Consistent) (hphase : registry.phase = .tornDown) :
    registry.plugins = [] ∧ registry.pending = [] := by
  unfold Consistent at h
  rwa [hphase] at h

/-- A registry that still waits is ordered: it has no plugin, and gave out no load order. -/
theorem ordered_of_waiting (h : registry.Consistent)
    (hwaiting : registry.phase = .uninitialized ∨ ∃ error, registry.phase = .failed error) :
    registry.Ordered := by
  obtain ⟨hplugins, horder⟩ := h.plugins_of_waiting hwaiting
  exact ⟨by rw [hplugins, horder]; exact .nil, by rw [hplugins]; exact .nil⟩

end Consistent

theorem consistent_start (config : Config) (host : Host σ) (world : σ) :
    (Session.start config host world).context.registry.Consistent := ⟨rfl, rfl⟩

end Registry

namespace Ledger

variable {l : Ledger σ}

/-! ## One move -/

theorem consistent_settle (hphase : l.registry.phase = .uninitialized) (h : l.registry.Consistent) :
    (l.settle l.scan).registry.Consistent := by
  obtain ⟨hplugins, horder⟩ := h.plugins_of_waiting (.inl hphase)
  cases hfailure : l.scan.failure with
  | none =>
      rw [settle_of_ok l hfailure]
      -- The scan itself has touched neither the list nor the counter of load orders.
      have hbefore : (l.enterScan l.scan).registry.Ordered :=
        ⟨(h.ordered_of_waiting (.inl hphase)).orders, (h.ordered_of_waiting (.inl hphase)).sorted⟩
      have hafter := hbefore.enroll
        (l.scan.modules.map (fun module => (module.backend, PluginOrigin.module module.path)) ++
          l.registry.pending.map fun backend => (backend, PluginOrigin.static))
      exact Registry.consistent_of_ready rfl rfl ⟨hafter.orders, hafter.sorted⟩
  | some error =>
      rw [settle_of_failure l hfailure]
      exact Registry.consistent_of_waiting rfl (.inr ⟨error, rfl⟩) hplugins horder

theorem consistent_discover (h : l.registry.Consistent) : l.discover.registry.Consistent := by
  by_cases hphase : l.registry.phase = .uninitialized
  · rw [discover_of_eq hphase]
    exact consistent_settle hphase h
  · rwa [discover_of_ne hphase]

theorem consistent_forget (h : l.registry.Consistent) : l.forget.registry.Consistent := by
  unfold forget
  split
  · rename_i error hphase
    obtain ⟨hplugins, horder⟩ := h.plugins_of_waiting (.inr ⟨error, hphase⟩)
    exact Registry.consistent_of_waiting rfl (.inl rfl) hplugins horder
  · exact h

theorem consistent_register (h : l.registry.Consistent) (backend : Backend σ) :
    (l.register backend).registry.Consistent := by
  unfold register
  split
  · rename_i hphase
    obtain ⟨hplugins, horder⟩ := h.plugins_of_waiting (.inl hphase)
    exact Registry.consistent_of_waiting hphase (.inl rfl) hplugins horder
  · rename_i error hphase
    obtain ⟨hplugins, horder⟩ := h.plugins_of_waiting (.inr ⟨error, hphase⟩)
    exact Registry.consistent_of_waiting hphase (.inr ⟨error, rfl⟩) hplugins horder
  · exact h
  · rename_i hphase
    obtain ⟨hpending, hordered⟩ := h.ordered_of_ready hphase
    exact Registry.consistent_of_ready hphase hpending (hordered.enroll _)

/-- Tearing a plugin down is remembered, and changes nothing else of the registry. -/
theorem registry_tearDownPlugin (l : Ledger σ) (plugin : Plugin σ) :
    (l.tearDownPlugin plugin).registry =
      { l.registry with tornDown := (l.tearDownPlugin plugin).registry.tornDown } := by
  unfold tearDownPlugin
  split <;> rfl

theorem registry_foldl_tearDownPlugin (plugins : List (Plugin σ)) (l : Ledger σ) :
    (plugins.foldl tearDownPlugin l).registry =
      { l.registry with tornDown := (plugins.foldl tearDownPlugin l).registry.tornDown } := by
  induction plugins generalizing l with
  | nil => rfl
  | cons plugin plugins ih =>
      rw [List.foldl_cons, ih, registry_tearDownPlugin]

theorem consistent_tearDownPlugin (h : l.registry.Consistent) (plugin : Plugin σ) :
    (l.tearDownPlugin plugin).registry.Consistent := by
  rw [registry_tearDownPlugin]
  exact h

/-- Once everything is torn down, the registry is empty and stays so. -/
theorem registry_tearDown (h : l.registry.Consistent) :
    l.tearDown.registry.phase = .tornDown ∧ l.tearDown.registry.plugins = [] ∧
      l.tearDown.registry.pending = [] := by
  unfold tearDown
  split
  · rename_i hdown
    exact ⟨hdown.1, h.empty_of_tornDown hdown.1⟩
  · dsimp only
    rw [registry_foldl_tearDownPlugin]
    exact ⟨rfl, rfl, rfl⟩

theorem consistent_tearDown (h : l.registry.Consistent) : l.tearDown.registry.Consistent := by
  obtain ⟨hphase, hempty⟩ := registry_tearDown h
  unfold Registry.Consistent
  rwa [hphase]

end Ledger

/-! ## The phase -/

namespace Ledger

variable {l : Ledger σ}

theorem isSettled_settle (l : Ledger σ) (scan : Scan σ) :
    (l.settle scan).registry.phase.isSettled := by
  rw [phase_settle]
  cases scan.failure <;> trivial

theorem phase_register (l : Ledger σ) (backend : Backend σ) :
    (l.register backend).registry.phase = l.registry.phase := by
  unfold register
  split <;> rfl

theorem rediscover_of_failed {error : PluginError} (h : l.registry.phase = .failed error) :
    l.rediscover =
      ({ l with registry := { l.registry with phase := .uninitialized } } : Ledger σ).discover := by
  rw [rediscover, forget, h]

theorem rediscover_of_ne (h : ∀ error, l.registry.phase ≠ .failed error) :
    l.rediscover = l.discover := by
  unfold rediscover forget
  split
  · rename_i error hphase
    exact absurd hphase (h error)
  · rfl

end Ledger

/-- How a step may take a session from one phase of its registry to another. -/
inductive Passage (step : Step σ) (s t : Session σ) : Prop
  | stayed (h : t.context.registry.phase = s.context.registry.phase)
  /-- The first discovery, which a lookup or a retry may start. -/
  | discovered (hstep : step.ordinary = true ∨ step = .request .rediscover)
      (hfrom : s.context.registry.phase = .uninitialized) (hto : t.context.registry.phase.isSettled)
      (h : t.context.registry = (Registry.discover.run.run s.context).2.registry)
  /-- A failed discovery was forgotten, and another one followed. -/
  | retried (hstep : step = .request .rediscover)
      (hfrom : ∃ error, s.context.registry.phase = .failed error)
      (hto : t.context.registry.phase.isSettled)
      (h : t.context.registry = (Registry.discover.run.run { s.context with
        registry := { s.context.registry with phase := .uninitialized } }).2.registry)
  | tornDown (hstep : ∃ request, step = .request request ∧ request.tearsDown = true)
      (hto : t.context.registry.phase = .tornDown)

namespace Session

open Context

variable {step : Step σ} {s t : Session σ}

theorem registry_eq (h : t.ledger = s.ledger) : t.context.registry = s.context.registry :=
  congrArg Ledger.registry h

theorem registry_discover (c : Context σ) :
    (Registry.discover.run.run c).2.registry = c.ledger.discover.registry :=
  congrArg Ledger.registry (Registry.discover_run c).2

/-- A discovery in place of a step is a passage. -/
theorem passage_discover (hstep : step.ordinary = true ∨ step = .request .rediscover)
    (hledger : t.ledger = s.ledger.discover) : Passage step s t := by
  have hregistry : t.context.registry = s.ledger.discover.registry := congrArg Ledger.registry hledger
  by_cases hphase : s.ledger.registry.phase = .uninitialized
  · refine .discovered hstep hphase ?_ (hregistry.trans (registry_discover s.context).symm)
    rw [hregistry, Ledger.discover_of_eq hphase]
    exact Ledger.isSettled_settle _ _
  · rw [Ledger.discover_of_ne hphase] at hregistry
    exact .stayed (congrArg Registry.phase hregistry)

/-- **Every turn is a passage.** -/
theorem passage_turn (hturn : Turn step s t) (h : s.context.registry.Consistent) :
    Passage step s t := by
  cases hturn with
  | looked hstep hledger =>
      rcases hledger with hledger | hledger
      · exact .stayed (congrArg Registry.phase (registry_eq hledger))
      · exact passage_discover (.inl hstep) hledger
  | rediscovered hledger =>
      by_cases hphase : ∃ error, s.ledger.registry.phase = .failed error
      · obtain ⟨error, hfailed⟩ := hphase
        rw [Ledger.rediscover_of_failed hfailed] at hledger
        have hregistry : t.context.registry = _ := congrArg Ledger.registry hledger
        have hdiscover := registry_discover { s.context with
          registry := { s.context.registry with phase := .uninitialized } }
        refine .retried rfl ⟨error, hfailed⟩ ?_ (hregistry.trans hdiscover.symm)
        rw [hregistry, Ledger.discover_of_eq rfl]
        exact Ledger.isSettled_settle _ _
      · -- With no failure to forget, a retry is a discovery like any other.
        rw [Ledger.rediscover_of_ne (not_exists.mp hphase)] at hledger
        exact passage_discover (.inr rfl) hledger
  | registered hledger =>
      refine .stayed ?_
      rw [show t.context.registry = _ from congrArg Ledger.registry hledger]
      exact Ledger.phase_register _ _
  | tornDown hrequest hledger =>
      refine .tornDown ⟨_, rfl, hrequest⟩ ?_
      rw [show t.context.registry = _ from congrArg Ledger.registry hledger]
      exact (Ledger.registry_tearDown h).1
  | pluginTornDown hplugin hledger =>
      refine .stayed ?_
      rw [show t.context.registry = _ from congrArg Ledger.registry hledger,
        Ledger.registry_tearDownPlugin]
      rfl
  | nothingTornDown => exact .stayed rfl
  | hostChanged hledger => exact .stayed (congrArg (fun l => l.registry.phase) hledger)

/-- **Every turn keeps the registry consistent.** -/
theorem consistent_turn (hturn : Turn step s t) (h : s.context.registry.Consistent) :
    t.context.registry.Consistent := by
  have hs : s.ledger.registry.Consistent := h
  -- The registry is read off the ledger, where a turn says what it does.
  suffices ht : t.ledger.registry.Consistent from ht
  cases hturn with
  | looked _ hledger =>
      rcases hledger with hledger | hledger <;> rw [hledger]
      · exact hs
      · exact Ledger.consistent_discover hs
  | rediscovered hledger =>
      rw [hledger]
      exact Ledger.consistent_discover (Ledger.consistent_forget hs)
  | registered hledger =>
      rw [hledger]
      exact Ledger.consistent_register hs _
  | tornDown _ hledger =>
      rw [hledger]
      exact Ledger.consistent_tearDown hs
  | pluginTornDown _ hledger =>
      rw [hledger]
      exact Ledger.consistent_tearDownPlugin hs _
  | nothingTornDown => exact hs
  | hostChanged hledger =>
      rw [hledger]
      exact hs

theorem consistent_after (config : Config) (host : Host σ) (world : σ) (steps : List (Step σ)) :
    (after config host world steps).context.registry.Consistent :=
  run_induction consistent_turn steps (Registry.consistent_start _ _ _)

/-- A registry that was torn down is left only by a step that tears it down again. -/
theorem phase_of_tornDown (hpassage : Passage step s t)
    (hdown : s.context.registry.phase = .tornDown) : t.context.registry.phase = .tornDown := by
  cases hpassage with
  | stayed h => exact h.trans hdown
  | discovered _ hfrom =>
      rw [hdown] at hfrom
      cases hfrom
  | retried _ hfrom =>
      obtain ⟨error, hfrom⟩ := hfrom
      rw [hdown] at hfrom
      cases hfrom
  | tornDown _ hto => exact hto

/-- Once the backends are known, they stay so. -/
theorem known_turn (hturn : Turn step s t) (hconsistent : s.context.registry.Consistent)
    (hknown : s.context.registry.phase.isKnown) : t.context.registry.phase.isKnown := by
  cases passage_turn hturn hconsistent with
  | stayed h => rwa [h]
  | discovered _ hfrom =>
      rw [hfrom] at hknown
      exact hknown.elim
  | retried _ hfrom =>
      obtain ⟨error, hfrom⟩ := hfrom
      rw [hfrom] at hknown
      exact hknown.elim
  | tornDown _ hto =>
      rw [hto]
      trivial

/-- Once the backends are known, looking for them again changes nothing. -/
theorem ledger_of_ready (hturn : Turn step s t) (hready : s.context.registry.phase = .ready)
    (hstep : step.ordinary = true ∨ step = .request .rediscover) : t.ledger = s.ledger := by
  have hphase : s.ledger.registry.phase = .ready := hready
  have hne : s.ledger.registry.phase ≠ .uninitialized := by
    rw [hphase]
    nofun
  have hdiscover : s.ledger.discover = s.ledger := Ledger.discover_of_ne hne
  cases hturn with
  | looked _ hledger => exact hledger.elim id fun h => h.trans hdiscover
  | rediscovered hledger =>
      have hfailed : ∀ error, s.ledger.registry.phase ≠ .failed error := by
        rw [hphase]
        nofun
      rw [Ledger.rediscover_of_ne hfailed] at hledger
      exact hledger.trans hdiscover
  | registered => exact hstep.elim nofun nofun
  | tornDown hrequest =>
      -- A teardown is neither a lookup nor a retry.
      have hordinary := Request.ordinary_of_tearsDown hrequest
      rcases hstep with h | h
      · exact Bool.noConfusion (hordinary.symm.trans h)
      · cases h
        exact Bool.noConfusion hrequest
  | pluginTornDown => exact hstep.elim nofun nofun
  | nothingTornDown => rfl
  | hostChanged => exact hstep.elim nofun nofun

/-- No request takes a plugin off the list but by tearing all of them down. -/
theorem offers_turn {request : Request σ} {name : String} (hturn : Turn (.request request) s t)
    (hconsistent : s.context.registry.Consistent) (h : s.context.registry.Offers name) :
    t.context.registry.Offers name := by
  refine ⟨known_turn hturn hconsistent h.known, fun hready => ?_⟩
  have hphase : s.context.registry.phase = .ready := by
    refine (Phase.ready_or_tornDown h.known).resolve_right fun hphase => ?_
    have hdown := phase_of_tornDown (passage_turn hturn hconsistent) hphase
    rw [hready] at hdown
    cases hdown
  have hsame : t.context.registry = s.context.registry →
      ∃ plugin ∈ t.context.registry.plugins, plugin.name = name := by
    intro hregistry
    rw [hregistry]
    exact h.listed hphase
  cases hturn with
  | looked hstep hledger harrivals hheld =>
      exact hsame (registry_eq (ledger_of_ready (.looked hstep hledger harrivals hheld) hphase (.inl hstep)))
  | rediscovered hledger harrivals hheld =>
      exact hsame (registry_eq (ledger_of_ready (.rediscovered hledger harrivals hheld) hphase (.inr rfl)))
  | tornDown hrequest hledger =>
      have hdown : t.context.registry.phase = .tornDown := by
        rw [show t.context.registry = _ from congrArg Ledger.registry hledger]
        exact (Ledger.registry_tearDown hconsistent).1
      rw [hready] at hdown
      cases hdown

/-- **The life of a registry.** Whatever a new session goes through, and whatever the machine holds at
each discovery, its registry keeps the promises of its phase. The next step moves it along a `Passage` at
most, never out of the phase in which all is torn down; and once the backends are known, lookups and
retries leave the registry as it is. -/
theorem consistent_and_passage (config : Config) (host : Host σ) (world : σ) (steps : List (Step σ)) :
    let s := after config host world steps
    s.context.registry.Consistent ∧ ∀ step : Step σ,
      let t := (s.step step).2
      Passage step s t ∧
        (s.context.registry.phase = .tornDown → t.context.registry.phase = .tornDown) ∧
        (s.context.registry.phase = .ready → step.ordinary = true ∨ step = .request .rediscover →
          t.context.registry = s.context.registry) := by
  have hconsistent := consistent_after config host world steps
  refine ⟨hconsistent, fun step => ?_⟩
  have hturn := turn_step step (after config host world steps)
  have hpassage := passage_turn hturn hconsistent
  refine ⟨hpassage, phase_of_tornDown hpassage, fun hready hstep => ?_⟩
  exact registry_eq (ledger_of_ready hturn hready hstep)

end Session

end StorageDispatch
