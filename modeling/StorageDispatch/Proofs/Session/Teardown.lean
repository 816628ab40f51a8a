import StorageDispatch.Proofs.Registry.Balance

set_option autoImplicit false

/-! # Teardown happens once

A backend instance may be torn down from the queue, from the list of plugins, through a plugin that the
user holds, or by a discovery that failed. `Accounted` is the invariant that ties these together: the
ledger is balanced, and what the user holds the registry knows. Every turn keeps it (`accounted_turn`).

`Occasion` lists on what occasions a step tears down which instances. When a context has ended and its
user holds nothing any longer, every instance was torn down once (`teardown_once`).
-/

namespace StorageDispatch

variable {σ : Type}

namespace Session

open Context

/-- Every instance is accounted for. -/
structure Accounted (s : Session σ) : Prop where
  consistent : s.ledger.registry.Consistent
  balanced : s.ledger.Balanced s.arrivals
  /-- The plugins that are held are known to the registry, so it remembers their teardown. -/
  knows_held : ∀ entry ∈ s.held, s.ledger.Knows entry.2.id

theorem accounted_start (config : Config) (host : Host σ) (world : σ) :
    (start config host world).Accounted where
  consistent := Registry.consistent_start config host world
  balanced := ⟨.nil, .nil, nofun, nofun⟩
  knows_held := nofun

variable {step : Step σ} {s t : Session σ}

/-- A turn that changes the ledger only keeps what is held known. -/
theorem Accounted.of_held (h : s.Accounted) (hheld : t.held = s.held)
    (hconsistent : t.ledger.registry.Consistent) (hbalanced : t.ledger.Balanced t.arrivals)
    (hknows : ∀ id, s.ledger.Knows id → t.ledger.Knows id) : t.Accounted := by
  refine ⟨hconsistent, hbalanced, fun entry hentry => ?_⟩
  rw [hheld] at hentry
  exact hknows _ (h.knows_held entry hentry)

/-- **Every turn keeps the account.** -/
theorem accounted_turn (hturn : Turn step s t) (h : s.Accounted) : t.Accounted := by
  have hconsistent : t.ledger.registry.Consistent := consistent_turn hturn h.consistent
  cases hturn with
  | looked _ hledger harrivals hheld =>
      have hbalanced : t.ledger.Balanced t.arrivals := by
        rw [harrivals]
        rcases hledger with hledger | hledger <;> rw [hledger]
        · exact h.balanced
        · exact h.balanced.discover
      have hknows : ∀ id, s.ledger.Knows id → t.ledger.Knows id := by
        intro id hid
        rcases hledger with hledger | hledger <;> rw [hledger]
        · exact hid
        · exact hid.discover
      refine ⟨hconsistent, hbalanced, fun entry hentry => ?_⟩
      rcases hheld entry hentry with hold | hnew
      · exact hknows _ (h.knows_held entry hold)
      · -- A plugin that is held anew was found in the list.
        exact .inr (List.mem_map_of_mem hnew)
  | rediscovered hledger harrivals hheld =>
      refine h.of_held hheld hconsistent ?_ ?_
      · rw [harrivals, hledger]
        exact h.balanced.forget.discover
      · rw [hledger]
        exact fun id hid => hid.forget.discover
  | registered hledger harrivals hheld =>
      refine h.of_held hheld hconsistent ?_ ?_
      · rw [harrivals, hledger]
        exact h.balanced.register rfl
      · rw [hledger]
        exact fun id hid => hid.register _
  | tornDown _ hledger harrivals hheld =>
      refine h.of_held hheld hconsistent ?_ ?_
      · rw [harrivals, hledger]
        exact (h.balanced.tearDown h.consistent).1
      · rw [hledger]
        exact fun id hid => hid.tearDown h.consistent
  | pluginTornDown hplugin hledger harrivals hheld =>
      refine h.of_held hheld hconsistent ?_ ?_
      · rw [harrivals, hledger]
        exact h.balanced.tearDownPlugin (h.knows_held _ hplugin)
      · rw [hledger]
        exact fun id hid => hid.tearDownPlugin _
  | nothingTornDown => exact h
  | hostChanged hledger harrivals hheld =>
      refine h.of_held hheld hconsistent ?_ ?_
      · rw [harrivals, hledger]
        exact ⟨h.balanced.perm, h.balanced.accepted_nodup, h.balanced.mem_accepted,
          h.balanced.mem_tornDown⟩
      · rw [hledger]
        exact fun id hid => hid

theorem accounted_run (steps : List (Step σ)) (h : s.Accounted) : (run steps s).2.Accounted :=
  run_induction accounted_turn steps h

/-! ## Occasions -/

/-- On what occasion a step has modules make the instances `made`, and tears the instances `torn` down. -/
inductive Occasion (step : Step σ) (s t : Session σ) (made torn : List InstanceId) : Prop
  | nothing (hmade : made = []) (htorn : torn = [])
  /-- A discovery has succeeded, and the instances that it made are plugins now. -/
  | discovered (htorn : torn = []) (hfrom : s.context.registry.phase ≠ .ready)
      (hto : t.context.registry.phase = .ready)
      (hmade : made ⊆ t.context.registry.plugins.map Plugin.id)
  /-- A discovery has failed, and the instances that it made were torn down in the order in which they
  were made. -/
  | failed (htorn : torn = made) (hto : ∃ error, t.context.registry.phase = .failed error)
  /-- A registry that was torn down has refused a backend. -/
  | refused (hstep : ∃ make, step = .register make) (hphase : s.context.registry.phase = .tornDown)
      (hmade : made = []) (htorn : torn = [.registered s.arrivals])
  /-- All that stood was torn down, the plugins in order and then the queue. -/
  | tornDown (hstep : ∃ request, step = .request request ∧ request.tearsDown = true)
      (hmade : made = []) (htorn : torn = s.ledger.standing)
  /-- A plugin that is held, and was not torn down before, was torn down. -/
  | pluginTornDown {label : String} {plugin : Plugin σ} (hstep : step = .tearDownHeld label)
      (hheld : (label, plugin) ∈ s.held) (hmade : made = []) (htorn : torn = [plugin.id])

/-- An occasion adds to the ledger what is made and what is torn down. -/
def HasOccasion (step : Step σ) (s t : Session σ) : Prop :=
  ∃ made torn, t.context.accepted = s.context.accepted ++ made ∧
    t.context.teardowns = s.context.teardowns ++ torn ∧ Occasion step s t made torn

theorem hasOccasion_nothing (haccepted : t.ledger.accepted = s.ledger.accepted)
    (hteardowns : t.ledger.teardowns = s.ledger.teardowns) : HasOccasion step s t := by
  refine ⟨[], [], ?_, ?_, .nothing rfl rfl⟩
  · rw [List.append_nil]
    exact haccepted
  · rw [List.append_nil]
    exact hteardowns

/-- Where a discovery scans, its instances become plugins or are torn down. -/
theorem hasOccasion_discover {l : Ledger σ} (haccepted : l.accepted = s.ledger.accepted)
    (hteardowns : l.teardowns = s.ledger.teardowns)
    (hfrom : l.registry.phase = .uninitialized → s.context.registry.phase ≠ .ready)
    (hledger : t.ledger = l.discover) : HasOccasion step s t := by
  by_cases hphase : l.registry.phase = .uninitialized
  · -- The scan makes its instances here, and what became of them its outcome says.
    rw [Ledger.discover_of_eq hphase] at hledger
    have hregistry : t.context.registry = (l.settle l.scan).registry :=
      congrArg Ledger.registry hledger
    have hsettled : t.context.registry.phase = _ :=
      (congrArg Registry.phase hregistry).trans (l.phase_settle l.scan)
    have haccepted' : t.context.accepted = s.context.accepted ++ l.scan.ids := by
      rw [show t.context.accepted = _ from congrArg Ledger.accepted hledger, l.accepted_settle,
        haccepted]
      rfl
    have hteardowns' : t.context.teardowns =
        s.context.teardowns ++ if l.scan.failure.isSome then l.scan.ids else [] := by
      rw [show t.context.teardowns = _ from congrArg Ledger.teardowns hledger, l.teardowns_settle,
        hteardowns]
      rfl
    refine ⟨_, _, haccepted', hteardowns', ?_⟩
    cases hfailure : l.scan.failure with
    | none =>
        rw [hfailure] at hsettled
        refine .discovered rfl (hfrom hphase) hsettled ?_
        rw [hregistry]
        exact l.ids_subset_settle hfailure
    | some error =>
        rw [hfailure] at hsettled
        exact .failed rfl ⟨error, hsettled⟩
  · rw [Ledger.discover_of_ne hphase] at hledger
    refine hasOccasion_nothing ?_ ?_
    · rw [hledger, haccepted]
    · rw [hledger, hteardowns]

/-- **Every turn has its occasion.** -/
theorem hasOccasion_turn (hturn : Turn step s t) (h : s.Accounted) : HasOccasion step s t := by
  cases hturn with
  | looked _ hledger =>
      rcases hledger with hledger | hledger
      · exact hasOccasion_nothing (congrArg _ hledger) (congrArg _ hledger)
      · refine hasOccasion_discover rfl rfl (fun hphase hready => ?_) hledger
        -- What is ready was looked for before.
        rw [show s.ledger.registry.phase = _ from hready] at hphase
        cases hphase
  | rediscovered hledger =>
      refine hasOccasion_discover s.ledger.accepted_forget s.ledger.teardowns_forget
        (fun hphase hready => ?_) hledger
      have hforget : s.ledger.forget = s.ledger := by
        unfold Ledger.forget
        rw [show s.ledger.registry.phase = _ from hready]
      rw [hforget, show s.ledger.registry.phase = _ from hready] at hphase
      cases hphase
  | @registered make _ _ hledger =>
      have haccepted := congrArg Ledger.accepted hledger
      have hteardowns := congrArg Ledger.teardowns hledger
      rw [Ledger.accepted_register] at haccepted
      rw [Ledger.teardowns_register] at hteardowns
      by_cases hdown : s.ledger.registry.phase = .tornDown
      · rw [if_pos hdown] at hteardowns
        refine ⟨[], [.registered s.arrivals], ?_, hteardowns, .refused ⟨make, rfl⟩ hdown rfl rfl⟩
        rw [List.append_nil]
        exact haccepted
      · rw [if_neg hdown, List.append_nil] at hteardowns
        exact hasOccasion_nothing haccepted hteardowns
  | tornDown hrequest hledger =>
      refine ⟨[], s.ledger.standing, ?_, ?_, .tornDown ⟨_, rfl, hrequest⟩ rfl rfl⟩
      · rw [List.append_nil]
        exact (congrArg Ledger.accepted hledger).trans s.ledger.accepted_tearDown.1
      · exact (congrArg Ledger.teardowns hledger).trans
          (Ledger.teardowns_tearDown h.balanced h.consistent)
  | @pluginTornDown label plugin _ _ hplugin hledger =>
      unfold Ledger.tearDownPlugin at hledger
      split at hledger
      · exact hasOccasion_nothing (congrArg _ hledger) (congrArg _ hledger)
      · refine ⟨[], [plugin.id], ?_, ?_, .pluginTornDown rfl hplugin rfl rfl⟩
        · rw [List.append_nil]
          exact congrArg Ledger.accepted hledger
        · exact congrArg Ledger.teardowns hledger
  | nothingTornDown => exact hasOccasion_nothing rfl rfl
  | hostChanged hledger =>
      have haccepted := congrArg Ledger.accepted hledger
      have hteardowns := congrArg Ledger.teardowns hledger
      exact hasOccasion_nothing haccepted hteardowns

/-! ## The end of a session -/

/-- Teardowns are only added, and the account is kept. -/
structure Continues (s t : Session σ) : Prop where
  accounted : t.Accounted
  prefix_teardowns : s.context.teardowns <+: t.context.teardowns

theorem Continues.refl (h : s.Accounted) : Continues s s := ⟨h, List.prefix_refl _⟩

theorem continues_turn {u : Session σ} (hturn : Turn step t u) (h : Continues s t) : Continues s u := by
  obtain ⟨-, torn, -, hteardowns, -⟩ := hasOccasion_turn hturn h.accounted
  refine ⟨accounted_turn hturn h.accounted, h.prefix_teardowns.trans ?_⟩
  rw [hteardowns]
  exact List.prefix_append _ _

theorem continues_run (steps : List (Step σ)) (h : s.Accounted) : Continues s (run steps s).2 :=
  run_induction continues_turn steps (.refl h)

theorem ledger_dispose (s : Session σ) : s.dispose.ledger = s.ledger.tearDown.tearDown :=
  Context.dispose_run s.context

/-- The end of a context tears down what stands. -/
theorem continues_dispose (h : s.Accounted) :
    Continues s s.dispose ∧ s.dispose.ledger.standing = [] := by
  have hconsistent := Ledger.consistent_tearDown h.consistent
  obtain ⟨hbalanced, -⟩ := h.balanced.tearDown h.consistent
  obtain ⟨hbalanced', hstanding⟩ := hbalanced.tearDown hconsistent
  rw [← ledger_dispose] at hbalanced' hstanding
  refine ⟨⟨h.of_held rfl ?_ hbalanced' fun id hid => ?_, ?_⟩, hstanding⟩
  · rw [ledger_dispose]
    exact Ledger.consistent_tearDown hconsistent
  · rw [ledger_dispose]
    exact (hid.tearDown h.consistent).tearDown hconsistent
  · have hteardowns : s.dispose.context.teardowns = _ := congrArg Ledger.teardowns (ledger_dispose s)
    rw [hteardowns, Ledger.teardowns_tearDown hbalanced hconsistent,
      Ledger.teardowns_tearDown h.balanced h.consistent, List.append_assoc]
    exact List.prefix_append _ _

theorem ledger_release (s : Session σ) :
    s.release.ledger = (s.held.map Prod.snd).foldl Ledger.tearDownPlugin s.ledger := by
  have hforM : ∀ (held : List (String × Plugin σ)) (c : Context σ),
      ((held.forM fun entry => discard entry.2.teardown : Act σ Unit).run c).2.ledger =
        (held.map Prod.snd).foldl Ledger.tearDownPlugin c.ledger := by
    intro held
    induction held with
    | nil => exact fun c => rfl
    | cons entry held ih =>
        intro c
        have h := ih (entry.2.teardown.run c).2
        rw [(entry.2.teardown_run c).2] at h
        exact h
  exact hforM s.held s.context

/-- Letting go of all plugins tears down those that are still up. -/
theorem continues_release (h : s.Accounted) : Continues s s.release := by
  -- What is held is known to the registry, and stays known while the plugins before it are torn down.
  have hfold : ∀ (plugins : List (Plugin σ)) (l : Ledger σ), l.registry.Consistent →
      l.Balanced s.arrivals → (∀ plugin ∈ plugins, l.Knows plugin.id) →
      (plugins.foldl Ledger.tearDownPlugin l).registry.Consistent ∧
        (plugins.foldl Ledger.tearDownPlugin l).Balanced s.arrivals ∧
        l.teardowns <+: (plugins.foldl Ledger.tearDownPlugin l).teardowns := by
    intro plugins
    induction plugins with
    | nil => exact fun l hconsistent hbalanced _ => ⟨hconsistent, hbalanced, List.prefix_refl _⟩
    | cons plugin plugins ih =>
        intro l hconsistent hbalanced hknows
        have hfirst := hknows plugin List.mem_cons_self
        obtain ⟨hconsistent', hbalanced', hprefix⟩ := ih (l.tearDownPlugin plugin)
          (Ledger.consistent_tearDownPlugin hconsistent plugin) (hbalanced.tearDownPlugin hfirst)
          (fun p hp => (hknows p (List.mem_cons_of_mem _ hp)).tearDownPlugin plugin)
        exact ⟨hconsistent', hbalanced', (l.prefix_tearDownPlugin plugin).trans hprefix⟩
  have hheld : ∀ plugin ∈ s.held.map Prod.snd, s.ledger.Knows plugin.id := by
    intro plugin hplugin
    obtain ⟨entry, hentry, rfl⟩ := List.mem_map.mp hplugin
    exact h.knows_held entry hentry
  obtain ⟨hconsistent, hbalanced, hprefix⟩ := hfold _ _ h.consistent h.balanced hheld
  rw [← ledger_release] at hconsistent hbalanced hprefix
  exact ⟨⟨hconsistent, hbalanced, nofun⟩, hprefix⟩

/-- What came in: the backends that were handed over, and the instances that modules have made. -/
theorem entered_after (config : Config) (host : Host σ) (world : σ) (steps : List (Step σ)) :
    let s := after config host world steps
    s.ledger.entered s.arrivals = (registered 0 steps).map Backend.id ++ s.context.accepted := by
  intro s
  have harrivals : s.arrivals = (registered 0 steps).length := arrivals_after config host world steps
  rw [Ledger.entered, harrivals, id_registered, List.range_eq_range']
  rfl

/-- Nothing comes in by the end of a context. -/
theorem entered_dispose (config : Config) (host : Host σ) (world : σ) (steps : List (Step σ)) :
    let s := after config host world steps
    s.dispose.ledger.entered s.dispose.arrivals =
      (registered 0 steps).map Backend.id ++ s.context.accepted := by
  intro s
  have haccepted : s.dispose.ledger.accepted = s.ledger.accepted := by
    rw [ledger_dispose, (Ledger.accepted_tearDown _).1, (Ledger.accepted_tearDown _).1]
  rw [← entered_after config host world steps, Ledger.entered, haccepted]
  rfl

/-- **Teardown happens once.** Whatever a new session goes through, the backends that it was handed and the
instances that modules have made are all different, and when its context has ended the teardown of each was
called exactly once. No teardown is called a second time, whatever happens later and when the plugins that
are held are let go. And no step of the session tears anything down but on an `Occasion`: what a discovery
made it tears down if it fails, in order, and else it stays up for a teardown or the end. -/
theorem teardown_once (config : Config) (host : Host σ) (world : σ) (steps later : List (Step σ)) :
    let s := after config host world steps
    let ended := s.dispose
    let released := (run later ended).2.release
    ((registered 0 steps).map Backend.id ++ s.context.accepted).Nodup ∧
      (∀ backend ∈ registered 0 steps, ended.context.teardowns.count backend.id = 1) ∧
      (∀ id ∈ s.context.accepted, ended.context.teardowns.count id = 1) ∧
      (∀ id, released.context.teardowns.count id ≤ 1) ∧
      s.context.teardowns <+: ended.context.teardowns ∧
      ended.context.teardowns <+: released.context.teardowns ∧
      ∀ step : Step σ, HasOccasion step s (s.step step).2 := by
  intro s ended released
  have hs : s.Accounted := accounted_run steps (accounted_start config host world)
  obtain ⟨hended, hstanding⟩ := continues_dispose hs
  have hlater := continues_run later hended.accounted
  have hreleased := continues_release hlater.accounted
  have hentered : ended.ledger.entered ended.arrivals = _ := entered_dispose config host world steps
  -- Nothing stands at the end, so the teardown of all that came in was called.
  have honce : ∀ id ∈ (registered 0 steps).map Backend.id ++ s.context.accepted,
      ended.context.teardowns.count id = 1 := by
    rw [← hentered]
    exact fun id hid => hended.accounted.balanced.count_teardowns hstanding hid
  refine ⟨?_, ?_, ?_, ?_, hended.prefix_teardowns, ?_, ?_⟩
  · rw [← hentered]
    exact hended.accounted.balanced.entered_nodup
  · exact fun backend hbackend => honce _ (List.mem_append_left _ (List.mem_map_of_mem hbackend))
  · exact fun id hid => honce _ (List.mem_append_right _ hid)
  · exact hreleased.accounted.balanced.count_teardowns_le
  · exact hlater.prefix_teardowns.trans hreleased.prefix_teardowns
  · exact fun step => hasOccasion_turn (turn_step step s) hs

end Session

end StorageDispatch
