import StorageDispatch.Proofs.Registry.Discovery
import StorageDispatch.Proofs.Session.Turn

set_option autoImplicit false

/-! # Failed discoveries stick

A discovery that fails is remembered. Until it is retried, or all backends are torn down, every lookup
fails with the same error, and no lookup looks at the plugin directory again or calls a backend
(`Context.Stuck`). That stays so whatever happens to the session: `stuck_turn` is one step, and `stuck_run` a
sequence of them. Backends that are handed over meanwhile wait in the queue.

**The result** is `discovery_settles`: what a discovery does, what a retried one does, and what a failure
means for everything that follows.
-/

namespace StorageDispatch

variable {σ : Type}

def Step.retries : Step σ → Bool
  | .request .rediscover => true
  | _ => false

namespace Context

/-- **A failed discovery is all that is known.** Each lookup returns it, and leaves the context exactly as it
is, also the record of events. -/
structure Stuck (error : PluginError) (c : Context σ) : Prop where
  phase_eq : c.registry.phase = .failed error
  discover_run : Registry.discover.run.run c = (.error (.discovery error), c)
  findFor_run : ∀ url capability, (Registry.findFor url capability).run.run c = (.error (.discovery error), c)
  findByName_run : ∀ name, (Registry.findByName name).run.run c = (.error (.discovery error), c)
  pluginNames_run : Registry.pluginNames.run.run c = (.error (.discovery error), c)

theorem stuck_of_failed {c : Context σ} {error : PluginError} (h : c.registry.phase = .failed error) :
    Stuck error c := by
  have hdiscover : Registry.discover.run.run c = (.error (.discovery error), c) := by
    unfold Registry.discover
    rw [run_get_bindE]
    dsimp only
    rw [h]
    rfl
  -- The other lookups begin with a discovery.
  have hbegin {α : Type} (f : List (Plugin σ) → Engine σ α) :
      (Registry.discover >>= f).run.run c = (.error (.discovery error), c) := by
    rw [run_bindE, hdiscover]
  exact ⟨h, hdiscover, fun _ _ => hbegin _, fun _ => hbegin _, hbegin _⟩

end Context

namespace Session

open Context

/-- The registry of a session after others joined the queue, and nothing else. -/
structure Queued (error : PluginError) (joined : List (Backend σ)) (s t : Session σ) : Prop where
  phase_eq : t.context.registry.phase = .failed error
  plugins_eq : t.context.registry.plugins = s.context.registry.plugins
  nextOrder_eq : t.context.registry.nextOrder = s.context.registry.nextOrder
  pending_eq : t.context.registry.pending = s.context.registry.pending ++ joined

variable {error : PluginError} {step : Step σ} {s t : Session σ}

theorem queued_of_ledger (hphase : s.context.registry.phase = .failed error)
    (h : t.ledger.registry = s.ledger.registry) : Queued error [] s t := by
  have hregistry : t.context.registry = s.context.registry := h
  refine ⟨?_, ?_, ?_, ?_⟩ <;> rw [hregistry]
  · exact hphase
  · exact (List.append_nil _).symm

/-- **What a turn does to a registry that has failed**, if the discovery is not retried and nothing is torn
down: a backend that is handed over joins the queue. -/
theorem queued_turn (hturn : Turn step s t) (hphase : s.context.registry.phase = .failed error)
    (hretries : step.retries = false) (hup : step.tearsDown = false) :
    Queued error (handed s.arrivals step) s t := by
  have hledger : s.ledger.registry.phase = .failed error := hphase
  -- Looking for the plugins once more leaves a failure as it is.
  have hknown : s.ledger.discover = s.ledger := Ledger.discover_of_ne (by rw [hledger]; nofun)
  cases hturn with
  | looked hstep hlooked =>
      have hsame : t.ledger = s.ledger := hlooked.elim id fun h => h.trans hknown
      rw [handed_of_ordinary hstep]
      exact queued_of_ledger hphase (congrArg Ledger.registry hsame)
  | rediscovered => exact Bool.noConfusion hretries
  | @registered make _ _ hregistered =>
      have hregistry : t.context.registry =
          { s.context.registry with
            pending := s.context.registry.pending ++ [newcomer s.arrivals make] } := by
        have h : t.ledger.registry = (s.ledger.register (newcomer s.arrivals make)).registry :=
          congrArg Ledger.registry hregistered
        rw [Ledger.register, hledger] at h
        exact h
      refine ⟨?_, ?_, ?_, ?_⟩ <;> rw [hregistry]
      · exact hphase
      · rfl
  | tornDown hrequest => exact Bool.noConfusion (hrequest.symm.trans hup)
  | @pluginTornDown label plugin _ _ _ htorn =>
      have h : t.ledger.registry = (s.ledger.tearDownPlugin plugin).registry :=
        congrArg Ledger.registry htorn
      rw [handed_eq_nil (by nofun)]
      unfold Ledger.tearDownPlugin at h
      split at h
      · exact queued_of_ledger hphase h
      · have hregistry : t.context.registry =
            { s.context.registry with tornDown := plugin.id :: s.context.registry.tornDown } := h
        refine ⟨?_, ?_, ?_, ?_⟩ <;> rw [hregistry]
        · exact hphase
        · exact (List.append_nil _).symm
  | nothingTornDown =>
      rw [handed_eq_nil (by nofun)]
      exact queued_of_ledger hphase rfl
  | hostChanged hledger =>
      rw [handed_eq_nil (by nofun)]
      refine queued_of_ledger hphase ?_
      rw [hledger]

/-- What a sequence of steps does to a registry that has failed. -/
theorem queued_run (hphase : s.context.registry.phase = .failed error) (later : List (Step σ))
    (hlater : ∀ step ∈ later, step.retries = false ∧ step.tearsDown = false) :
    Queued error (registered s.arrivals later) s (run later s).2 := by
  induction later generalizing s with
  | nil => exact queued_of_ledger hphase rfl
  | cons step later ih =>
      obtain ⟨hretries, hup⟩ := hlater step List.mem_cons_self
      have hturn := turn_step step s
      have hfirst := queued_turn hturn hphase hretries hup
      have hrest := ih hfirst.phase_eq fun other hother => hlater other (List.mem_cons_of_mem _ hother)
      rw [arrivals_turn hturn] at hrest
      refine ⟨hrest.phase_eq, hrest.plugins_eq.trans hfirst.plugins_eq,
        hrest.nextOrder_eq.trans hfirst.nextOrder_eq, ?_⟩
      have hpending := hrest.pending_eq
      rw [hfirst.pending_eq, List.append_assoc] at hpending
      exact hpending

/-- **Discovery is all or nothing, and a failure sticks.** In whatever session, with whatever in the plugin
directory and in the queue: the first discovery ends in one of the ways of `Discovered`; after a failed one,
a retried discovery does so again; and until then, or until a teardown of all backends, every lookup returns
the failure without looking at anything, and the backends that are handed over join the queue. -/
theorem discovery_settles (s : Session σ) :
    (s.context.registry.phase = .uninitialized →
      ∃ result made d, Discovered s.context result made d ∧
        Does Registry.discover s.context result made d) ∧
    ∀ error, s.context.registry.phase = .failed error →
      (∃ result made d, Discovered s.context.forgetting result made d ∧
        Does Registry.rediscover s.context result made d) ∧
      ∀ later, (∀ step ∈ later, step.retries = false ∧ step.tearsDown = false) →
        Stuck error (run later s).2.context ∧
          Queued error (registered s.arrivals later) s (run later s).2 := by
  refine ⟨Registry.discover_discovered, fun error hphase => ?_⟩
  refine ⟨Registry.rediscover_discovered hphase, fun later hlater => ?_⟩
  have hqueued := queued_run hphase later hlater
  exact ⟨stuck_of_failed hqueued.phase_eq, hqueued⟩

def faulty : List (String × PluginFile Unit) :=
  [("a.so", .library (some fun _ id => .ofResult (.ok (idle "a" 0 id)))),
    ("b.so", .library (some fun _ _ => .ofResult (.error ⟨.noEntry, "no tape"⟩))),
    ("c.so", .library (some fun _ id => .ofResult (.ok (idle "c" 0 id)))),
    ("d.so", .directory), ("notes.txt", .garbage)]

theorem namesIn_faulty : Loader.namesIn "m" (.files faulty) = .ok ["a.so", "b.so", "c.so"] := by
  have hsorted : faulty.Pairwise fun a b => Loader.namePrecedes a.1 b.1 := by decide +kernel
  rw [Loader.namesIn, Loader.sortFiles, List.mergeSort_of_pairwise hsorted]
  rfl

def hopeful : Context Unit where
  config := { pluginDir := some "m" }
  host := { directory := fun _ => .files faulty }
  world := ()
  registry := { pending := [idle "s" 0 (.registered 0)] }

/-- The first of its modules is torn down again, and the third one never loaded. -/
theorem discover_hopeful :
    Does Registry.discover hopeful (.error (.discovery (.initFailed "m/b.so" ⟨.noEntry, "no tape"⟩)))
      [(.loaded 0, "a", .teardown)]
      { hopeful with registry := { hopeful.registry with
          phase := .failed (.initFailed "m/b.so" ⟨.noEntry, "no tape"⟩), loads := 2 } } := by
  have hscan : hopeful.ledger.scan = ⟨[⟨idle "a" 0 (.loaded 0), "m/a.so"⟩],
      some (.initFailed "m/b.so" ⟨.noEntry, "no tape"⟩), 2⟩ := by
    show Ledger.scanNamed _ "m" (Loader.namesIn "m" (.files faulty)) = _
    rw [namesIn_faulty]
    rfl
  have hdoes := Registry.loadModules_does hopeful
  rw [hscan] at hdoes
  exact Registry.discover_does rfl (Registry.runDiscovery_does_error hdoes)

def disappointed : Session Unit where
  context := (Registry.discover.run.run hopeful).2
  arrivals := 1

/-- The module is replaced, and another backend comes. -/
def repaired : List (Step Unit) :=
  [.changeHost fun _ => {}, .register (idle "t" 0), .request (.findByName "s"), .request .discover]

theorem discovery_settles_disappointed :
    let error : PluginError := .initFailed "m/b.so" ⟨.noEntry, "no tape"⟩
    disappointed.context.registry.phase = .failed error ∧
      (∃ result made d, Discovered disappointed.context.forgetting result made d ∧
        Does Registry.rediscover disappointed.context result made d) ∧
      Stuck error (run repaired disappointed).2.context ∧
      Queued error (registered 1 repaired) disappointed (run repaired disappointed).2 := by
  have hphase : disappointed.context.registry.phase =
      .failed (.initFailed "m/b.so" ⟨.noEntry, "no tape"⟩) := by
    obtain ⟨events, hleft⟩ := discover_hopeful.context_eq
    rw [disappointed, hleft]
    rfl
  obtain ⟨hretried, hsticky⟩ := (discovery_settles disappointed).2 _ hphase
  exact ⟨hphase, hretried, hsticky repaired (by decide)⟩

end Session

end StorageDispatch
