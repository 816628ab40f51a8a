import StorageDispatch.Proofs.Registry.Moves

set_option autoImplicit false

/-! # What a step of a session can do

`Turn step s t` lists what a step does to the ledger of a session, to the number of backends that were
handed over, and to the plugins that its user holds. Most steps look for the backends at most
(`Step.ordinary`); the others are a retried discovery, a registration, the teardowns, and a change of the
machine. `turn_step` says that every step is a turn, so a property of sessions that every turn keeps holds
after every run (`run_induction`).
-/

namespace StorageDispatch

variable {σ : Type}

/-- Whether a step leaves the backends alone but for a first discovery. -/
def Step.ordinary : Step σ → Bool
  | .request work => work.ordinary
  | .register _ | .tearDownHeld _ | .changeHost _ => false
  | _ => true

def Request.tearsDown : Request σ → Bool
  | .tearDownRegistry | .tearDown => true
  | _ => false

theorem Request.ordinary_of_tearsDown {request : Request σ} (h : request.tearsDown = true) :
    request.ordinary = false := by
  cases request <;> first | rfl | exact Bool.noConfusion h

namespace Session

open Context

def ledger (s : Session σ) : Ledger σ := s.context.ledger

/-- What a step can do to a session. -/
inductive Turn : Step σ → Session σ → Session σ → Prop
  /-- The backends were looked for at most, and a plugin that is held anew is one of the registry. -/
  | looked {step : Step σ} {s t : Session σ} (hstep : step.ordinary = true)
      (hledger : t.ledger = s.ledger ∨ t.ledger = s.ledger.discover)
      (harrivals : t.arrivals = s.arrivals)
      (hheld : ∀ entry ∈ t.held, entry ∈ s.held ∨ entry.2 ∈ t.ledger.registry.plugins) : Turn step s t
  | rediscovered {s t : Session σ} (hledger : t.ledger = s.ledger.rediscover)
      (harrivals : t.arrivals = s.arrivals) (hheld : t.held = s.held) :
      Turn (.request .rediscover) s t
  | registered {make : InstanceId → Backend σ} {s t : Session σ}
      (hledger : t.ledger = s.ledger.register (newcomer s.arrivals make))
      (harrivals : t.arrivals = s.arrivals + 1) (hheld : t.held = s.held) : Turn (.register make) s t
  | tornDown {request : Request σ} {s t : Session σ} (hrequest : request.tearsDown = true)
      (hledger : t.ledger = s.ledger.tearDown) (harrivals : t.arrivals = s.arrivals)
      (hheld : t.held = s.held) : Turn (.request request) s t
  | pluginTornDown {label : String} {plugin : Plugin σ} {s t : Session σ}
      (hplugin : (label, plugin) ∈ s.held) (hledger : t.ledger = s.ledger.tearDownPlugin plugin)
      (harrivals : t.arrivals = s.arrivals) (hheld : t.held = s.held) : Turn (.tearDownHeld label) s t
  | nothingTornDown {label : String} {s : Session σ} (hnone : s.held.lookup label = none) :
      Turn (.tearDownHeld label) s s
  | hostChanged {change : Host σ → Host σ} {s t : Session σ}
      (hledger : t.ledger = { s.ledger with host := change s.ledger.host })
      (harrivals : t.arrivals = s.arrivals) (hheld : t.held = s.held) : Turn (.changeHost change) s t

/-! ## Backends that are handed over -/

/-- The backend that a step hands over for registration, if `n` were handed over before. -/
def handed (n : Nat) : Step σ → List (Backend σ)
  | .register make => [newcomer n make]
  | _ => []

/-- The backends that a sequence of steps hands over for registration, in order. -/
def registered : Nat → List (Step σ) → List (Backend σ)
  | _, [] => []
  | n, step :: steps => handed n step ++ registered (n + (handed n step).length) steps

theorem handed_eq_nil {step : Step σ} (h : ∀ make, step ≠ .register make) (n : Nat) :
    handed n step = [] := by
  cases step with
  | register make => exact absurd rfl (h make)
  | _ => rfl

theorem handed_of_ordinary {step : Step σ} (h : step.ordinary = true) (n : Nat) :
    handed n step = [] := by
  refine handed_eq_nil (fun make heq => ?_) n
  subst heq
  exact Bool.noConfusion h

theorem registered_append (n : Nat) (before after : List (Step σ)) :
    registered n (before ++ after) =
      registered n before ++ registered (n + (registered n before).length) after := by
  induction before generalizing n with
  | nil => rfl
  | cons step steps ih =>
      rw [List.cons_append, registered, registered, ih, List.append_assoc, List.length_append,
        Nat.add_assoc]

/-- The backends that are handed over are numbered in order. -/
theorem id_registered (n : Nat) (steps : List (Step σ)) :
    (registered n steps).map Backend.id =
      (List.range' n (registered n steps).length).map .registered := by
  induction steps generalizing n with
  | nil => rfl
  | cons step steps ih =>
      have hhanded : (handed n step).map Backend.id =
          (List.range' n (handed n step).length).map .registered := by
        cases step <;> rfl
      rw [registered, List.map_append, hhanded, ih, List.length_append, ← List.range'_append_1,
        List.map_append]

theorem arrivals_turn {step : Step σ} {s t : Session σ} (h : Turn step s t) :
    t.arrivals = s.arrivals + (handed s.arrivals step).length := by
  cases h with
  | looked hstep _ harrivals =>
      rw [handed_of_ordinary hstep]
      exact harrivals
  | registered _ harrivals => exact harrivals
  | rediscovered _ harrivals | tornDown _ _ harrivals | pluginTornDown _ _ harrivals
  | hostChanged _ harrivals => exact harrivals
  | nothingTornDown => rfl

/-! ## Steps that look at most -/

/-- A session follows another one if its context does, and the rest is as it was. -/
structure Looked (s t : Session σ) : Prop where
  follows : Follows s.context t.context
  arrivals_eq : t.arrivals = s.arrivals
  held_eq : t.held = s.held

theorem Looked.refl (s : Session σ) : Looked s s := ⟨follows_frame.refl _, rfl, rfl⟩

theorem Looked.trans {s t u : Session σ} (h : Looked s t) (h' : Looked t u) : Looked s u :=
  ⟨h.follows.trans h'.follows, h'.arrivals_eq.trans h.arrivals_eq, h'.held_eq.trans h.held_eq⟩

theorem Looked.turn {step : Step σ} {s t : Session σ} (h : Looked s t) (hstep : step.ordinary = true) :
    Turn step s t := by
  refine .looked hstep h.follows h.arrivals_eq fun entry hentry => .inl ?_
  rwa [h.held_eq] at hentry

theorem looked_within {α : Type} {work : Engine σ α} (h : Keeps Follows work) (s : Session σ) :
    Looked s (s.within work).2 := ⟨h s.context, rfl, rfl⟩

theorem looked_withKept {β : Type} (labelled : List (String × β)) (name : String)
    {work : β → Engine σ Value} (h : ∀ b, Keeps Follows (work b)) (s : Session σ) :
    Looked s (s.withKept labelled name work).2 := by
  unfold withKept
  cases labelled.lookup name with
  | none => exact .refl s
  | some kept => exact looked_within (h kept) s

theorem looked_noting {α : Type} {work : Engine σ α} {note : α → Session σ → Session σ}
    {value : α → Engine σ Value} (hwork : Keeps Follows work) (hvalue : ∀ a, Keeps Follows (value a))
    (hnote : ∀ a t, Looked t (note a t)) (s : Session σ) : Looked s (s.noting work note value).2 := by
  have hlooked := looked_within hwork s
  unfold noting
  generalize s.within work = found at hlooked ⊢
  rcases found with ⟨outcome, t⟩
  cases outcome with
  | error error => exact hlooked
  | ok a => exact (hlooked.trans (hnote a t)).trans (looked_within (hvalue a) _)

theorem keeps_pluginValue (plugin : Plugin σ) : Keeps Follows (pluginValue plugin) :=
  follows_frame.bindE (follows_frame.describePlugin plugin).perform fun _ => follows_frame.pureE _

theorem keeps_handleValue (id : HandleId) : Keeps Follows (handleValue id : Engine σ Value) :=
  follows_frame.bindE (follows_frame.describeHandle id).perform fun _ => follows_frame.pureE _

theorem keeps_currentList : Keeps Follows (currentList : Engine σ Nat) :=
  follows_frame.bindE follows_frame.discover fun _ =>
    follows_frame.bindE follows_frame.getE fun _ => follows_frame.pureE _

/-- What is found under a label is kept under it. -/
theorem mem_of_lookup {β : Type} {labelled : List (String × β)} {name : String} {b : β}
    (h : labelled.lookup name = some b) : (name, b) ∈ labelled := by
  obtain ⟨before, after, hsplit, -⟩ := List.lookup_eq_some_iff.mp h
  rw [hsplit]
  exact List.mem_append_right _ List.mem_cons_self

/-! ## Looking a plugin up to hold it -/

theorem turn_hold (name word : String) (s : Session σ) :
    Turn (.hold name word) s (s.step (.hold name word)).2 := by
  have hlooked := looked_within (follows_frame.routing.findByName name) s
  have hmem : ∀ plugin, (s.within (Registry.findByName name)).1 = .ok plugin →
      plugin ∈ (s.within (Registry.findByName name)).2.ledger.registry.plugins :=
    fun plugin h => (Registry.findByName_ok (c := s.context) (Prod.ext h rfl)).2
  show Turn _ s (s.noting (Registry.findByName name) _ pluginValue).2
  unfold noting
  generalize s.within (Registry.findByName name) = found at hlooked hmem ⊢
  rcases found with ⟨outcome, t⟩
  cases outcome with
  | error error => exact hlooked.turn rfl
  | ok plugin =>
      dsimp only
      -- Telling about the plugin changes nothing any more.
      have hledger : t.ledger = s.ledger ∨ t.ledger = s.ledger.discover := hlooked.follows
      refine .looked rfl hledger hlooked.arrivals_eq fun entry hentry => ?_
      rcases List.mem_cons.mp hentry with rfl | hentry
      · exact .inr (hmem plugin rfl)
      · rw [← hlooked.held_eq]
        exact .inl (List.mem_of_mem_filter hentry)

/-! ## Every step is a turn -/

theorem turn_step (step : Step σ) (s : Session σ) : Turn step s (s.step step).2 := by
  cases step with
  | request request =>
      -- All requests but three leave the registry alone; those three have lemmas of their own.
      by_cases hordinary : request.ordinary = true
      · exact (looked_within (Request.respects_serve follows_frame hordinary) s).turn hordinary
      · cases request <;> try exact absurd rfl hordinary
        case rediscover =>
          refine .rediscovered ?_ rfl rfl
          have hledger := (Registry.rediscover_run s.context).2
          show ((Registry.rediscover >>= fun _ => _).run.run s.context).2.ledger = _
          rw [run_bindE]
          generalize Registry.rediscover.run.run s.context = found at hledger ⊢
          rcases found with ⟨_ | _, d⟩ <;> exact hledger
        case tearDownRegistry => exact .tornDown rfl (Registry.teardown_run s.context) rfl rfl
        case tearDown => exact .tornDown rfl (Context.teardown_run s.context) rfl rfl
  | register make => exact .registered (Registry.register_run _ _) rfl rfl
  | hold name label => exact turn_hold name label s
  | held label => exact (looked_withKept s.held label keeps_pluginValue s).turn rfl
  | tearDownHeld label =>
      show Turn _ s (s.withKept s.held label _).2
      unfold withKept
      cases hlookup : s.held.lookup label with
      | none => exact .nothingTornDown hlookup
      | some plugin =>
          exact .pluginTornDown (mem_of_lookup hlookup) (plugin.teardown_run s.context).2 rfl rfl
  | letGo label =>
      exact .looked rfl (.inl rfl) rfl fun entry hentry => .inl (List.mem_of_mem_filter hentry)
  | keep key label =>
      refine Looked.turn ?_ rfl
      refine looked_noting (follows_frame.storing.findHandle .file key) keeps_handleValue ?_ s
      exact fun _ t => ⟨follows_frame.refl t.context, rfl, rfl⟩
  | kept label => exact (looked_withKept s.kept label keeps_handleValue s).turn rfl
  | compareList label =>
      refine Looked.turn ?_ rfl
      refine looked_noting keeps_currentList (fun _ => follows_frame.pureE _) ?_ s
      exact fun _ t => ⟨follows_frame.refl t.context, rfl, rfl⟩
  | changeWorld change => exact .looked rfl (.inl rfl) rfl fun entry hentry => .inl hentry
  | changeHost change => exact .hostChanged rfl rfl rfl

/-! ## Runs -/

theorem run_append (before after : List (Step σ)) (s : Session σ) :
    (run (before ++ after) s).2 = (run after (run before s).2).2 := by
  induction before generalizing s with
  | nil => rfl
  | cons step steps ih => exact ih _

theorem arrivals_run (steps : List (Step σ)) (s : Session σ) :
    (run steps s).2.arrivals = s.arrivals + (registered s.arrivals steps).length := by
  induction steps generalizing s with
  | nil => rfl
  | cons step steps ih =>
      have hstep := arrivals_turn (turn_step step s)
      show (run steps (s.step step).2).2.arrivals = _
      rw [ih, hstep, registered, List.length_append, Nat.add_assoc]

/-- **What every turn keeps, every run keeps.** -/
theorem run_induction {P : Session σ → Prop}
    (hturn : ∀ {step : Step σ} {s t : Session σ}, Turn step s t → P s → P t)
    (steps : List (Step σ)) {s : Session σ} (h : P s) : P (run steps s).2 := by
  induction steps generalizing s with
  | nil => exact h
  | cons step steps ih => exact ih (hturn (turn_step step s) h)

/-! ## Runs from the start -/

section Start

variable (config : Config) (host : Host σ) (world : σ)

def after (steps : List (Step σ)) : Session σ := (run steps (start config host world)).2

theorem after_concat (steps : List (Step σ)) (step : Step σ) :
    after config host world (steps ++ [step]) = ((after config host world steps).step step).2 := by
  rw [after, run_append]
  rfl

theorem arrivals_after (steps : List (Step σ)) :
    (after config host world steps).arrivals = (registered 0 steps).length := by
  have harrivals : (after config host world steps).arrivals = 0 + (registered 0 steps).length :=
    arrivals_run steps _
  rwa [Nat.zero_add] at harrivals

theorem registered_concat (steps : List (Step σ)) (step : Step σ) :
    registered 0 (steps ++ [step]) =
      registered 0 steps ++ handed (after config host world steps).arrivals step := by
  rw [registered_append, registered, registered, List.append_nil, arrivals_after, Nat.zero_add]

end Start

end Session

end StorageDispatch
