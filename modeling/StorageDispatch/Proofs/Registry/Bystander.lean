import StorageDispatch.Proofs.Registry.Listing

set_option autoImplicit false

/-! # Bystanders

A bystander is a backend that claims no URL, and that leaves the world as good as it was whatever it is asked.
It stands in a registry beside the other backends, and they are in the same order with it as without it. But
for that, its presence moves load orders up and, from its arrival on, the identities of those who come later
(`InstanceId.shift`).

`Registry.Flanked` compares a registry with one where the bystander is there too. The two lists of plugins are
compared pair by pair (`Bystander.Listed`): what a pair has in common is all that sorting looks at, so the
pairs are still pairs after it (`Listed.sort`). For going through two lists side by side, `Joined` says the
same in the way in which lists are built.
-/

namespace StorageDispatch

variable {σ α β γ δ : Type}

/-! ## Lists with others between -/

/-- **A list joined by others**: the second list is the first one, entry by entry along `R`, with entries
of the kind `P` anywhere between. -/
inductive Joined (R : α → β → Prop) (P : β → Prop) : List α → List β → Prop
  | nil : Joined R P [] []
  | both {a : α} {b : β} {l : List α} {l' : List β} (hab : R a b) (h : Joined R P l l') :
      Joined R P (a :: l) (b :: l')
  | other {b : β} {l : List α} {l' : List β} (hb : P b) (h : Joined R P l l') : Joined R P l (b :: l')

namespace Joined

variable {R : α → β → Prop} {P : β → Prop} {l : List α} {l' : List β}

theorem append {m : List α} {m' : List β} (h : Joined R P l l') (hm : Joined R P m m') :
    Joined R P (l ++ m) (l' ++ m') := by
  induction h with
  | nil => exact hm
  | both hab _ ih => exact .both hab ih
  | other hb _ ih => exact .other hb ih

theorem map {S : γ → δ → Prop} {Q : δ → Prop} {f : α → γ} {g : β → δ} (h : Joined R P l l')
    (hboth : ∀ a b, R a b → S (f a) (g b)) (hother : ∀ b, P b → Q (g b)) :
    Joined S Q (l.map f) (l'.map g) := by
  induction h with
  | nil => exact .nil
  | both hab _ ih => exact .both (hboth _ _ hab) ih
  | other hb _ ih => exact .other (hother _ hb) ih

theorem eq_nil (h : Joined R P l []) : l = [] := by
  cases h
  rfl

/-- A list without others. -/
theorem of_self {R : α → α → Prop} {P : α → Prop} {l : List α} (h : ∀ a ∈ l, R a a) : Joined R P l l := by
  induction l with
  | nil => exact .nil
  | cons a l ih =>
      rw [List.forall_mem_cons] at h
      exact .both h.1 (ih h.2)

/-- A list joined by others, from its pairs. -/
theorem of_pairs {keep : β → Bool} {pairs : List (α × β)} (hpairs : ∀ pair ∈ pairs, R pair.1 pair.2)
    (hkept : pairs.map Prod.snd = l'.filter keep) (hother : ∀ b ∈ l', keep b = false → P b) :
    Joined R P (pairs.map Prod.fst) l' := by
  induction l' generalizing pairs with
  | nil =>
      rw [List.filter_nil, List.map_eq_nil_iff] at hkept
      rw [hkept]
      exact .nil
  | cons b l' ih =>
      rw [List.forall_mem_cons] at hother
      -- An entry that is kept is the one of the first pair.
      cases hb : keep b with
      | false =>
          rw [List.filter_cons_of_neg (Bool.eq_false_iff.mp hb)] at hkept
          exact .other (hother.1 hb) (ih hpairs hkept hother.2)
      | true =>
          rw [List.filter_cons_of_pos hb] at hkept
          obtain ⟨pair, pairs, rfl, rfl, htail⟩ := List.map_eq_cons_iff.mp hkept
          rw [List.forall_mem_cons] at hpairs
          exact .both hpairs.1 (ih hpairs.2 htail hother.2)

end Joined

/-! ## Identities -/

/-- The identity that an instance has if one more backend was handed over as the n-th. -/
def InstanceId.shift (n : Nat) : InstanceId → InstanceId
  | registered k => .registered (if k < n then k else k + 1)
  | loaded k => .loaded k

theorem InstanceId.shift_injective (n : Nat) : Function.Injective (InstanceId.shift n) := by
  intro id id' h
  cases id with
  | loaded k =>
      cases id' with
      | loaded => exact h
      | registered => cases h
  | registered k =>
      cases id' with
      | loaded => cases h
      | registered k' =>
          have hk : (if k < n then k else k + 1) = if k' < n then k' else k' + 1 :=
            InstanceId.registered.inj h
          rw [InstanceId.registered.injEq]
          split at hk <;> split at hk <;> omega

/-- Nobody has the identity of the one who came in between. -/
theorem InstanceId.shift_ne (n : Nat) (id : InstanceId) : id.shift n ≠ .registered n := by
  cases id with
  | loaded => nofun
  | registered k =>
      intro h
      have hk : (if k < n then k else k + 1) = n := InstanceId.registered.inj h
      split at hk <;> omega

theorem InstanceId.shift_of_lt {n k : Nat} (h : k < n) :
    (InstanceId.registered k).shift n = .registered k := by rw [shift, if_pos h]

theorem InstanceId.shift_of_le {n k : Nat} (h : n ≤ k) :
    (InstanceId.registered k).shift n = .registered (k + 1) := by rw [shift, if_neg (Nat.not_lt.mpr h)]

/-! ## Backends beside a bystander -/

namespace Backend

/-- **Backends that cannot be told apart** where worlds are as good as each other: they look the same, and
give the same answers, in worlds that stay as good as each other. -/
structure Alike (Same : σ → σ → Prop) (b b' : Backend σ) : Prop where
  name_eq : b'.name = b.name
  priority_eq : b'.priority = b.priority
  answer_eq : ∀ call world world', Same world world' → (b'.respond call world').1 = (b.respond call world).1
  world : ∀ call world world', Same world world' → Same (b.respond call world).2 (b'.respond call world').2

/-- **An inert backend**: it claims no URL, and the world stays as good as it was when the backend is asked
about one and when it is torn down. -/
structure Inert (Same : σ → σ → Prop) (b : Backend σ) : Prop where
  declines : ∀ url capability world world', Same world world' →
    (b.respond (.checkUrl url capability) world').1 = .ok false
  asked : ∀ url capability world world', Same world world' →
    Same world (b.respond (.checkUrl url capability) world').2
  torn : ∀ world world', Same world world' → Same world (b.respond .teardown world').2

end Backend

/-- **A bystander**: an inert backend, as it is handed over for registration. -/
structure Bystander (σ : Type) where
  /-- Worlds that nobody but the bystander can tell apart. -/
  Same : σ → σ → Prop
  backend : Backend σ
  /-- Number of backends that were handed over before. -/
  number : Nat
  id_eq : backend.id = .registered number
  inert : backend.Inert Same

namespace Bystander

variable (B : Bystander σ)

/-- The same backend in a context without the bystander and in one with it. -/
structure Twin (b b' : Backend σ) : Prop extends b.Alike B.Same b' where
  id_eq : b'.id = b.id.shift B.number

def others (id : InstanceId) : Bool := id != B.backend.id

/-- **Plugins with and without the bystander, pair by pair.** -/
structure Listed (pairs : List (Plugin σ × Plugin σ)) (l l' : List (Plugin σ)) : Prop where
  left : pairs.map Prod.fst = l
  right : pairs.map Prod.snd = l'.filter fun plugin => B.others plugin.id
  twins : ∀ pair ∈ pairs, B.Twin pair.1.backend pair.2.backend
  /-- The bystander moves load orders, but does not change which of two comes first. -/
  orders : ∀ a ∈ pairs, ∀ b ∈ pairs, a.1.loadOrder ≤ b.1.loadOrder ↔ a.2.loadOrder ≤ b.2.loadOrder
  rest : ∀ plugin ∈ l', B.others plugin.id = false → plugin.backend = B.backend

/-- Lists of plugins that are gone through side by side. -/
abbrev Beside : List (Plugin σ) → List (Plugin σ) → Prop :=
  Joined (fun p p' => B.Twin p.backend p'.backend) fun p => p.backend = B.backend

variable {B}

theorem others_backend : B.others B.backend.id = false := bne_self_eq_false _

theorem Twin.others {b b' : Backend σ} (h : B.Twin b b') : B.others b'.id = true := by
  refine bne_iff_ne.mpr ?_
  rw [h.id_eq, B.id_eq]
  exact InstanceId.shift_ne _ _

namespace Listed

variable {pairs more : List (Plugin σ × Plugin σ)} {l l' m m' : List (Plugin σ)}

theorem nil : B.Listed [] [] [] := ⟨rfl, rfl, nofun, nofun, nofun⟩

theorem twin {p p' : Plugin σ} (h : B.Twin p.backend p'.backend) : B.Listed [(p, p')] [p] [p'] where
  left := rfl
  right := by
    have hkept : ∀ plugin ∈ [p'], B.others plugin.id = true := List.forall_mem_singleton.mpr h.others
    exact (List.filter_eq_self.mpr hkept).symm
  twins pair hpair := by
    rw [List.mem_singleton.mp hpair]
    exact h
  orders a ha b hb := by
    rw [List.mem_singleton.mp ha, List.mem_singleton.mp hb]
    exact iff_of_true (Nat.le_refl _) (Nat.le_refl _)
  rest plugin hplugin hothers := by
    rw [List.mem_singleton.mp hplugin] at hothers
    exact Bool.noConfusion (h.others.symm.trans hothers)

/-- The bystander itself is in no pair. -/
theorem bystander {p : Plugin σ} (h : p.backend = B.backend) : B.Listed [] [] [p] where
  left := rfl
  right := by
    have hleft : ∀ plugin ∈ [p], ¬ B.others plugin.id = true := by
      rw [List.forall_mem_singleton, Plugin.id, h, others_backend]
      exact Bool.false_ne_true
    exact (List.filter_eq_nil_iff.mpr hleft).symm
  twins := nofun
  orders := nofun
  rest plugin hplugin _ := by rw [List.mem_singleton.mp hplugin, h]

theorem beside (h : B.Listed pairs l l') : B.Beside l l' := by
  rw [← h.left]
  exact .of_pairs h.twins h.right h.rest

/-- Plugins that stand behind all that were there. -/
theorem append (h : B.Listed pairs l l') (hm : B.Listed more m m')
    (hlt : ∀ p ∈ l, ∀ q ∈ m, p.loadOrder < q.loadOrder)
    (hlt' : ∀ p ∈ l', ∀ q ∈ m', p.loadOrder < q.loadOrder) :
    B.Listed (pairs ++ more) (l ++ m) (l' ++ m') where
  left := by rw [List.map_append, h.left, hm.left]
  right := by rw [List.map_append, List.filter_append, h.right, hm.right]
  twins pair hpair := (List.mem_append.mp hpair).elim (h.twins pair) (hm.twins pair)
  orders a ha b hb := by
    have hfst {pairs : List (Plugin σ × Plugin σ)} {l l' : List (Plugin σ)} (h : B.Listed pairs l l')
        {pair : Plugin σ × Plugin σ} (hpair : pair ∈ pairs) : pair.1 ∈ l ∧ pair.2 ∈ l' := by
      refine ⟨?_, (List.mem_filter.mp (?_ : pair.2 ∈ l'.filter fun plugin => B.others plugin.id)).1⟩
      · rw [← h.left]
        exact List.mem_map_of_mem hpair
      · rw [← h.right]
        exact List.mem_map_of_mem hpair
    -- Two of the same part are as they were; of two parts, the first one's comes first on both sides.
    rcases List.mem_append.mp ha with ha | ha <;> rcases List.mem_append.mp hb with hb | hb
    · exact h.orders a ha b hb
    · have hab := hlt _ (hfst h ha).1 _ (hfst hm hb).1
      have hab' := hlt' _ (hfst h ha).2 _ (hfst hm hb).2
      omega
    · have hba := hlt _ (hfst h hb).1 _ (hfst hm ha).1
      have hba' := hlt' _ (hfst h hb).2 _ (hfst hm ha).2
      omega
    · exact hm.orders a ha b hb
  rest plugin hplugin := (List.mem_append.mp hplugin).elim (h.rest plugin) (hm.rest plugin)

/-- **Sorting keeps the pairs.** -/
theorem sort (h : B.Listed pairs l l') (hnodup : (l'.map Plugin.loadOrder).Nodup) :
    B.Listed (pairs.mergeSort fun a b => a.1.precedes b.1) (sortPlugins l) (sortPlugins l') := by
  have hmem : ∀ pair, pair ∈ pairs.mergeSort (fun a b => a.1.precedes b.1) ↔ pair ∈ pairs :=
    fun pair => List.mem_mergeSort
  -- What sorting looks at is the same for both plugins of a pair.
  have hprecedes : ∀ a ∈ pairs, ∀ b ∈ pairs, a.1.precedes b.1 = a.2.precedes b.2 := by
    intro a ha b hb
    have hpriority (pair) (hpair : pair ∈ pairs) : pair.2.priority = pair.1.priority :=
      (h.twins pair hpair).priority_eq
    have horders := h.orders a ha b hb
    rw [Bool.eq_iff_iff, Plugin.precedes_iff, Plugin.precedes_iff, hpriority a ha, hpriority b hb, horders]
  refine ⟨?_, ?_, ?_, ?_, ?_⟩
  · rw [← h.left]
    exact List.map_mergeSort fun a _ b _ => rfl
  · calc (pairs.mergeSort fun a b => a.1.precedes b.1).map Prod.snd
        = sortPlugins (pairs.map Prod.snd) := List.map_mergeSort hprecedes
      _ = sortPlugins (l'.filter fun plugin => B.others plugin.id) := by rw [h.right]
      _ = (sortPlugins l').filter fun plugin => B.others plugin.id := sortPlugins_filter _ hnodup
  · exact fun pair hpair => h.twins pair ((hmem pair).mp hpair)
  · exact fun a ha b hb => h.orders a ((hmem a).mp ha) b ((hmem b).mp hb)
  · exact fun plugin hplugin => h.rest plugin ((sortPlugins_perm l').mem_iff.mp hplugin)

end Listed

abbrev Joining : List (Backend σ × PluginOrigin) → List (Backend σ × PluginOrigin) → Prop :=
  Joined (fun n n' => B.Twin n.1 n'.1) fun n => n.1 = B.backend

/-- Newcomers are numbered in turn. -/
theorem listed_numbered {newcomers newcomers' : List (Backend σ × PluginOrigin)}
    (h : B.Joining newcomers newcomers') (first first' : Nat) :
    ∃ pairs, B.Listed pairs (Registry.numbered first newcomers) (Registry.numbered first' newcomers') := by
  induction h generalizing first first' with
  | nil => exact ⟨[], .nil⟩
  | @both n n' newcomers newcomers' htwin _ ih =>
      obtain ⟨pairs, hpairs⟩ := ih (first + 1) (first' + 1)
      have hhead : B.Listed _ [⟨n.1, first, n.2⟩] [⟨n'.1, first', n'.2⟩] := .twin htwin
      refine ⟨_, hhead.append hpairs (fun p hp q hq => ?_) (fun p hp q hq => ?_)⟩
      · rw [List.mem_singleton.mp hp]
        exact (Registry.loadOrder_of_mem_numbered hq).1
      · rw [List.mem_singleton.mp hp]
        exact (Registry.loadOrder_of_mem_numbered hq).1
  | @other n' newcomers newcomers' hbystander _ ih =>
      -- The bystander takes a load order on its side only.
      obtain ⟨pairs, hpairs⟩ := ih first (first' + 1)
      have hhead : B.Listed _ [] [⟨n'.1, first', n'.2⟩] := .bystander hbystander
      refine ⟨_, hhead.append hpairs nofun fun p hp q hq => ?_⟩
      rw [List.mem_singleton.mp hp]
      exact (Registry.loadOrder_of_mem_numbered hq).1

/-- **Newcomers join both lists of plugins in the same order.** -/
theorem listed_enroll {r r' : Registry σ} (hr : r.Ranked) (hr' : r'.Ranked)
    {pairs : List (Plugin σ × Plugin σ)} (h : B.Listed pairs r.plugins r'.plugins)
    {newcomers newcomers' : List (Backend σ × PluginOrigin)} (hnew : B.Joining newcomers newcomers') :
    ∃ pairs, B.Listed pairs (r.enroll newcomers).plugins (r'.enroll newcomers').plugins := by
  obtain ⟨more, hmore⟩ := listed_numbered hnew r.nextOrder r'.nextOrder
  have hall := h.append hmore
    (fun p hp q hq => Nat.lt_of_lt_of_le (hr.lt p hp) (Registry.loadOrder_of_mem_numbered hq).1)
    (fun p hp q hq => Nat.lt_of_lt_of_le (hr'.lt p hp) (Registry.loadOrder_of_mem_numbered hq).1)
  exact ⟨_, hall.sort (hr'.nodup_append newcomers')⟩

end Bystander

/-! ## Registries with a bystander -/

theorem Registry.Consistent.ranked {registry : Registry σ} (h : registry.Consistent) : registry.Ranked := by
  cases hphase : registry.phase with
  | uninitialized => exact (h.ordered_of_waiting (.inl hphase)).ranked
  | failed error => exact (h.ordered_of_waiting (.inr ⟨error, hphase⟩)).ranked
  | ready => exact (h.ordered_of_ready hphase).2.ranked
  | tornDown => exact .of_nil (h.empty_of_tornDown hphase).1

/-- **A registry, and one where the bystander is there too**, unless it was torn down. -/
structure Registry.Flanked (B : Bystander σ) (r r' : Registry σ) : Prop where
  phase_eq : r'.phase = r.phase
  loads_eq : r'.loads = r.loads
  tornDown_iff : ∀ id : InstanceId, id.shift B.number ∈ r'.tornDown ↔ id ∈ r.tornDown
  listed : ∃ pairs, B.Listed pairs r.plugins r'.plugins
  queued : Joined B.Twin (· = B.backend) r.pending r'.pending
  ranked : r.Ranked
  ranked' : r'.Ranked
  gone : r.phase = .tornDown → r'.plugins = []

namespace Registry.Flanked

variable {B : Bystander σ} {r r' : Registry σ}

theorem beside (h : Flanked B r r') : B.Beside r.plugins r'.plugins :=
  h.listed.elim fun _ hpairs => hpairs.beside

/-- Before the bystander comes, a registry is compared with itself. -/
theorem refl (hranked : r.Ranked) (hgone : r.phase = .tornDown → r.plugins = [])
    (hplugins : ∀ plugin ∈ r.plugins, B.Twin plugin.backend plugin.backend)
    (hpending : ∀ backend ∈ r.pending, B.Twin backend backend)
    (htornDown : ∀ id ∈ r.tornDown, id.shift B.number = id) : Flanked B r r where
  phase_eq := rfl
  loads_eq := rfl
  tornDown_iff id := by
    refine ⟨fun h => ?_, fun h => ?_⟩
    · rwa [InstanceId.shift_injective B.number (htornDown _ h)] at h
    · rwa [htornDown id h]
  listed := by
    refine ⟨r.plugins.map fun plugin => (plugin, plugin), ?_, ?_, ?_, ?_, ?_⟩
    · rw [List.map_map]
      exact List.map_id _
    · have hothers : ∀ plugin ∈ r.plugins, B.others plugin.id = true :=
        fun plugin hplugin => (hplugins plugin hplugin).others
      rw [List.map_map, List.filter_eq_self.mpr hothers]
      exact List.map_id _
    · intro pair hpair
      obtain ⟨plugin, hplugin, rfl⟩ := List.mem_map.mp hpair
      exact hplugins plugin hplugin
    · intro a ha b hb
      obtain ⟨p, -, rfl⟩ := List.mem_map.mp ha
      obtain ⟨q, -, rfl⟩ := List.mem_map.mp hb
      exact Iff.rfl
    · intro plugin hplugin hothers
      exact Bool.noConfusion ((hplugins plugin hplugin).others.symm.trans hothers)
  queued := .of_self hpending
  ranked := hranked
  ranked' := hranked
  gone := hgone

/-- Backends join the list. -/
theorem enroll (h : Flanked B r r') (hphase : r.phase ≠ .tornDown)
    {newcomers newcomers' : List (Backend σ × PluginOrigin)} (hnew : B.Joining newcomers newcomers') :
    Flanked B (r.enroll newcomers) (r'.enroll newcomers') where
  phase_eq := h.phase_eq
  loads_eq := h.loads_eq
  tornDown_iff := h.tornDown_iff
  listed := h.listed.elim fun _ hpairs => Bystander.listed_enroll h.ranked h.ranked' hpairs hnew
  queued := h.queued
  ranked := h.ranked.enroll newcomers
  ranked' := h.ranked'.enroll newcomers'
  gone hgone := absurd hgone hphase

/-- The bystander joins the list. -/
theorem enroll_bystander (h : Flanked B r r') (hphase : r.phase ≠ .tornDown) (origin : PluginOrigin) :
    Flanked B r (r'.enroll [(B.backend, origin)]) := by
  have hjoined : Flanked B (r.enroll []) (r'.enroll [(B.backend, origin)]) :=
    h.enroll hphase (.other rfl .nil)
  -- Nobody joins the other list, but it is sorted once more.
  have hplugins : (r.enroll []).plugins = r.plugins := by
    rw [plugins_enroll, numbered, List.zipIdx_nil, List.map_nil, List.append_nil]
    exact sortPlugins_of_before h.ranked.sorted
  have hlisted := hjoined.listed
  rw [hplugins] at hlisted
  exact { hjoined with listed := hlisted, ranked := h.ranked }

/-- Modules come, and then those who wait. -/
theorem afterDiscovery (h : Flanked B r r') {modules : List (LoadedModule σ)}
    (hmodules : ∀ module ∈ modules, B.Twin module.backend module.backend) :
    Flanked B (r.afterDiscovery modules) (r'.afterDiscovery modules) := by
  have hnew : B.Joining (newcomers modules r.pending) (newcomers modules r'.pending) := by
    have hwaiting : B.Joining (r.pending.map fun backend => (backend, .static))
        (r'.pending.map fun backend => (backend, .static)) :=
      h.queued.map (fun _ _ htwin => htwin) fun _ hb => hb
    refine Joined.append (.of_self fun newcomer hmem => ?_) hwaiting
    obtain ⟨module, hmodule, rfl⟩ := List.mem_map.mp hmem
    exact hmodules module hmodule
  exact {
    phase_eq := rfl
    loads_eq := h.loads_eq
    tornDown_iff := h.tornDown_iff
    listed := h.listed.elim fun _ hpairs => Bystander.listed_enroll h.ranked h.ranked' hpairs hnew
    queued := .nil
    ranked := (h.ranked.enroll (newcomers modules r.pending)).of_eq rfl rfl
    ranked' := (h.ranked'.enroll (newcomers modules r'.pending)).of_eq rfl rfl
    gone := nofun }

/-- A discovery fails, or its failure is forgotten. -/
theorem rephase (h : Flanked B r r') {phase : Phase} (hphase : phase ≠ .tornDown) :
    Flanked B { r with phase } { r' with phase } where
  phase_eq := rfl
  loads_eq := h.loads_eq
  tornDown_iff := h.tornDown_iff
  listed := h.listed
  queued := h.queued
  ranked := h.ranked.of_eq rfl rfl
  ranked' := h.ranked'.of_eq rfl rfl
  gone hgone := absurd hgone hphase

/-- Others wait. -/
theorem requeue (h : Flanked B r r') {pending pending' : List (Backend σ)}
    (hqueued : Joined B.Twin (· = B.backend) pending pending') :
    Flanked B { r with pending } { r' with pending := pending' } where
  phase_eq := h.phase_eq
  loads_eq := h.loads_eq
  tornDown_iff := h.tornDown_iff
  listed := h.listed
  queued := hqueued
  ranked := h.ranked.of_eq rfl rfl
  ranked' := h.ranked'.of_eq rfl rfl
  gone := h.gone

/-- A module makes a backend. -/
theorem load (h : Flanked B r r') :
    Flanked B { r with loads := r.loads + 1 } { r' with loads := r'.loads + 1 } where
  phase_eq := h.phase_eq
  loads_eq := congrArg (· + 1) h.loads_eq
  tornDown_iff := h.tornDown_iff
  listed := h.listed
  queued := h.queued
  ranked := h.ranked.of_eq rfl rfl
  ranked' := h.ranked'.of_eq rfl rfl
  gone := h.gone

/-- A plugin is torn down on both sides. -/
theorem mark (h : Flanked B r r') (id : InstanceId) :
    Flanked B { r with tornDown := id :: r.tornDown }
      { r' with tornDown := id.shift B.number :: r'.tornDown } where
  phase_eq := h.phase_eq
  loads_eq := h.loads_eq
  tornDown_iff other := by
    rw [List.mem_cons, List.mem_cons, h.tornDown_iff, (InstanceId.shift_injective B.number).eq_iff]
  listed := h.listed
  queued := h.queued
  ranked := h.ranked.of_eq rfl rfl
  ranked' := h.ranked'.of_eq rfl rfl
  gone := h.gone

/-- The bystander is torn down. -/
theorem mark_bystander (h : Flanked B r r') :
    Flanked B r { r' with tornDown := B.backend.id :: r'.tornDown } where
  phase_eq := h.phase_eq
  loads_eq := h.loads_eq
  tornDown_iff other := by
    rw [List.mem_cons, h.tornDown_iff, B.id_eq, or_iff_right (InstanceId.shift_ne _ _)]
  listed := h.listed
  queued := h.queued
  ranked := h.ranked
  ranked' := h.ranked'.of_eq rfl rfl
  gone := h.gone

/-- All are torn down. -/
theorem vacate (h : Flanked B r r') :
    Flanked B { r.withPlugins [] with phase := .tornDown, pending := [] }
      { r'.withPlugins [] with phase := .tornDown, pending := [] } where
  phase_eq := rfl
  loads_eq := h.loads_eq
  tornDown_iff := h.tornDown_iff
  listed := ⟨[], .nil⟩
  queued := .nil
  ranked := .of_nil rfl
  ranked' := .of_nil rfl
  gone _ := rfl

end Registry.Flanked

end StorageDispatch
