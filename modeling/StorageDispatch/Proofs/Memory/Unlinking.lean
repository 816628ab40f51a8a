import StorageDispatch.Proofs.Context.Batches
import StorageDispatch.Proofs.Memory.Steered
import StorageDispatch.Proofs.Session.Sticky

set_option autoImplicit false

/-! # Files removed in bulk, and one by one

A list of files can be removed in three ways: by a backend that removes lists itself, by the dispatcher that has one
file after the other removed by the backend of the first, and by an operation for each file (`unlinkSingly`).

The first two come to the same. Contexts whose backends differ in no more than that are `Companions` in the exchange
`bulking`. Their lookups end alike, and the backend that is found answers for a list what it answers for its files
one after the other (`serveList_costs`), which depends on its store only (`unlinkEach_congr`).

The third is told apart by its lookups, one for each file. But the first of them settles all: afterwards the backend
is the first to be asked (`Foremost`), or nobody is found any more (`Vacant`).

**The result** is `bulk_unlinks_agree`.
-/

namespace StorageDispatch

open Context

variable {σ α β : Type}

/-! ## Lookups side by side -/

/-- A URL is looked up in companions: the plugins that are found are in each other's place. -/
theorem Context.Companions.resolved {E : Exchange σ} (F : E.Discreet) {c c' d d' : Context σ}
    (h : Companions E c c') {operation : Operation} {url : String} {events events' : List Event}
    {found found' : Except Error (Plugin σ)} {made made' : List (InstanceId × String × Call)}
    {counted counted' : List Metric}
    (hcosts : Costs (resolveUrl operation url).run (c.recording events) found made counted d)
    (hcosts' : Costs (resolveUrl operation url).run (c'.recording events') found' made' counted' d') :
    Agrees E.Placed found found' ∧ Companions E d d' := by
  obtain ⟨_, -, -, hrun⟩ := hcosts
  obtain ⟨_, -, -, hrun'⟩ := hcosts'
  have hbegun : Companions E (c.recording events) (c'.recording events') := { h with }
  have hmeet := PairedE.resolveUrl (Companions.findFor F url operation.capability) _ _ hbegun
  unfold Meets at hmeet
  rw [hrun, hrun'] at hmeet
  exact ⟨hmeet.1, { hmeet.2 with }⟩

/-! ## Settled lookups -/

namespace Context

variable {c d : Context σ} {url : String} {urls : List String}

/-- **Nobody is found any more**: the discovery has failed, or there are no plugins. -/
inductive Vacant (c : Context σ) : Prop
  | failed {cause : PluginError} (hphase : c.registry.phase = .failed cause)
  | nobody (hknown : c.registry.phase.isKnown) (hplugins : c.registry.plugins = [])

theorem Vacant.recording (h : Vacant c) (events : List Event) : Vacant (c.recording events) := by
  cases h with
  | failed hphase => exact .failed hphase
  | nobody hknown hplugins => exact .nobody hknown hplugins

theorem Vacant.dispatchUrl_does (h : Vacant c) (request : UrlRequest α) :
    ∃ error, Does (dispatchUrl request) c (.error error) [] c := by
  by_cases hurl : request.url = ""
  · exact ⟨_, dispatchUrl_does_empty hurl c⟩
  · cases h with
    | @failed cause hphase =>
        obtain ⟨begun, hlost, -⟩ := dispatchUrl_goOn request c
        refine ⟨.discovery cause, hlost ?_⟩
        rw [resolveUrl, if_neg (by simpa using hurl)]
        have hstuck : Stuck cause (c.recording begun) := stuck_of_failed hphase
        exact (Does.of_run (hstuck.findFor_run _ _)).congr fun _ => rfl
    | nobody hknown hplugins =>
        have hlisted := Does.discover_recording hknown hplugins
        exact ⟨_, dispatchUrl_does_error hurl hlisted (.unclaimed trivial)⟩

/-- **The backend is the first to be asked** by every lookup. -/
structure Foremost (backend : Backend σ) (c : Context σ) : Prop where
  known : c.registry.phase.isKnown
  first : ∃ plugin others, plugin.backend = backend ∧ c.registry.plugins = plugin :: others

/-- The world has no part in it. -/
theorem Foremost.inWorld {backend : Backend σ} (h : Foremost backend c) (world : σ) (events : List Event) :
    Foremost backend ((c.inWorld world).recording events) := ⟨h.known, h.first⟩

/-! ## One operation for each file -/

def unlinkSingly (urls : List String) : Act σ (List (Except Error Unit)) := urls.mapM fun url => (unlink url).run

/-- The first file is removed, and then the others. -/
theorem run_unlinkSingly_cons {outcome : Except Error Unit} {made : List (InstanceId × String × Call)}
    (h : Does (unlink url) c outcome made d) (urls : List String) :
    ∃ events, (unlinkSingly (url :: urls)).run c =
      (outcome :: ((unlinkSingly urls).run (d.recording events)).1,
        ((unlinkSingly urls).run (d.recording events)).2) := by
  obtain ⟨events, -, hrun⟩ := h
  refine ⟨c.events ++ events, ?_⟩
  rw [unlinkSingly, List.mapM_cons, run_bind, hrun]
  rfl

/-- Where nobody is found, nothing is removed. -/
theorem Vacant.unlinkSingly (h : Vacant c) (urls : List String) :
    List.Forall₂ (fun _ outcome => outcome.isOk = false) urls ((unlinkSingly urls).run c).1 ∧
      ((Context.unlinkSingly urls).run c).2.world = c.world := by
  induction urls generalizing c with
  | nil => exact ⟨.nil, rfl⟩
  | cons url urls ih =>
      obtain ⟨error, hdoes⟩ := h.dispatchUrl_does (.unlink url)
      obtain ⟨events, hrun⟩ := run_unlinkSingly_cons hdoes urls
      obtain ⟨hrest, hworld⟩ := ih (h.recording events)
      rw [hrun]
      exact ⟨.cons rfl hrest, hworld⟩

end Context

namespace Memory

variable {own : InstanceId} {spec : Spec} {c c' d : Context State} {url : String} {urls : List String}

/-! ## Stores -/

/-- How a store is changed depends on what is in it. -/
theorem change_congr {label : String} (f : Store → Reply Store) {state state' : State}
    (h : state'.store label = state.store label) :
    (state'.change label f).1 = (state.change label f).1 ∧
      (state'.change label f).2.store label = (state.change label f).2.store label := by
  unfold State.change
  rw [h]
  cases f (state.store label) with
  | ok store => exact ⟨rfl, by simp⟩
  | error error => exact ⟨rfl, h⟩

/-- And so it is when files are removed one after the other. -/
theorem unlinkEach_congr {label : String} (urls : List String) {state state' : State}
    (h : state'.store label = state.store label) :
    (unlinkEach label urls state').1 = (unlinkEach label urls state).1 ∧
      (unlinkEach label urls state').2.store label = (unlinkEach label urls state).2.store label := by
  induction urls generalizing state state' with
  | nil => exact ⟨rfl, h⟩
  | cons url urls ih =>
      -- The worlds differ otherwise, so what is carried on is that the store is the same.
      obtain ⟨hreply, hafter⟩ := change_congr (·.unlink url) h
      obtain ⟨hreplies, hleft⟩ := ih hafter
      exact ⟨congrArg₂ List.cons hreply hreplies, hleft⟩

theorem length_unlinkEach (label : String) (urls : List String) (state : State) :
    (unlinkEach label urls state).1.length = urls.length := by
  induction urls generalizing state with
  | nil => rfl
  | cons url urls ih => exact congrArg (· + 1) (ih _)

/-- A backend that is called for one file after the other removes them as one that gets the list. -/
theorem unlinking_backend (own : InstanceId) (spec : Spec) (urls : List String) (state : State) :
    unlinking (backend own spec) urls state = unlinkEach spec.store urls state := by
  induction urls generalizing state with
  | nil => rfl
  | cons url urls ih =>
      rw [unlinking, ih]
      rfl

/-! ## The exchange -/

/-- The same specification, of a backend that removes lists of files itself, or does not. -/
def Spec.withBulk (spec : Spec) (bulkUnlink : Bool) : Spec := { spec with bulkUnlink }

/-- **A backend that removes lists of files stands in for the one that does not.** Their stores are the same, and
nothing else is looked at. -/
def bulking (own : InstanceId) (spec : Spec) : Exchange State where
  swap b := { b with respond := respond own (spec.withBulk true) }
  Known b := b = backend own (spec.withBulk false)
  Like _ world _ world' := world'.store spec.store = world.store spec.store
  Fresh _ _ _ := True

theorem backend_exchange {plugin : Plugin State} (h : (bulking own spec).Known plugin.backend) :
    (plugin.exchange (bulking own spec).swap).backend = backend own (spec.withBulk true) := by
  rw [Plugin.exchange, h]
  rfl

theorem backend_of_companions (h : Companions (bulking own spec) c c') (plugin : Plugin State)
    (hplugin : plugin ∈ c'.registry.plugins) : plugin.backend = backend own (spec.withBulk true) := by
  rw [h.listed.1] at hplugin
  obtain ⟨was, hwas, rfl⟩ := List.mem_map.mp hplugin
  exact backend_exchange (h.listed.2 was hwas)

/-- The registry does not notice. -/
theorem discreet_bulking (own : InstanceId) (spec : Spec) : (bulking own spec).Discreet where
  id_eq _ := rfl
  name_eq _ := rfl
  priority_eq _ := rfl
  claims := by
    rintro _ rfl url kind handles world handles' world' h
    exact ⟨rfl, h⟩
  teardown := by
    rintro _ rfl handles world handles' world' h
    exact ⟨rfl, h⟩

/-! ## A list, with both backends -/

/-- **However a list is removed**, its backend answers what it answers for one file after the other, and the failures
among the outcomes are counted. -/
theorem serveList_costs {plugin : Plugin State} {bulkUnlink : Bool}
    (hbackend : plugin.backend = backend own (spec.withBulk bulkUnlink)) (urls : List String) (c : Context State) :
    ∃ made, ∀ events, Costs (do
        match ← call plugin.backend (.unlinkList urls) with
        | some replies => spread .unlinkList plugin.name urls.length (.ok replies)
        | none => Context.unlinkEach plugin urls) (c.recording events)
      ((unlinkEach spec.store urls c.world).1.map (tag .unlinkList)) made
      (List.replicate (errorCount ((unlinkEach spec.store urls c.world).1.map (tag .unlinkList)))
        (.failed .unlinkList))
      (c.inWorld (unlinkEach spec.store urls c.world).2) := by
  cases bulkUnlink with
  | true =>
      have hrespond : plugin.backend.respond (.unlinkList urls) c.world =
          (some (unlinkEach spec.store urls c.world).1, (unlinkEach spec.store urls c.world).2) := by
        rw [hbackend]
        rfl
      exact ⟨_, fun events => (Costs.called (c := c.recording events) hrespond).bind fun later =>
        .spread .unlinkList plugin.name (length_unlinkEach spec.store urls c.world) _⟩
  | false =>
      have hrespond : plugin.backend.respond (.unlinkList urls) c.world = (none, c.world) := by
        rw [hbackend]
        rfl
      -- Without an action for lists the files are removed in turn, each by a call.
      have heach : unlinking plugin.backend urls c.world = unlinkEach spec.store urls c.world := by
        rw [hbackend]
        exact unlinking_backend own (spec.withBulk false) urls c.world
      rw [← heach]
      exact ⟨_, fun events => (Costs.called (c := c.recording events) hrespond).bind fun later =>
        unlinkEach_costs plugin urls ((c.inWorld c.world).recording later)⟩

/-- **A list comes to the same with both backends**: the same outcomes, the same counts, and companions again. -/
theorem unlinkList_beside (h : Companions (bulking own spec) c c') (urls : List String) :
    ∃ outcomes counted made made' d d', Costs (unlinkList urls) c outcomes made counted d ∧
      Costs (unlinkList urls) c' outcomes made' counted d' ∧ Companions (bulking own spec) d d' := by
  cases urls with
  | nil => exact ⟨_, _, _, _, c, c', resolveBatch_nil _ _ _ c, resolveBatch_nil _ _ _ c', h⟩
  | cons url rest =>
      obtain ⟨begun, hlost, hserved⟩ := resolveBatch_goOn .unlinkList url rest _ id c
      obtain ⟨begun', hlost', hserved'⟩ := resolveBatch_goOn .unlinkList url rest _ id c'
      obtain ⟨found, made, d, -, hcosts⟩ := resolveUrl_costs .unlinkList url c begun
      obtain ⟨found', made', d', -, hcosts'⟩ := resolveUrl_costs .unlinkList url c' begun'
      -- Whatever was recorded before them, the two lookups end alike.
      obtain ⟨hagrees, hleft⟩ := h.resolved (discreet_bulking own spec) hcosts hcosts'
      cases hagrees with
      | error error => exact ⟨_, _, _, _, d, d', hlost hcosts, hlost' hcosts', hleft⟩
      | @ok plugin plugin' hplaced =>
          obtain ⟨rfl, hknown⟩ := hplaced
          obtain ⟨more, hserve⟩ := serveList_costs hknown (url :: rest) d
          obtain ⟨more', hserve'⟩ := serveList_costs (backend_exchange hknown) (url :: rest) d'
          obtain ⟨hreplies, hstore⟩ := unlinkEach_congr (url :: rest) hleft.like
          rw [hreplies] at hserve'
          have hlisted := hserved hcosts hserve
          have hlisted' := hserved' hcosts' hserve'
          exact ⟨_, _, _, _, _, _, hlisted, hlisted', { hleft with like := hstore }⟩

/-! ## An operation for each file -/

/-- With both backends, an operation for a single file comes to the same. -/
theorem unlinkSingly_beside (urls : List String) :
    Paired (Companions (bulking own spec)) Eq (unlinkSingly urls) (unlinkSingly urls) := by
  refine .mapM fun url => ?_
  have hresolve : PairedE (Companions (bulking own spec)) (bulking own spec).Placed (resolveUrl .unlink url)
      (resolveUrl .unlink url) := .resolveUrl (Companions.findFor (discreet_bulking own spec) url .unlink)
  have hdispatch : PairedE (Companions (bulking own spec)) Eq (unlink url) (unlink url) := by
    refine Companions.abreast.dispatchUrl hresolve ?_
    rintro plugin _ ⟨rfl, hknown⟩
    refine Companions.callSame fun handles world handles' world' h => ?_
    rw [hknown]
    exact change_congr (·.unlink url) h
  exact hdispatch.run.mono fun _ _ h => h.eq.symm

/-- **The first lookup settles the others.** Where the backend is the only one and claims the URL, it is found and is
the first to be asked from then on, or nobody is found and that stays so. -/
theorem settled_of_lookup {kind : Capability} {found : Except Error (Plugin State)}
    {made : List (InstanceId × String × Call)} (h : Lookup url kind c found made d)
    (honly : ∀ plugin ∈ d.registry.plugins, plugin.backend = backend own spec) (hurl : url ≠ "")
    (hclaims : spec.claimsUrl url kind = true) :
    (∃ error, found = .error error) ∧ Vacant d ∨ (∃ plugin, found = .ok plugin) ∧ Foremost (backend own spec) d := by
  cases h with
  | emptyUrl hempty => exact absurd hempty hurl
  | unlisted _ hlisted =>
      obtain ⟨cause, hphase⟩ := hlisted.phase_of_error
      exact .inl ⟨⟨_, rfl⟩, .failed hphase⟩
  | @searched _ plugins d _ _ world hlisted hsearch =>
      obtain ⟨-, -, hplugins, hknown⟩ := hlisted.of_ok
      cases plugins with
      | nil =>
          refine .inl ⟨?_, .nobody hknown hplugins⟩
          cases hsearch with
          | unclaimed => exact ⟨_, rfl⟩
          | failed => exact ⟨_, rfl⟩
          | found before hsplit => exact absurd hsplit.symm (by simp)
      | cons plugin others =>
          have hbackend : plugin.backend = backend own spec := honly plugin (hplugins ▸ List.mem_cons_self)
          have hasked := checkUrl_eq hbackend url kind d.world
          rw [hclaims] at hasked
          -- The backend is asked before anybody else, and claims the URL.
          have hfound := hsearch.eq_ok_of_claims (congrArg Prod.fst hasked)
          exact .inr ⟨⟨plugin, hfound⟩, hknown, plugin, others, hbackend, hplugins⟩

/-- **What one operation for each file comes to**: the outcomes, and the world that is left, of files that are removed
one after the other. -/
structure Singly (label : String) (urls : List String) (world : State) (c : Context State) : Prop where
  outcomes_eq : ((unlinkSingly urls).run c).1 = (unlinkEach label urls world).1.map (tag .unlink)
  world_eq : ((unlinkSingly urls).run c).2.world = (unlinkEach label urls world).2

theorem Singly.cons {label : String} {world : State} {made : List (InstanceId × String × Call)}
    (hfirst : Does (unlink url) c (tag .unlink (world.change label (·.unlink url)).1) made d)
    (hrest : ∀ events, Singly label urls (world.change label (·.unlink url)).2 (d.recording events)) :
    Singly label (url :: urls) world c := by
  obtain ⟨events, hrun⟩ := run_unlinkSingly_cons hfirst urls
  constructor <;> rw [hrun]
  · exact congrArg (_ :: ·) (hrest events).outcomes_eq
  · exact (hrest events).world_eq

/-- A backend that is the first to be asked removes files that it claims. -/
theorem singly_of_foremost (h : Foremost (backend own spec) c)
    (hclaimed : ∀ url ∈ urls, url ≠ "" ∧ spec.claimsUrl url .unlink = true) : Singly spec.store urls c.world c := by
  induction urls generalizing c with
  | nil => exact ⟨rfl, rfl⟩
  | cons url urls ih =>
      obtain ⟨⟨hurl, hclaims⟩, hrest⟩ := List.forall_mem_cons.mp hclaimed
      obtain ⟨plugin, others, hbackend, hplugins⟩ := h.first
      have hlisted := Does.discover_recording h.known hplugins
      have hrequest : (UrlRequest.unlink url).url ≠ "" := hurl
      have hfirst := dispatchUrl_does_first hbackend hrequest hclaims hlisted
      exact .cons hfirst fun events => ih (h.inWorld _ events) hrest

theorem isOk_tag (operation : Operation) (reply : Reply α) : (tag operation reply).isOk = reply.isOk := by
  cases reply <;> rfl

/-- **A list is removed as its files are, one operation for each**, if the backend claims them all: with the one
backend on one side, and with the other backend on the other. -/
theorem unlinkSingly_agrees (h : Companions (bulking own spec) c c')
    (hclaimed : ∀ url ∈ urls, url ≠ "" ∧ spec.claimsUrl url .unlink = true) :
    List.Forall₂ (fun listed single => listed.isOk = single.isOk) ((unlinkList urls).run c).1
        ((unlinkSingly urls).run c').1 ∧
      ((unlinkSingly urls).run c').2.world.store spec.store = ((unlinkList urls).run c).2.world.store spec.store := by
  cases urls with
  | nil => exact ⟨.nil, h.like⟩
  | cons url rest =>
      obtain ⟨⟨hurl, hclaims⟩, hrest⟩ := List.forall_mem_cons.mp hclaimed
      obtain ⟨begun, hlost, hserved⟩ := resolveBatch_goOn .unlinkList url rest _ id c
      obtain ⟨begun', hlost', hserved'⟩ := dispatchUrl_goOn (.unlink url) c'
      -- The plugins are asked the same question for a list and for a single file.
      obtain ⟨found, made, d, -, hcosts⟩ := resolveUrl_costs .unlink url c begun
      obtain ⟨found', made', d', hlookup, hcosts'⟩ := resolveUrl_costs .unlink url c' begun'
      obtain ⟨hagrees, hleft⟩ := h.resolved (discreet_bulking own spec) hcosts hcosts'
      have hsettled := settled_of_lookup hlookup (backend_of_companions hleft) hurl hclaims
      cases hagrees with
      | error error =>
          -- The error of the first lookup is that of the whole list, and the other lookups fail as well.
          have hvacant : Vacant d' := hsettled.elim And.right fun hfound => nomatch hfound.1
          have hlisted : Costs (unlinkList (url :: rest)) c _ _ _ _ := hlost hcosts
          obtain ⟨events, hrun⟩ := run_unlinkSingly_cons (hlost' hcosts'.does) rest
          obtain ⟨hnone, hworld⟩ := (hvacant.recording events).unlinkSingly rest
          rw [hrun, hlisted.result_eq, hlisted.world_eq]
          refine ⟨.cons rfl ?_, (congrArg (State.store · spec.store) hworld).trans hleft.like⟩
          show List.Forall₂ _ (List.replicate rest.length _) _
          rw [← List.map_const', List.forall₂_map_left_iff]
          exact hnone.imp fun _ _ hfails => hfails.symm
      | @ok plugin plugin' hplaced =>
          obtain ⟨rfl, hknown⟩ := hplaced
          have hforemost : Foremost (backend own (spec.withBulk true)) d' :=
            hsettled.elim (fun hlost => nomatch hlost.1) And.right
          obtain ⟨more, hserve⟩ := serveList_costs hknown (url :: rest) d
          have hlisted : Costs (unlinkList (url :: rest)) c _ _ _ _ := hserved hcosts hserve
          -- The first file is removed by the plugin that was looked up for it, and the others by the foremost one.
          have hfirst := hserved' hcosts'.does
          rw [backend_exchange hknown] at hfirst
          have hsingly : Singly spec.store (url :: rest) d'.world c' := .cons hfirst fun events =>
            singly_of_foremost (hforemost.inWorld _ events) hrest
          obtain ⟨hreplies, hstore⟩ := unlinkEach_congr (url :: rest) hleft.like
          rw [hsingly.outcomes_eq, hsingly.world_eq, hreplies, hlisted.result_eq, hlisted.world_eq]
          refine ⟨?_, hstore⟩
          rw [List.forall₂_map_left_iff, List.forall₂_map_right_iff, List.forall₂_same]
          exact fun reply _ => (isOk_tag _ reply).trans (isOk_tag _ reply).symm

/-! ## All three -/

/-- **It makes no difference whether a backend removes lists of files itself.** Two contexts have the same one
backend, but for that, and its store has the same content in both. Whatever the list, and in whatever phase the
registry is: the outcomes are the same, with the same errors; the stores have the same content afterwards; and the
same failures, dispatches and samples are counted. If no URL is empty and the backend claims them all, then each
outcome is a success just when that of an operation for the single file would be, with one operation for each file in
the same order. -/
theorem bulk_unlinks_agree (own : InstanceId) (spec : Spec) {c c' : Context State}
    (h : Companions (bulking own spec) c c') (urls : List String) :
    let plain := (unlinkList urls).run c
    let bulk := (unlinkList urls).run c'
    bulk.1 = plain.1 ∧ bulk.2.world.store spec.store = plain.2.world.store spec.store ∧
      (∃ counted, plain.2.counters = c.counters ++ counted ∧ bulk.2.counters = c'.counters ++ counted) ∧
      ((∀ url ∈ urls, url ≠ "" ∧ spec.claimsUrl url .unlink = true) → ∀ start, start = c ∨ start = c' →
        let singly := (unlinkSingly urls).run start
        List.Forall₂ (fun listed single => listed.isOk = single.isOk) plain.1 singly.1 ∧
          singly.2.world.store spec.store = plain.2.world.store spec.store) := by
  intro plain bulk
  obtain ⟨outcomes, counted, made, made', d, d', hplain, hbulk, hleft⟩ := unlinkList_beside h urls
  refine ⟨hbulk.result_eq.trans hplain.result_eq.symm, ?_, ⟨counted, hplain.counters_eq, hbulk.counters_eq⟩, ?_⟩
  · rw [hplain.world_eq, hbulk.world_eq]
    exact hleft.like
  · intro hclaimed start hstart
    have hagrees := unlinkSingly_agrees h hclaimed
    rcases hstart with rfl | rfl
    · -- With both backends, an operation for a single file comes to the same.
      obtain ⟨hsame, hcompanions⟩ := unlinkSingly_beside urls start c' h
      refine ⟨hsame ▸ hagrees.1, ?_⟩
      exact hcompanions.like.symm.trans hagrees.2
    · exact hagrees

def stockedWith (bulkUnlink : Bool) : Context State :=
  let files := ({} : Store).putFile "mem://a" [1]
  let world := ({} : State).withStore "files" files
  (launched { loadPlugins := false } {} world (plainSpec.withBulk bulkUnlink)).context

/-- The file is removed, removed once more, and then one that never was there. -/
theorem bulk_unlinks_agree_stocked :
    Companions (bulking (.registered 0) plainSpec) (stockedWith false) (stockedWith true) ∧
      let urls := ["mem://a", "mem://a", "mem://gone"]
      let plain := (unlinkList urls).run (stockedWith false)
      let bulk := (unlinkList urls).run (stockedWith true)
      let singly := (unlinkSingly urls).run (stockedWith true)
      (∀ url ∈ urls, url ≠ "" ∧ plainSpec.claimsUrl url .unlink = true) ∧
        plain.1 =
          [.ok (), .error (.backend "unlink_list" Store.noFile), .error (.backend "unlink_list" Store.noFile)] ∧
        bulk.1 = plain.1 ∧ bulk.2.world.store "files" = plain.2.world.store "files" ∧
        (∃ counted, plain.2.counters = (stockedWith false).counters ++ counted ∧
          bulk.2.counters = (stockedWith true).counters ++ counted) ∧
        List.Forall₂ (fun listed single => listed.isOk = single.isOk) plain.1 singly.1 := by
  have hnone : Makes (fun _ _ => False) ({} : Host State) := nofun
  have hcompanions : Companions (bulking (.registered 0) plainSpec) (stockedWith false) (stockedWith true) :=
    companions_launched (discreet_bulking _ _) _ hnone rfl ⟨rfl, rfl⟩
  have hclaimed : ∀ url ∈ ["mem://a", "mem://a", "mem://gone"],
      url ≠ "" ∧ plainSpec.claimsUrl url .unlink = true := by decide
  have hplain : ((unlinkList ["mem://a", "mem://a", "mem://gone"]).run (stockedWith false)).1 =
      [.ok (), .error (.backend "unlink_list" Store.noFile), .error (.backend "unlink_list" Store.noFile)] := by cbv
  obtain ⟨hbulk, hstores, hcounted, hsingly⟩ :=
    bulk_unlinks_agree (.registered 0) plainSpec hcompanions ["mem://a", "mem://a", "mem://gone"]
  exact ⟨hcompanions, hclaimed, hplain, hbulk, hstores, hcounted, (hsingly hclaimed _ (.inr rfl)).1⟩

end Memory

end StorageDispatch
