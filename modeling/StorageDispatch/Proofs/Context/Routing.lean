import StorageDispatch.Proofs.Context.Exact

set_option autoImplicit false

/-! # How operations on a URL are routed

The plugins are asked in turn whether they claim a URL. `Search` lists the three ways in which this can
end: all decline, one fails to answer, or one claims the URL; in each of them nobody is asked after the
one that decides.

`UrlOperation` is the table of the public operations on one URL, with what each of them promises: the
capability that plugins are asked about, the action that serves it, and what the caller is told of the
action's answer. `UrlOperation.serve_routed` says that every operation keeps these promises: it searches,
calls its action on the plugin that was found, and makes no other call.
-/

namespace StorageDispatch

variable {σ : Type}

/-! ## Asking plugins in turn -/

/-- The calls that ask plugins about a URL, in turn. -/
def asking (url : String) (kind : Capability) (plugins : List (Plugin σ)) :
    List (InstanceId × String × Call) :=
  plugins.map fun plugin => (plugin.id, plugin.name, .checkUrl url kind)

/-- The world after plugins were asked about a URL, in turn. -/
def afterAsking (url : String) (kind : Capability) (plugins : List (Plugin σ)) (world : σ) : σ :=
  plugins.foldl (fun world plugin => (plugin.backend.respond (.checkUrl url kind) world).2) world

/-- All plugins that are asked, in turn, decline a URL. -/
def Declined (url : String) (kind : Capability) : List (Plugin σ) → σ → Prop
  | [], _ => True
  | plugin :: plugins, world =>
    (plugin.backend.respond (.checkUrl url kind) world).1 = .ok false ∧
      Declined url kind plugins (plugin.backend.respond (.checkUrl url kind) world).2

/-- **How the search for a URL's plugin ends**: with its result, the calls that it makes, and the world
that it leaves. -/
inductive Search (url : String) (kind : Capability) (plugins : List (Plugin σ)) (world : σ) :
    Except Error (Plugin σ) → List (InstanceId × String × Call) → σ → Prop
  /-- Nobody claims the URL. -/
  | unclaimed (h : Declined url kind plugins world) :
      Search url kind plugins world (.error (.protocolNotSupported kind.name url))
        (asking url kind plugins) (afterAsking url kind plugins world)
  /-- The first plugin that does not decline fails. -/
  | failed (before : List (Plugin σ)) {after : List (Plugin σ)} {plugin : Plugin σ} {source : BackendError}
      (hsplit : plugins = before ++ plugin :: after) (hbefore : Declined url kind before world)
      (h : (plugin.backend.respond (.checkUrl url kind) (afterAsking url kind before world)).1 =
        .error source) :
      Search url kind plugins world (.error (.backend kind.name source))
        (asking url kind (before ++ [plugin])) (afterAsking url kind (before ++ [plugin]) world)
  /-- The first plugin that does not decline claims the URL. -/
  | found (before : List (Plugin σ)) {after : List (Plugin σ)} {plugin : Plugin σ}
      (hsplit : plugins = before ++ plugin :: after) (hbefore : Declined url kind before world)
      (h : (plugin.backend.respond (.checkUrl url kind) (afterAsking url kind before world)).1 =
        .ok true) :
      Search url kind plugins world (.ok plugin)
        (asking url kind (before ++ [plugin])) (afterAsking url kind (before ++ [plugin]) world)

/-- A search goes on behind a plugin that declines. -/
theorem Search.cons {url : String} {kind : Capability} {plugin : Plugin σ} {plugins : List (Plugin σ)}
    {world world' : σ} {found : Except Error (Plugin σ)} {made : List (InstanceId × String × Call)}
    (hdeclined : (plugin.backend.respond (.checkUrl url kind) world).1 = .ok false)
    (h : Search url kind plugins (plugin.backend.respond (.checkUrl url kind) world).2 found made world') :
    Search url kind (plugin :: plugins) world found
      ((plugin.id, plugin.name, .checkUrl url kind) :: made) world' := by
  cases h with
  | unclaimed h => exact .unclaimed ⟨hdeclined, h⟩
  | failed before hsplit hbefore h =>
      exact .failed (plugin :: before) (congrArg (plugin :: ·) hsplit) ⟨hdeclined, hbefore⟩ h
  | found before hsplit hbefore h =>
      exact .found (plugin :: before) (congrArg (plugin :: ·) hsplit) ⟨hdeclined, hbefore⟩ h

/-- Every search ends in one of the three ways. -/
theorem exists_search (url : String) (kind : Capability) (plugins : List (Plugin σ)) (world : σ) :
    ∃ found made world', Search url kind plugins world found made world' := by
  induction plugins generalizing world with
  | nil => exact ⟨_, _, _, .unclaimed trivial⟩
  | cons plugin plugins ih =>
      cases hanswer : (plugin.backend.respond (.checkUrl url kind) world).1 with
      | error source => exact ⟨_, _, _, .failed [] rfl trivial hanswer⟩
      | ok claimed =>
          cases claimed with
          | true => exact ⟨_, _, _, .found [] rfl trivial hanswer⟩
          | false =>
              obtain ⟨found, made, world', h⟩ := ih (plugin.backend.respond (.checkUrl url kind) world).2
              exact ⟨found, _, world', h.cons hanswer⟩

theorem asking_concat (url : String) (kind : Capability) (plugins : List (Plugin σ))
    (plugin : Plugin σ) :
    asking url kind (plugins ++ [plugin]) =
      asking url kind plugins ++ [(plugin.id, plugin.name, .checkUrl url kind)] := List.map_append

theorem afterAsking_concat (url : String) (kind : Capability) (plugins : List (Plugin σ))
    (plugin : Plugin σ) (world : σ) :
    afterAsking url kind (plugins ++ [plugin]) world =
      (plugin.backend.respond (.checkUrl url kind) (afterAsking url kind plugins world)).2 :=
  List.foldl_append

namespace Context

variable {α : Type}

/-! ## Searching -/

/-- Plugins that decline are asked in turn, and then the others. -/
theorem firstClaiming_does_append {url : String} {kind : Capability} {before rest : List (Plugin σ)}
    {c d : Context σ} {found : Except Error (Plugin σ)} {made : List (InstanceId × String × Call)}
    (hbefore : Declined url kind before c.world)
    (hrest : ∀ events, Does (Registry.firstClaiming url kind rest)
      ((c.inWorld (afterAsking url kind before c.world)).recording events) found made d) :
    Does (Registry.firstClaiming url kind (before ++ rest)) c found (asking url kind before ++ made) d := by
  induction before generalizing c with
  | nil => exact hrest c.events
  | cons plugin before ih =>
      obtain ⟨hanswer, hbefore⟩ := hbefore
      exact (Does.answered hanswer).bind fun events => ih hbefore fun events => hrest events

/-- **Asking in turn is a search.** -/
theorem firstClaiming_does {url : String} {kind : Capability} {plugins : List (Plugin σ)}
    {c : Context σ} {found : Except Error (Plugin σ)} {made : List (InstanceId × String × Call)}
    {world : σ} (h : Search url kind plugins c.world found made world) :
    Does (Registry.firstClaiming url kind plugins) c found made (c.inWorld world) := by
  cases h with
  -- Those that decline are asked in any case; what is left is how the rest of the list ends.
  | unclaimed hdeclined =>
      have hrest (events : List Event) :
          Does (Registry.firstClaiming url kind [])
            ((c.inWorld (afterAsking url kind plugins c.world)).recording events)
            (.error (.protocolNotSupported kind.name url)) []
            (c.inWorld (afterAsking url kind plugins c.world)) := .throw _ _
      have hdoes := firstClaiming_does_append hdeclined hrest
      rwa [List.append_nil, List.append_nil] at hdoes
  | @failed before after plugin source hsplit hbefore hanswer =>
      have hrest (events : List Event) :
          Does (Registry.firstClaiming url kind (plugin :: after))
            ((c.inWorld (afterAsking url kind before c.world)).recording events)
            (.error (.backend kind.name source)) [(plugin.id, plugin.name, .checkUrl url kind)]
            (c.inWorld (afterAsking url kind (before ++ [plugin]) c.world)) := by
        rw [afterAsking_concat]
        exact (Does.answered hanswer).bind fun _ => .throw _ _
      rw [hsplit, asking_concat]
      exact firstClaiming_does_append hbefore hrest
  | @found before after plugin hsplit hbefore hanswer =>
      have hrest (events : List Event) :
          Does (Registry.firstClaiming url kind (plugin :: after))
            ((c.inWorld (afterAsking url kind before c.world)).recording events)
            (.ok plugin) [(plugin.id, plugin.name, .checkUrl url kind)]
            (c.inWorld (afterAsking url kind (before ++ [plugin]) c.world)) := by
        rw [afterAsking_concat]
        refine (Does.answered hanswer).bind fun _ => ?_
        exact (Does.log _ _).bind fun _ => .pure _ _
      rw [hsplit, asking_concat]
      exact firstClaiming_does_append hbefore hrest

/-! ## One URL -/

/-- An operation on an empty URL asks nobody. -/
theorem dispatchUrl_does_empty {request : UrlRequest α} (hurl : request.url = "") (c : Context σ) :
    Does (dispatchUrl request) c (.error .emptyUrl) [] c := by
  have hresolve (c : Context σ) :
      Does (resolveUrl request.operation request.url) c (.error .emptyUrl) [] c := by
    rw [resolveUrl, hurl]
    exact .throw _ c
  exact (Does.log _ _).bind fun _ => .counted _ (.bind_error _ (hresolve _))

variable {request : UrlRequest α} {c : Context σ} {made : List (InstanceId × String × Call)} {world : σ}

/-- A plugin at work for a request: its action is called, and nobody else. -/
theorem action_does (request : UrlRequest α) (plugin : Plugin σ) (c : Context σ) :
    Does
      (timedEngine request.operation plugin.name do
        let answer ← perform (call plugin.backend request.call)
        fromReply request.operation (request.accept answer)) c
      (tag request.operation (request.accept (plugin.backend.respond request.call c.world).1))
      [(plugin.id, plugin.name, request.call)]
      (c.inWorld (plugin.backend.respond request.call c.world).2) :=
  .timedEngine _ _ fun _ => (Does.call plugin.backend request.call _).bind fun _ => .fromOutcome _ _

section Search

variable {plugins : List (Plugin σ)} {d : Context σ}

/-- The plugin of a URL is looked for among those that a lookup lists, whether they are discovered for it or
were known. -/
theorem resolveUrl_does (hurl : request.url ≠ "") (hlisted : Does Registry.discover c (.ok plugins) [] d)
    {found : Except Error (Plugin σ)}
    (h : Search request.url request.operation.capability plugins d.world found made world) :
    Does (resolveUrl request.operation request.url) c found made (d.inWorld world) := by
  rw [resolveUrl, if_neg (by simpa using hurl)]
  exact hlisted.bind fun events => firstClaiming_does (c := d.recording events) h

/-- An operation ends with the search that finds nobody. -/
theorem dispatchUrl_does_error (hurl : request.url ≠ "")
    (hlisted : ∀ events, Does Registry.discover (c.recording events) (.ok plugins) [] d) {error : Error}
    (h : Search request.url request.operation.capability plugins d.world (.error error) made world) :
    Does (dispatchUrl request) c (.error error) made (d.inWorld world) :=
  (Does.log _ _).bind fun events => .counted _ (.bind_error _ (resolveUrl_does hurl (hlisted events) h))

/-- An operation calls its action on the plugin that the search finds. -/
theorem dispatchUrl_does_ok (hurl : request.url ≠ "")
    (hlisted : ∀ events, Does Registry.discover (c.recording events) (.ok plugins) [] d) {plugin : Plugin σ}
    (h : Search request.url request.operation.capability plugins d.world (.ok plugin) made world) :
    Does (dispatchUrl request) c
      (tag request.operation (request.accept (plugin.backend.respond request.call world).1))
      (made ++ [(plugin.id, plugin.name, request.call)])
      (d.inWorld (plugin.backend.respond request.call world).2) :=
  (Does.log _ _).bind fun events => .counted _ <|
    (resolveUrl_does hurl (hlisted events) h).bind fun _ => action_does request plugin _

end Search

end Context

/-- **How an operation on a URL goes**: with its result, the calls that it makes, and the world that it
leaves. `action` is the call that serves it, and `outcome` is what the caller is told of its answer. -/
inductive Routed {α : Type} (url : String) (kind : Capability) (action : Call)
    (outcome : action.Answer → Except Error α) (plugins : List (Plugin σ)) (world : σ) :
    Except Error α → List (InstanceId × String × Call) → σ → Prop
  | emptyUrl (hurl : url = "") :
      Routed url kind action outcome plugins world (.error (.invalidArgument "empty url")) [] world
  /-- The search finds nobody, and the caller is told why. -/
  | lost (hurl : url ≠ "") {error : Error} {made : List (InstanceId × String × Call)} {world' : σ}
      (h : Search url kind plugins world (.error error) made world') :
      Routed url kind action outcome plugins world (.error error) made world'
  /-- The action is called on the plugin that the search finds. -/
  | served (hurl : url ≠ "") {plugin : Plugin σ} {made : List (InstanceId × String × Call)} {world' : σ}
      (h : Search url kind plugins world (.ok plugin) made world') :
      Routed url kind action outcome plugins world (outcome (plugin.backend.respond action world').1)
        (made ++ [(plugin.id, plugin.name, action)]) (plugin.backend.respond action world').2

open Context in
/-- What `dispatchUrl` promises, whatever the request. -/
theorem dispatchUrl_routed {α : Type} (request : UrlRequest α)
    (outcome : request.call.Answer → Except Error α)
    (houtcome : ∀ answer, tag request.operation (request.accept answer) = outcome answer) (c : Context σ)
    (h : request.url = "" ∨ c.registry.phase = .ready) :
    ∃ result made world,
      Routed request.url request.operation.capability request.call outcome c.registry.plugins c.world
        result made world ∧
      Does (dispatchUrl request) c result made (c.inWorld world) := by
  by_cases hurl : request.url = ""
  · exact ⟨_, _, _, .emptyUrl hurl, dispatchUrl_does_empty hurl c⟩
  · have hready : c.registry.phase = .ready := h.resolve_left hurl
    have hlisted (events : List Event) : Does Registry.discover (c.recording events) (.ok c.registry.plugins) [] c :=
      .discover_recording (known_of_ready hready) rfl events
    obtain ⟨found, made, world, hsearch⟩ :=
      exists_search request.url request.operation.capability c.registry.plugins c.world
    cases found with
    | error error => exact ⟨_, _, _, .lost hurl hsearch, dispatchUrl_does_error hurl hlisted hsearch⟩
    | ok plugin =>
        have hdoes := dispatchUrl_does_ok hurl hlisted hsearch
        rw [houtcome] at hdoes
        exact ⟨_, _, _, .served hurl hsearch, hdoes⟩

/-! ## The public operations -/

/-- A public operation on one URL, with what its caller passes. Opening a file or a directory stands for
the part of it that a backend does. -/
inductive UrlOperation
  | stat (url : String)
  | lstat (url : String)
  | access (url : String) (mode : UInt32)
  | chmod (url : String) (mode : Mode)
  | readlink (url : String)
  | mkdir (url : String) (mode : Mode)
  | mkdirRecursive (url : String) (mode : Mode)
  | rmdir (url : String)
  | unlink (url : String)
  | getxattr (url name : String)
  | setxattr (url name : String) (value : Bytes) (mode : XattrMode)
  | listxattr (url : String)
  | bringOnline (url : String) (options : StageOptions)
  | bringOnlinePoll (url token : String)
  | releaseFile (url token : String)
  | openFile (url : String) (flags : UInt32) (mode : Mode)
  | opendir (url : String)

namespace UrlOperation

@[reducible] def Result : UrlOperation → Type
  | stat .. | lstat .. => FileStat
  | readlink .. => String
  | getxattr .. => Bytes
  | listxattr .. => List String
  | bringOnline .. => StageStatus
  | bringOnlinePoll .. => Bool
  | openFile .. | opendir .. => FileHandle
  | access .. | chmod .. | mkdir .. | mkdirRecursive .. | rmdir .. | unlink .. | setxattr ..
  | releaseFile .. => Unit

def serve : (op : UrlOperation) → Engine σ op.Result
  | stat url => Context.stat url
  | lstat url => Context.lstat url
  | access url mode => Context.access url mode
  | chmod url mode => Context.chmod url mode
  | readlink url => Context.readlink url
  | mkdir url mode => Context.mkdir url mode
  | mkdirRecursive url mode => Context.mkdirRecursive url mode
  | rmdir url => Context.rmdir url
  | unlink url => Context.unlink url
  | getxattr url name => Context.getxattr url name
  | setxattr url name value mode => Context.setxattr url name value mode
  | listxattr url => Context.listxattr url
  | bringOnline url options => Context.bringOnline url options
  | bringOnlinePoll url token => Context.bringOnlinePoll url token
  | releaseFile url token => Context.releaseFile url token
  | openFile url flags mode => Context.dispatchUrl (.openFile url flags mode)
  | opendir url => Context.dispatchUrl (.opendir url)

def url : UrlOperation → String
  | stat url | lstat url | access url _ | chmod url _ | readlink url | mkdir url _
  | mkdirRecursive url _ | rmdir url | unlink url | getxattr url _ | setxattr url _ _ _ | listxattr url
  | bringOnline url _ | bringOnlinePoll url _ | releaseFile url _ | openFile url _ _ | opendir url => url

def name : UrlOperation → String
  | stat .. => "stat"
  | lstat .. => "lstat"
  | access .. => "access"
  | chmod .. => "chmod"
  | readlink .. => "readlink"
  | mkdir .. => "mkdir"
  | mkdirRecursive .. => "mkdir_p"
  | rmdir .. => "rmdir"
  | unlink .. => "unlink"
  | getxattr .. => "getxattr"
  | setxattr .. => "setxattr"
  | listxattr .. => "listxattr"
  | bringOnline .. => "bring_online"
  | bringOnlinePoll .. => "bring_online_poll"
  | releaseFile .. => "release_file"
  | openFile .. => "open"
  | opendir .. => "opendir"

def kind : UrlOperation → Capability
  | stat .. => .stat
  | lstat .. => .lstat
  | access .. => .access
  | chmod .. => .chmod
  | readlink .. => .readlink
  | mkdir .. => .mkdir
  | mkdirRecursive .. => .mkdirRecursive
  | rmdir .. => .rmdir
  | unlink .. => .unlink
  | getxattr .. => .getxattr
  | setxattr .. => .setxattr
  | listxattr .. => .listxattr
  | bringOnline .. | bringOnlinePoll .. | releaseFile .. => .bringOnline
  | openFile .. => .openFile
  | opendir .. => .opendir

@[reducible] def action : UrlOperation → Call
  | stat url => .stat url
  | lstat url => .lstat url
  | access url mode => .access url mode
  | chmod url mode => .chmod url mode
  | readlink url => .readlink url
  | mkdir url mode => .mkdir url mode false
  | mkdirRecursive url mode => .mkdir url mode true
  | rmdir url => .rmdir url
  | unlink url => .unlink url
  | getxattr url name => .getxattr url name
  | setxattr url name value mode => .setxattr url name value mode
  | listxattr url => .listxattr url
  | bringOnline url options => .bringOnline url options
  | bringOnlinePoll url token => .bringOnlinePoll url token
  | releaseFile url token => .releaseFile url token
  | openFile url flags mode => .openFile url flags mode
  | opendir url => .opendir url

/-- What the action of an operation answers. -/
def reply : (op : UrlOperation) → op.action.Answer → Reply op.Result
  | stat .. | lstat .. | access .. | chmod .. | readlink .. | mkdir .. | mkdirRecursive .. | rmdir ..
  | unlink .. | getxattr .. | setxattr .. | listxattr .. | bringOnline .. | bringOnlinePoll ..
  | releaseFile .. | openFile .. | opendir .. => id

/-- What the caller is told: the value of the action, or its error under the name of the operation. That
something exists already is no error where a directory and those around it are wanted. -/
def outcome (op : UrlOperation) (answer : op.action.Answer) : Except Error op.Result :=
  match op, op.reply answer with
  | mkdirRecursive .., .error source =>
    if source.errno = .fileExists then .ok () else .error (.backend "mkdir_p" source)
  | _, .ok a => .ok a
  | op, .error source => .error (.backend op.name source)

open Context in
/-- **Operations on a URL.** An operation asks the plugins in turn, up to the first that does not decline;
it calls its action on the plugin that claims the URL, and tells its caller what that answered; and it makes
no other call. With an empty URL it makes none, whatever the phase of the registry. Apart from the world,
which the called backends change, and the record of events, the context is left as it was. -/
theorem serve_routed (op : UrlOperation) (c : Context σ)
    (h : op.url = "" ∨ c.registry.phase = .ready) :
    ∃ result made world,
      Routed op.url op.kind op.action op.outcome c.registry.plugins c.world result made world ∧
      Does op.serve c result made (c.inWorld world) := by
  -- Each operation is a request of the dispatcher, and all but one pass their answers on as they are.
  cases op with
  | stat url =>
      exact dispatchUrl_routed (.stat url) _ (by rintro (_ | _) <;> rfl) c h
  | lstat url =>
      exact dispatchUrl_routed (.lstat url) _ (by rintro (_ | _) <;> rfl) c h
  | access url mode =>
      exact dispatchUrl_routed (.access url mode) _ (by rintro (_ | _) <;> rfl) c h
  | chmod url mode =>
      exact dispatchUrl_routed (.chmod url mode) _ (by rintro (_ | _) <;> rfl) c h
  | readlink url =>
      exact dispatchUrl_routed (.readlink url) _ (by rintro (_ | _) <;> rfl) c h
  | mkdir url mode =>
      exact dispatchUrl_routed (.mkdir url mode) _ (by rintro (_ | _) <;> rfl) c h
  | mkdirRecursive url mode =>
      refine dispatchUrl_routed (.mkdirRecursive url mode) _ (fun answer => ?_) c h
      cases answer with
      | ok created => rfl
      | error source =>
          show tag .mkdirRecursive (if source.errno = .fileExists then .ok () else .error source) =
            if source.errno = .fileExists then .ok () else .error (.backend "mkdir_p" source)
          split <;> rfl
  | rmdir url =>
      exact dispatchUrl_routed (.rmdir url) _ (by rintro (_ | _) <;> rfl) c h
  | unlink url =>
      exact dispatchUrl_routed (.unlink url) _ (by rintro (_ | _) <;> rfl) c h
  | getxattr url name =>
      exact dispatchUrl_routed (.getxattr url name) _ (by rintro (_ | _) <;> rfl) c h
  | setxattr url name value mode =>
      exact dispatchUrl_routed (.setxattr url name value mode) _ (by rintro (_ | _) <;> rfl) c h
  | listxattr url =>
      exact dispatchUrl_routed (.listxattr url) _ (by rintro (_ | _) <;> rfl) c h
  | bringOnline url options =>
      exact dispatchUrl_routed (.bringOnline url options) _ (by rintro (_ | _) <;> rfl) c h
  | bringOnlinePoll url token =>
      exact dispatchUrl_routed (.bringOnlinePoll url token) _ (by rintro (_ | _) <;> rfl) c h
  | releaseFile url token =>
      exact dispatchUrl_routed (.releaseFile url token) _ (by rintro (_ | _) <;> rfl) c h
  | openFile url flags mode =>
      exact dispatchUrl_routed (.openFile url flags mode) _ (by rintro (_ | _) <;> rfl) c h
  | opendir url =>
      exact dispatchUrl_routed (.opendir url) _ (by rintro (_ | _) <;> rfl) c h

/-- A backend that counts the URLs it is asked about, claims them or not, and finds everything there. -/
def counting (n : Nat) (name : String) (claims : Bool) : Backend Nat where
  id := .registered n
  name := name
  respond call asked :=
    match call with
    | .checkUrl .. => (.ok claims, asked + 1)
    | .mkdir .. => (.error ⟨.fileExists, "found"⟩, asked)
    | call => (call.unimplemented, asked)

/-- Three plugins, of which the second is the first to claim a URL. -/
def threePlugins : Context Nat where
  config := {}
  world := 0
  registry := {
    phase := .ready
    plugins :=
      [⟨counting 0 "a" false, 0, .static⟩, ⟨counting 1 "b" true, 1, .static⟩,
        ⟨counting 2 "c" true, 2, .static⟩] }

/-- A directory that exists is asked for: two plugins are asked, and the second is called. -/
theorem mkdirRecursive_routed :
    let op : UrlOperation := .mkdirRecursive "b://dir" ⟨0o755⟩
    (op.url = "" ∨ threePlugins.registry.phase = .ready) ∧
      (op.serve.run.run threePlugins).1 = .ok () ∧ (op.serve.run.run threePlugins).2.world = 2 ∧
      ∃ result made world,
        Routed op.url op.kind op.action op.outcome threePlugins.registry.plugins threePlugins.world
          result made world ∧
        Context.Does op.serve threePlugins result made (threePlugins.inWorld world) :=
  ⟨.inr rfl, rfl, rfl, serve_routed _ _ (.inr rfl)⟩

end UrlOperation

end StorageDispatch
