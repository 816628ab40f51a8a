import StorageDispatch.Registry.Lookup

set_option autoImplicit false

/-! # Dispatch

Every public operation has one of three shapes:

* on a URL (`UrlRequest`): the first plugin that claims the URL is called;
* on a list of URLs (`BatchRequest`): the plugin that claims the first URL is called for all of them;
* on an open handle: the plugin that opened it is found by its name, and no plugin is asked about a URL.

`dispatchUrl`, `dispatchPair`, `dispatchBatch` and `dispatchHandle` do the routing, the counting and the
logging for them.
-/

namespace StorageDispatch

/-- One operation on a URL: the call that serves it, and what its answer means. -/
structure UrlRequest (α : Type) where
  operation : Operation
  url : String
  call : Call
  accept : call.Answer → Reply α

/-- One operation on two URLs, which has to be served by one backend. -/
structure PairRequest where
  operation : Operation
  first : String
  second : String
  call : Call
  accept : call.Answer → Reply Unit

/-- One operation on a list of URLs, with the token that the answer may carry. -/
structure BatchRequest (α : Type) where
  operation : Operation
  urls : List String
  call : Call
  accept : call.Answer → Option String × Reply (List (Reply α))

namespace Context

variable {σ α : Type}

/-! ## Routing -/

/-- The plugin that serves a URL for an operation. -/
def resolveUrl (operation : Operation) (url : String) : Engine σ (Plugin σ) :=
  if url.isEmpty then throw .emptyUrl else Registry.findFor url operation.capability

/-- The plugin of a name that a handle carries. -/
def resolveOwner (owner : String) : Engine σ (Plugin σ) :=
  tryCatch (Registry.findByName owner) fun
    | .notFound _ => throw (.unknownOwner owner)
    | error => throw error

/-! ## One URL -/

def dispatchUrl (request : UrlRequest α) : Engine σ α := do
  perform (log (.urlSpan request.operation request.url))
  counted request.operation do
    let plugin ← resolveUrl request.operation request.url
    timedEngine request.operation plugin.name do
      let answer ← perform (call plugin.backend request.call)
      fromReply request.operation (request.accept answer)

/-! ## Two URLs -/

/-- Serve an operation on two URLs. Both are resolved before anything is done. -/
def dispatchPair (request : PairRequest) : Engine σ Unit := do
  perform (log (.urlSpan request.operation request.first))
  counted request.operation do
    let source ← resolveUrl request.operation request.first
    let destination ← resolveUrl request.operation request.second
    if source.name = destination.name then
      timedEngine request.operation source.name do
        let answer ← perform (call source.backend request.call)
        fromReply request.operation (request.accept answer)
    else
      throw (.crossBackend request.operation.name source.name destination.name)

/-! ## Lists of URLs -/

/-- The same failure for every URL of a batch, counted once. -/
def failBatch (operation : Operation) (count : Nat) (error : Error) :
    Act σ (List (Except Error α)) := do
  recordFailure operation error
  return List.replicate count (.error error)

def wrongCount (plugin : String) (returned requested : Nat) : BackendError :=
  ⟨.io, s!"{plugin} returned {returned} results for {requested} urls"⟩

/-- One outcome per URL from a backend's answer to a batch. An answer for the whole batch, or with the
wrong number of entries, is a failure of every URL. -/
def spread (operation : Operation) (plugin : String) (count : Nat)
    (reply : Reply (List (Reply α))) : Act σ (List (Except Error α)) :=
  match reply with
  | .ok replies =>
    if replies.length = count then
      replies.mapM (settle operation)
    else
      failBatch operation count
        (.backend operation.name (wrongCount plugin replies.length count))
  | .error source => failBatch operation count (.backend operation.name source)

/-- Serve a list of URLs by the plugin that claims the first of them: `serve` gets that plugin, and
what comes back without one is a failure of every URL. An empty list is served by nobody. -/
def resolveBatch {β : Type} (operation : Operation) (urls : List String)
    (serve : Plugin σ → Act σ β) (otherwise : List (Except Error α) → β) : Act σ β := do
  log (.urlSpan operation (urls.headD ""))
  match urls with
  | [] => return otherwise []
  | first :: _ =>
    match ← (resolveUrl operation first).run with
    | .ok plugin => timed operation plugin.name (serve plugin)
    | .error error => return otherwise (← failBatch operation urls.length error)

/-- Serve an operation on a list of URLs. Returns the token of the answer and one outcome per URL. -/
def dispatchBatch (request : BatchRequest α) :
    Act σ (Option String × List (Except Error α)) :=
  resolveBatch request.operation request.urls
    (fun plugin => do
      let answer ← call plugin.backend request.call
      let (token, reply) := request.accept answer
      return (token, ← spread request.operation plugin.name request.urls.length reply))
    (fun outcomes => (none, outcomes))

/-! ## Open handles -/

/-- The handle under a key; a key that is good for nothing is a failure of the operation. -/
def lookupHandle (operation : Operation) (resource : Resource) (key : DescriptorKey) :
    Engine σ HandleId :=
  counted operation (findHandle resource key)

/-- Serve an operation on an open handle by the plugin that opened it. -/
def dispatchHandle (operation : Operation) (id : HandleId) (serve : Plugin σ → Engine σ α) :
    Engine σ α := do
  let owner := (← perform (openHandle id)).handle.owner
  perform (log (.handleSpan operation owner))
  counted operation do
    let plugin ← resolveOwner owner
    timedEngine operation plugin.name (serve plugin)

end Context

end StorageDispatch
