import StorageDispatch.Proofs.Context.Exact

set_option autoImplicit false

/-! # The public operations among the requests

A request is one of the public operations, or it is about the registry, the tables or diagnostics.
`Request.operation?` tells the operation. For those that are routed by a URL, `Request.url?` is the URL that
plugins are asked about, the first one where there are several.

However many shapes operations have, they say alike that nobody serves their URL (`refusal_does`): a list of
URLs gets a copy of the error for each, and everything else the error itself.
-/

namespace StorageDispatch

variable {σ : Type}

namespace Request

def operation? : Request σ → Option Operation
  | stat _ => some .stat
  | lstat _ => some .lstat
  | access .. => some .access
  | chmod .. => some .chmod
  | mkdir .. => some .mkdir
  | mkdirRecursive .. => some .mkdirRecursive
  | rmdir _ => some .rmdir
  | unlink _ => some .unlink
  | unlinkList _ => some .unlinkList
  | readlink _ => some .readlink
  | rename .. => some .rename
  | symlink .. => some .symlink
  | getxattr .. => some .getxattr
  | listxattr _ => some .listxattr
  | setxattr .. => some .setxattr
  | opendir _ => some .opendir
  | readdir _ => some .readdir
  | readdirPlus _ => some .readdirPlus
  | closedir _ => some .closedir
  | openFile .. => some .openFile
  | read .. => some .read
  | write .. => some .write
  | pread .. => some .pread
  | pwrite .. => some .pwrite
  | lseek .. => some .lseek
  | close _ => some .close
  | bringOnline .. => some .bringOnline
  | bringOnlinePoll .. => some .bringOnlinePoll
  | releaseFile .. => some .releaseFile
  | bringOnlineList .. => some .bringOnlineList
  | bringOnlinePollList .. => some .bringOnlinePollList
  | releaseFileList .. => some .releaseFileList
  | abortFiles .. => some .abortFiles
  | findHandle .. | findRawHandle .. | insertHandle .. | removeHandle .. | clearTable _ | discover
  | rediscover | pluginNames | findFor .. | findByName _ | tearDownRegistry | tearDown | summary
  | debugContext | debugRegistry | debugPlugin _ | debugFile _ | debugTable _ => none

/-- The URL by which a public operation is routed, the first of several. -/
def url? : Request σ → Option String
  | stat url | lstat url | access url _ | chmod url _ | mkdir url _ | mkdirRecursive url _ | rmdir url
  | unlink url | readlink url | getxattr url _ | listxattr url | setxattr url _ _ _ | opendir url
  | openFile url _ _ | bringOnline url _ | bringOnlinePoll url _ | releaseFile url _ => some url
  | rename url _ | symlink url _ => some url
  | unlinkList urls | bringOnlineList urls _ | bringOnlinePollList urls _ | releaseFileList urls _
  | abortFiles urls _ => urls.head?
  | _ => none

/-- What a public operation returns if nobody serves its URL, and `error` says why. -/
def refusal (error : Error) : Request σ → Except Error Value
  | unlinkList urls | releaseFileList urls _ | abortFiles urls _ =>
    .ok (.outcomes (List.replicate urls.length (.error error)))
  | bringOnlinePollList urls _ => .ok (.flags (List.replicate urls.length (.error error)))
  | bringOnlineList urls _ =>
    .ok (.staged { token := none, files := List.replicate urls.length (.error error) })
  | _ => .error error

end Request

namespace Context

variable {α β : Type} {c d : Context σ} {made : List (InstanceId × String × Call)} {error : Error}

theorem dispatchUrl_refused {request : UrlRequest α}
    (h : ∀ events, Does (resolveUrl request.operation request.url) (c.recording events) (.error error) made d) :
    Does (dispatchUrl request) c (.error error) made d :=
  (Does.log _ _).bind fun events => .counted _ (.bind_error _ (h events))

/-- Nothing is done with the second URL if nobody serves the first. -/
theorem dispatchPair_refused {request : PairRequest}
    (h : ∀ events, Does (resolveUrl request.operation request.first) (c.recording events) (.error error)
      made d) :
    Does (dispatchPair request) c (.error error) made d :=
  (Does.log _ _).bind fun events => .counted _ (.bind_error _ (h events))

theorem recordFailure_does (operation : Operation) (error : Error) (c : Context σ) :
    Does (perform (recordFailure operation error) : Engine σ Unit) c (.ok ()) [] c :=
  Does.perform_bind <| (Does.measure _ _).bind fun _ => .log _ _

/-- The failure of a batch leaves no trace but in the record of events. -/
theorem failBatch_does (operation : Operation) (count : Nat) (error : Error) (c : Context σ) :
    Does (perform (failBatch operation count error) : Engine σ (List (Except Error α))) c
      (.ok (List.replicate count (.error error))) [] c :=
  Does.perform_bind <| (recordFailure_does operation error c).bind fun _ => .pure _ _

theorem resolveBatch_refused {operation : Operation} {urls : List String} {first : String}
    (hfirst : urls.head? = some first) {serve : Plugin σ → Act σ β} (otherwise : List (Except Error α) → β)
    (h : ∀ events, Does (resolveUrl operation first) (c.recording events) (.error error) made d) :
    Does (perform (resolveBatch operation urls serve otherwise) : Engine σ β) c
      (.ok (otherwise (List.replicate urls.length (.error error)))) made d := by
  obtain ⟨rest, rfl⟩ : ∃ rest, urls = first :: rest := List.head?_eq_some_iff.mp hfirst
  refine Does.perform_bind <| (Does.log _ _).bind fun events => ?_
  refine Does.perform_bind ?_
  rw [← List.append_nil made]
  refine ((h events).attempt (τ := Error)).bind fun later => ?_
  refine Does.perform_bind ?_
  exact (failBatch_does operation _ error _).map otherwise

theorem dispatchBatch_refused (request : BatchRequest α) {first : String}
    (hfirst : request.urls.head? = some first)
    (h : ∀ events, Does (resolveUrl request.operation first) (c.recording events) (.error error) made d) :
    Does (perform (dispatchBatch request) : Engine σ (Option String × List (Except Error α))) c
      (.ok (none, List.replicate request.urls.length (.error error))) made d :=
  resolveBatch_refused hfirst (fun outcomes => (none, outcomes)) h

/-- **Nobody serves the URL.** Whatever the public operation, it makes the calls of the search, and returns
the error, once for every URL. -/
theorem refusal_does {request : Request σ} {operation : Operation} {url : String}
    (hoperation : request.operation? = some operation) (hurl : request.url? = some url)
    (h : ∀ events, Does (resolveUrl operation url) (c.recording events) (.error error) made d) :
    Does request.serve c (request.refusal error) made d := by
  cases request with
  | stat | lstat | access | chmod | mkdir | mkdirRecursive | rmdir | unlink | readlink | getxattr | listxattr
  | setxattr | bringOnline | bringOnlinePoll | releaseFile =>
      cases hoperation
      cases hurl
      exact (dispatchUrl_refused h).map _
  | rename | symlink =>
      cases hoperation
      cases hurl
      exact (dispatchPair_refused h).map _
  | opendir | openFile =>
      cases hoperation
      cases hurl
      exact (Does.bind_error _ (dispatchUrl_refused h)).map _
  | unlinkList urls =>
      cases hoperation
      exact (resolveBatch_refused hurl _ h).map _
  | bringOnlineList urls options =>
      cases hoperation
      exact (dispatchBatch_refused (.bringOnline urls options) hurl h).map fun answer =>
        Value.staged ⟨answer.1, answer.2⟩
  | bringOnlinePollList urls token =>
      cases hoperation
      exact (dispatchBatch_refused (.poll urls token) hurl h).map fun answer =>
        Value.flags answer.2
  | releaseFileList urls token =>
      cases hoperation
      exact (dispatchBatch_refused (.release urls token) hurl h).map fun answer =>
        Value.outcomes answer.2
  | abortFiles urls token =>
      cases hoperation
      exact (dispatchBatch_refused (.abort urls token) hurl h).map fun answer =>
        Value.outcomes answer.2
  | _ => cases hurl

end Context

end StorageDispatch
