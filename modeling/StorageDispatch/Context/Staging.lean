import StorageDispatch.Context.Namespace

set_option autoImplicit false

/-! # Staging

Files on tape are brought online before they can be read. A staging request is answered with a token,
which names the request when it is polled, released or aborted.
-/

namespace StorageDispatch

namespace BatchRequest

def bringOnline (urls : List String) (options : StageOptions) : BatchRequest Bool where
  operation := .bringOnlineList
  urls := urls
  call := .bringOnlineList urls options
  accept
    | .ok batch => (batch.token, .ok batch.files)
    | .error error => (none, .error error)

def poll (urls : List String) (token : String) : BatchRequest Bool :=
  ⟨.bringOnlinePollList, urls, .bringOnlinePollList urls token, fun reply => (none, reply)⟩

def release (urls : List String) (token : String) : BatchRequest Unit :=
  ⟨.releaseFileList, urls, .releaseFileList urls token, fun reply => (none, reply)⟩

def abort (urls : List String) (token : String) : BatchRequest Unit :=
  ⟨.abortFiles, urls, .abortFiles urls token, fun reply => (none, reply)⟩

end BatchRequest

namespace Context

variable {σ : Type}

def bringOnline (url : String) (options : StageOptions) : Engine σ StageStatus :=
  dispatchUrl (.bringOnline url options)

def bringOnlinePoll (url token : String) : Engine σ Bool := dispatchUrl (.bringOnlinePoll url token)

def releaseFile (url token : String) : Engine σ Unit := dispatchUrl (.releaseFile url token)

/-- Bring several files online in one request, which the plugin of the first URL gets whole. -/
def bringOnlineList (urls : List String) (options : StageOptions) : Act σ (StageBatch Error) := do
  let (token, files) ← dispatchBatch (.bringOnline urls options)
  return { token, files }

def bringOnlinePollList (urls : List String) (token : String) : Act σ (List (Except Error Bool)) := do
  return (← dispatchBatch (.poll urls token)).2

def releaseFileList (urls : List String) (token : String) : Act σ (List (Except Error Unit)) := do
  return (← dispatchBatch (.release urls token)).2

def abortFiles (urls : List String) (token : String) : Act σ (List (Except Error Unit)) := do
  return (← dispatchBatch (.abort urls token)).2

end Context

end StorageDispatch
