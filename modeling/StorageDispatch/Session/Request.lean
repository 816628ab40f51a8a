import StorageDispatch.Context.Lifecycle

set_option autoImplicit false

/-! # Requests

A `Request` is one use of a context's public operations, as data, and `Value` is what it returns when
it succeeds. `Request.serve` carries a request out.
-/

namespace StorageDispatch

structure Summary where
  phase : Phase
  plugins : Nat
  files : Nat
  directories : Nat
  deriving DecidableEq, Repr, Inhabited

inductive Value
  | unit
  | stat (stat : FileStat)
  | text (text : String)
  | texts (texts : List String)
  | bytes (bytes : Bytes)
  | key (key : DescriptorKey)
  | entry (entry : Option DirEntry)
  | entryPlus (entry : Option (DirEntry × FileStat))
  | transfer (count : Nat) (buffer : Bytes)
  | number (n : Nat)
  | flag (value : Bool)
  | status (status : StageStatus)
  | outcomes (outcomes : List (Except Error Unit))
  | flags (outcomes : List (Except Error Bool))
  | staged (batch : StageBatch Error)
  | handle (handle : FileHandle)
  | plugin (info : PluginInfo)
  | plugins (infos : List PluginInfo)
  | summary (summary : Summary)
  | sameList (same : Option Bool)

inductive Request (σ : Type)
  | stat (url : String)
  | lstat (url : String)
  | access (url : String) (mode : UInt32)
  | chmod (url : String) (mode : Mode)
  | mkdir (url : String) (mode : Mode)
  | mkdirRecursive (url : String) (mode : Mode)
  | rmdir (url : String)
  | unlink (url : String)
  | unlinkList (urls : List String)
  | readlink (url : String)
  | rename (source destination : String)
  | symlink (target link : String)
  | getxattr (url name : String)
  | listxattr (url : String)
  | setxattr (url name : String) (value : Bytes) (mode : XattrMode)
  | opendir (url : String)
  | readdir (key : DescriptorKey)
  | readdirPlus (key : DescriptorKey)
  | closedir (key : DescriptorKey)
  | openFile (url : String) (flags : UInt32) (mode : Mode)
  | read (key : DescriptorKey) (buffer : Bytes)
  | write (key : DescriptorKey) (data : Bytes)
  | pread (key : DescriptorKey) (buffer : Bytes) (offset : Nat)
  | pwrite (key : DescriptorKey) (data : Bytes) (offset : Nat)
  | lseek (key : DescriptorKey) (target : SeekTarget)
  | close (key : DescriptorKey)
  | bringOnline (url : String) (options : StageOptions)
  | bringOnlinePoll (url token : String)
  | releaseFile (url token : String)
  | bringOnlineList (urls : List String) (options : StageOptions)
  | bringOnlinePollList (urls : List String) (token : String)
  | releaseFileList (urls : List String) (token : String)
  | abortFiles (urls : List String) (token : String)
  /-- The handle under a key. -/
  | findHandle (resource : Resource) (key : DescriptorKey)
  /-- The handle under the key that is a given word. -/
  | findRawHandle (resource : Resource) (raw : UInt64)
  /-- Put a handle into a table directly. -/
  | insertHandle (resource : Resource) (handle : FileHandle)
  /-- Take a handle out of a table without closing it. -/
  | removeHandle (resource : Resource) (key : DescriptorKey)
  | clearTable (resource : Resource)
  | discover
  | rediscover
  | pluginNames
  | findFor (url : String) (capability : Capability)
  | findByName (name : String)
  | tearDownRegistry
  | tearDown
  | summary
  | debugContext
  | debugRegistry
  | debugPlugin (name : String)
  | debugFile (key : DescriptorKey)
  | debugTable (resource : Resource)

namespace Context

variable {σ : Type}

def describePlugin (plugin : Plugin σ) : Act σ PluginInfo := do
  return (← get).registry.info plugin

def describePlugins (plugins : List (Plugin σ)) : Act σ (List PluginInfo) := do
  return plugins.map (← get).registry.info

def describeHandle (id : HandleId) : Act σ FileHandle := do
  return (← openHandle id).handle

def summarize : Act σ Summary := do
  let files ← useTable .file
  let directories ← useTable .directory
  let registry := (← get).registry
  return {
    phase := registry.phase
    plugins := registry.size
    files := files.live
    directories := directories.live }

def debugPlugin (name : String) : Engine σ String := do
  let plugin ← Registry.findByName name
  return plugin.debug ((← get).registry.info plugin).tornDown

end Context

open Context in
def Request.serve {σ : Type} : Request σ → Engine σ Value
  | .stat url => Value.stat <$> Context.stat url
  | .lstat url => Value.stat <$> Context.lstat url
  | .access url mode => (fun _ => .unit) <$> Context.access url mode
  | .chmod url mode => (fun _ => .unit) <$> Context.chmod url mode
  | .mkdir url mode => (fun _ => .unit) <$> Context.mkdir url mode
  | .mkdirRecursive url mode => (fun _ => .unit) <$> Context.mkdirRecursive url mode
  | .rmdir url => (fun _ => .unit) <$> Context.rmdir url
  | .unlink url => (fun _ => .unit) <$> Context.unlink url
  | .unlinkList urls => Value.outcomes <$> perform (Context.unlinkList urls)
  | .readlink url => Value.text <$> Context.readlink url
  | .rename source destination => (fun _ => .unit) <$> Context.rename source destination
  | .symlink target link => (fun _ => .unit) <$> Context.symlink target link
  | .getxattr url name => Value.bytes <$> Context.getxattr url name
  | .listxattr url => Value.texts <$> Context.listxattr url
  | .setxattr url name value mode => (fun _ => .unit) <$> Context.setxattr url name value mode
  | .opendir url => Value.key <$> Context.opendir url
  | .readdir key => Value.entry <$> Context.readdir key
  | .readdirPlus key => Value.entryPlus <$> Context.readdirPlus key
  | .closedir key => (fun _ => .unit) <$> Context.closedir key
  | .openFile url flags mode => Value.key <$> Context.openFile url flags mode
  | .read key buffer => (fun r => .transfer r.1 r.2) <$> Context.read key buffer
  | .write key data => Value.number <$> Context.write key data
  | .pread key buffer offset => (fun r => .transfer r.1 r.2) <$> Context.pread key buffer offset
  | .pwrite key data offset => Value.number <$> Context.pwrite key data offset
  | .lseek key target => Value.number <$> Context.lseek key target
  | .close key => (fun _ => .unit) <$> Context.close key
  | .bringOnline url options => Value.status <$> Context.bringOnline url options
  | .bringOnlinePoll url token => Value.flag <$> Context.bringOnlinePoll url token
  | .releaseFile url token => (fun _ => .unit) <$> Context.releaseFile url token
  | .bringOnlineList urls options => Value.staged <$> perform (Context.bringOnlineList urls options)
  | .bringOnlinePollList urls token =>
    Value.flags <$> perform (Context.bringOnlinePollList urls token)
  | .releaseFileList urls token => Value.outcomes <$> perform (Context.releaseFileList urls token)
  | .abortFiles urls token => Value.outcomes <$> perform (Context.abortFiles urls token)
  | .findHandle resource key => do
    return .handle (← perform (describeHandle (← Context.findHandle resource key)))
  | .findRawHandle resource raw => do
    return .handle (← perform (describeHandle (← Context.findRawHandle resource raw)))
  | .insertHandle resource handle => do
    return .key (← Context.insertHandle resource (← perform (adopt handle)))
  | .removeHandle resource key => do
    return .handle (← perform (describeHandle (← Context.removeHandle resource key)))
  | .clearTable resource => Value.number <$> perform (Context.clearTable resource)
  | .discover => do return .plugins (← perform (describePlugins (← Registry.discover)))
  | .rediscover => do return .plugins (← perform (describePlugins (← Registry.rediscover)))
  | .pluginNames => Value.texts <$> Registry.pluginNames
  | .findFor url capability => do
    return .plugin (← perform (describePlugin (← Registry.findFor url capability)))
  | .findByName name => do
    return .plugin (← perform (describePlugin (← Registry.findByName name)))
  | .tearDownRegistry => (fun _ => .unit) <$> perform Registry.teardown
  | .tearDown => (fun _ => .unit) <$> perform Context.teardown
  | .summary => Value.summary <$> perform summarize
  | .debugContext => do return .text (← get).debug
  | .debugRegistry => do return .text (← get).registry.debug
  | .debugPlugin name => Value.text <$> Context.debugPlugin name
  | .debugFile key => do
    return .text (← perform (describeHandle (← Context.findHandle .file key))).debug
  | .debugTable resource => do return .text (← perform (useTable resource)).debug

end StorageDispatch
