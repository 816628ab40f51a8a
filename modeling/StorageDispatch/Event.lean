import StorageDispatch.Backend.Basic
import StorageDispatch.Config

set_option autoImplicit false

/-! # What can be observed of the dispatcher

Everything that the dispatcher does in the open is an `Event`: a call to a backend, a change of a
metric, or a line of its log. Events are data; `Metric.render` and `LogEntry.render` write them the way
a recorder of metrics and a reader of logs see them.
-/

namespace StorageDispatch

/-- What a descriptor table holds. -/
inductive Resource
  | file
  | directory
  deriving DecidableEq, Repr, Inhabited

def Resource.name : Resource → String
  | file => "file"
  | directory => "directory"

inductive Metric
  /-- An operation was handed to a backend. -/
  | dispatched (operation : Operation) (plugin : String)
  /-- An operation failed. -/
  | failed (operation : Operation)
  /-- The duration of an operation was sampled. -/
  | timed (operation : Operation)
  /-- A positioned transfer was served by a seek and a transfer. -/
  | emulated (operation : Operation)
  /-- The number of live entries of a descriptor table. -/
  | openHandles (resource : Resource) (live : Nat)
  /-- The number of registered backends. -/
  | pluginsLoaded (count : Nat)
  deriving DecidableEq, Repr

namespace Metric

def line (name : String) (labels : List (String × String)) (change : String) : String :=
  name ++ "\x7b" ++ ",".intercalate (labels.map fun l => l.1 ++ "=" ++ l.2) ++ "\x7d " ++ change

/-- A change of a metric as text. Counters are incremented, gauges set, histograms sampled. -/
def render : Metric → String
  | dispatched operation plugin =>
    line "gridio_dispatch_total" [("operation", operation.name), ("plugin", plugin)] "+1"
  | failed operation => line "gridio_dispatch_errors_total" [("operation", operation.name)] "+1"
  | timed operation => line "gridio_dispatch_time_ns" [("operation", operation.name)] "sample"
  | emulated operation => line "gridio_emulated_io_total" [("operation", operation.name)] "+1"
  | openHandles resource live => line "gridio_open_handles" [("table", resource.name)] s!"={live}"
  | pluginsLoaded count => line "gridio_plugins_loaded" [] s!"={count}"

/-- What each metric measures: its kind, name, unit and description. -/
def descriptions : List (String × String × String × String) :=
  [("counter", "gridio_dispatch_total", "count", "Operations handed to a backend"),
   ("counter", "gridio_dispatch_errors_total", "count", "Operations that returned an error"),
   ("histogram", "gridio_dispatch_time_ns", "nanoseconds", "Time spent in one dispatched operation"),
   ("counter", "gridio_emulated_io_total", "count",
    "Positioned transfers served by seek + read/write"),
   ("gauge", "gridio_open_handles", "count", "Live descriptor table entries"),
   ("gauge", "gridio_plugins_loaded", "count", "Registered backends")]

def describe : List String :=
  descriptions.map fun (kind, name, unit, text) => s!"{kind} {name} {unit} {text}"

end Metric

inductive LogEntry
  /-- An operation on a URL begins. -/
  | urlSpan (operation : Operation) (url : String)
  /-- An operation on an open handle begins. -/
  | handleSpan (operation : Operation) (owner : String)
  | dispatchFailed (operation : Operation) (error : Error)
  | matched (plugin url : String) (capability : Capability)
  | scanDisabled
  | discovering (dir : String) (source : PluginDirSource)
  | skipped (path : String)
  /-- A module was loaded and made a backend instance. -/
  | moduleLoaded (id : InstanceId) (plugin path : String)
  | moduleDropped (plugin : String)
  | discoveryFailed (error : PluginError)
  | discoveryRetried (previous : PluginError)
  | ready (order : List String)
  | queued (plugin : String)
  | rejected (plugin : String)
  | registered (plugin : String) (priority : Int)
  | registryTornDown (count : Nat)
  | pluginTornDown (plugin : String)
  | handlesReleased (files directories : Nat)
  | noRoom (operation : Operation) (error : Error)
  | rejectedCloseFailed (operation : Operation) (error : Error)
  | emulatingTransfer (operation : Operation) (owner : String) (offset size : Nat)
  | emulatingListing (url : String)
  | unlinkingEach (plugin : String) (count : Nat)
  deriving DecidableEq, Repr

/-- A line of the log as text: its level, its message and its fields. -/
def LogEntry.render : LogEntry → String
  | urlSpan operation url => s!"SPAN DEBUG gridio.dispatch operation={operation.name} url={url}"
  | handleSpan operation owner =>
    s!"SPAN DEBUG gridio.dispatch operation={operation.name} plugin={owner}"
  | dispatchFailed operation error =>
    s!"DEBUG dispatch failed operation={operation.name} error={error.message}"
  | matched plugin url capability =>
    s!"TRACE backend matched plugin={plugin} url={url} operation={capability.name}"
  | scanDisabled => "DEBUG plugin directory scan disabled"
  | discovering dir source => s!"DEBUG discovering backend modules dir={dir} source={source.display}"
  | skipped path => s!"TRACE skipping non-module file path={path}"
  | moduleLoaded _ plugin path => s!"INFO loaded backend module plugin={plugin} path={path}"
  | moduleDropped plugin => s!"DEBUG tearing down after failed module load plugin={plugin}"
  | discoveryFailed error => s!"WARN plugin discovery failed error={error.message}"
  | discoveryRetried previous => s!"INFO retrying plugin discovery previous={previous.message}"
  | ready order => "DEBUG backends ready order=" ++ Text.list (order.map Text.quoted)
  | queued plugin => s!"DEBUG queued static backend plugin={plugin}"
  | rejected plugin => s!"WARN registry torn down, rejecting backend plugin={plugin}"
  | registered plugin priority =>
    s!"DEBUG registered static backend plugin={plugin} priority={priority}"
  | registryTornDown count => s!"DEBUG tearing down registry count={count}"
  | pluginTornDown plugin => s!"DEBUG tearing down plugin plugin={plugin}"
  | handlesReleased files directories =>
    s!"DEBUG releasing handles left open files={files} directories={directories}"
  | noRoom operation error =>
    s!"DEBUG no room for handle, closing it operation={operation.name} error={error.message}"
  | rejectedCloseFailed operation error =>
    s!"WARN closing rejected handle failed operation={operation.name} error={error.message}"
  | emulatingTransfer operation owner offset size =>
    s!"TRACE emulating positioned I/O operation={operation.name} plugin={owner} offset={offset} len={size}"
  | emulatingListing url => s!"TRACE emulating readdir_plus with stat url={url}"
  | unlinkingEach plugin count => s!"TRACE unlinking one by one plugin={plugin} count={count}"

/-- One observable step of the dispatcher. -/
inductive Event
  /-- A backend instance was called. -/
  | call (id : InstanceId) (plugin : String) (call : Call)
  | metric (change : Metric)
  | log (entry : LogEntry)
  deriving DecidableEq, Repr

namespace Event

/-- The call that an event is, with the instance and the name of its backend. -/
def call? : Event → Option (InstanceId × String × Call)
  | .call id plugin c => some (id, plugin, c)
  | _ => none

def metric? : Event → Option Metric
  | .metric change => some change
  | _ => none

def log? : Event → Option LogEntry
  | .log entry => some entry
  | _ => none

end Event

end StorageDispatch
