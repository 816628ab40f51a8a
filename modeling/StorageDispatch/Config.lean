set_option autoImplicit false

/-! # Configuration

The dispatcher needs to know where backend modules live, whether to look for them at all, and how
many handles a descriptor table may hold. `resolvePluginDir` is the rule of precedence for the
directory: the explicit one, else the environment's, else the default.
-/

namespace StorageDispatch

def pluginDirVariable : String := "GRIDIO_PLUGIN_DIR"

def defaultPluginDir : String := "/usr/lib/gridio/plugins"

/-- The limit of a descriptor table when nothing else is said: half of the slots that a key can
name. -/
def defaultMaxOpenFiles : Nat := 2147483647

inductive PluginDirSource
  | explicit
  | environment
  | default
  deriving DecidableEq, Repr, Inhabited

def PluginDirSource.display : PluginDirSource → String
  | explicit => "override"
  | environment => pluginDirVariable
  | default => "default"

structure Config where
  /-- The plugin directory; it wins over the environment. -/
  pluginDir : Option String := none
  /-- Whether the first use looks for modules in the plugin directory. -/
  loadPlugins : Bool := true
  /-- The most live entries of a descriptor table. -/
  maxOpenFiles : Nat := defaultMaxOpenFiles
  deriving DecidableEq, Repr, Inhabited

/-- Configuration without a plugin directory: only registered backends are used. -/
def Config.inProcess : Config := { loadPlugins := false }

/-- The plugin directory and where it was named. An empty value in the environment counts as none. -/
def resolvePluginDir (explicit environment : Option String) : String × PluginDirSource :=
  match explicit with
  | some dir => (dir, .explicit)
  | none =>
    match environment with
    | some dir => if dir.isEmpty then (defaultPluginDir, .default) else (dir, .environment)
    | none => (defaultPluginDir, .default)

def Config.resolvedPluginDir (config : Config) (environment : Option String) :
    String × PluginDirSource :=
  resolvePluginDir config.pluginDir environment

end StorageDispatch
