import ClusterObjects.Config.Basic
import ClusterObjects.Config.Error

/-!
# Settings by their name

Every setting can be read and written as a text under its key. The empty text stands for a setting
that is absent. A path that is no text reads as what is shown for it.
-/

namespace ClusterObjects

/-- Either of the two words for a truth value. -/
def truthWord? (word : String) : Option Bool :=
  if word == "true" then some true else if word == "false" then some false else none

namespace Config

def get (config : Config) : ConfigKey → String
  | .kubeconfig => (config.kubeconfig.map OsPath.shown).getD ""
  | .context => config.context.getD ""
  | .namespaceName => config.namespaceName
  | .fieldManager => config.fieldManager.getD ""
  | .dryRun => toString config.dryRun
  | .resyncSeconds => toString config.informer.resyncSeconds.toNat
  | .informerNamespace => config.informer.namespaceName

def set (config : Config) (key : ConfigKey) (value : String) : Except ConfigError Config :=
  match key with
  | .kubeconfig => .ok { config with kubeconfig := (nonEmpty? value).map OsPath.ofText }
  | .context => .ok { config with context := nonEmpty? value }
  | .namespaceName =>
    if value.isEmpty then .error .emptyNamespace else .ok { config with namespaceName := value }
  | .fieldManager => .ok { config with fieldManager := nonEmpty? value }
  | .dryRun =>
    match truthWord? value with
    | some dryRun => .ok { config with dryRun }
    | none => .error .notABool
  | .resyncSeconds =>
    match Decimal.unsigned64 value with
    | .ok resyncSeconds => .ok { config with informer := { config.informer with resyncSeconds } }
    | .error fault => .error (.notANumber fault)
  | .informerNamespace =>
    .ok { config with informer := { config.informer with namespaceName := value } }

/-- The key with a name. -/
def key (name : String) : Except ConfigError ConfigKey :=
  match ConfigKey.ofName? name with
  | some key => .ok key
  | none => .error (.unknownKey name)

/-- Reads the setting with a name. -/
def getNamed (config : Config) (name : String) : Except ConfigError String := do
  return config.get (← key name)

/-- Writes the setting with a name. -/
def setNamed (config : Config) (name value : String) : Except ConfigError Config := do
  config.set (← key name) value

end Config

end ClusterObjects
