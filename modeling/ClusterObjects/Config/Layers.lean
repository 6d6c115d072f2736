import ClusterObjects.Config.Access
import ClusterObjects.Config.Document
import ClusterObjects.Config.Location

/-!
# Layers of the configuration

The defaults are overridden by the file, and the file by variables. Only the file is ever written.
-/

namespace ClusterObjects.Config

/-- The configuration in a file. -/
def load (files : FileTree) (path : String) : Except ConfigError Config :=
  if !files.contains path then .error (.missing path)
  else
    match files.readText path with
    | .error fault => .error (.unreadable path fault)
    | .ok text =>
      match ofYaml? text with
      | some config => .ok config
      | none => .error (.unparsable path)

/-- The first path of a list of paths. -/
def firstPath (paths : String) : String := (Text.split ':' paths).headD ""

/-- The configuration with what variables say instead. -/
def override (config : Config) (environment : Environment) : Config :=
  { config with
    kubeconfig := ((environment.filled? "KUBECONFIG").map fun paths ↦
      OsPath.ofText (firstPath paths)).or config.kubeconfig
    context := (environment.filled? "K8S_HANDLER_CONTEXT").or config.context
    namespaceName := (environment.filled? "K8S_HANDLER_NAMESPACE").getD config.namespaceName
    dryRun := ((environment.get? "K8S_HANDLER_DRY_RUN").bind truthWord?).getD config.dryRun }

/-- All layers, where the file may be missing. -/
def loadLayers (files : FileTree) (environment : Environment) (path : String) :
    Except ConfigError Config := do
  let config ← if files.contains path then load files path else pure {}
  return config.override environment

/-- Whether a namespace is named, and the file with the clusters is there. -/
def check (files : FileTree) (config : Config) : Except ConfigError Unit :=
  if config.namespaceName.isEmpty then .error .emptyNamespace
  else
    match config.kubeconfig.filter fun path ↦ !files.containsAt path with
    | some path => .error (.missingKubeconfig path.shown)
    | none => .ok ()

/-- What is wrong with the configuration: that it cannot be loaded, or what it says. -/
def validate (files : FileTree) (environment : Environment) (path : String) :
    Except (List Cause) Unit :=
  match loadLayers files environment path with
  | .error error => .error (.message "Failed to load merged configuration" :: error.chain)
  | .ok config => (check files config).mapError ConfigError.chain

/-- Writes the configuration to a file, and makes the directory for it. -/
def save (files : FileTree) (path : String) (config : Config) :
    Except ConfigError Unit × FileTree :=
  match files.ensureDirectory ((FilePath.parent? path).getD "") with
  | (.error fault, files) => (.error (.noDirectory fault), files)
  | (.ok (), files) =>
    match config.toYaml? with
    | none => (.error .unprintable, files)
    | some text =>
      let (written, files) := files.write path text.toUTF8
      (written.mapError (.unwritable path), files)

end ClusterObjects.Config
