import ClusterObjects.Host.Environment
import ClusterObjects.Host.FileTree

/-!
# Where the configuration is kept

A variable can name the file outright. Otherwise it lies in the directory for configurations, which
is the one that a variable names by its whole path, or else one in the home directory.
-/

namespace ClusterObjects.Config

def pathVariable : String := "K8S_HANDLER_CONFIG"

def programName : String := "k8sh"

def fileName : String := "config.yaml"

/-- The directory for the configurations of all programs. -/
def baseDirectory? (environment : Environment) : Option String :=
  match (environment.get? "XDG_CONFIG_HOME").filter FilePath.isAbsolute with
  | some base => some base
  | none =>
    ((environment.filled? "HOME").or environment.accountHome).map (FilePath.join · ".config")

/-- The program's own directory. -/
def directory? (environment : Environment) : Option String :=
  (baseDirectory? environment).map (FilePath.join · programName)

def path (environment : Environment) : String :=
  (environment.filled? pathVariable).getD
    (FilePath.join ((directory? environment).getD "") fileName)

end ClusterObjects.Config
