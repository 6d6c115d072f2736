import ClusterObjects.Handler.Basic
import ClusterObjects.Host.OsPath

/-!
# Configuration

How the program reaches a cluster, and what it does there unless told otherwise.
-/

namespace ClusterObjects

structure Config where
  /-- The file that says how to reach clusters. -/
  kubeconfig : Option OsPath := none
  /-- The context to use instead of the current one. -/
  context : Option String := none
  namespaceName : String := defaultNamespace
  fieldManager : Option String := none
  dryRun : Bool := false
  informer : InformerSettings := {}
  deriving DecidableEq, Repr

/-- The settings that have a name of their own. -/
inductive ConfigKey where
  | kubeconfig
  | context
  | namespaceName
  | fieldManager
  | dryRun
  | resyncSeconds
  | informerNamespace
  deriving DecidableEq, Repr

namespace ConfigKey

def all : List ConfigKey :=
  [kubeconfig, context, namespaceName, fieldManager, dryRun, resyncSeconds, informerNamespace]

def name : ConfigKey → String
  | kubeconfig => "kubeconfig"
  | context => "context"
  | namespaceName => "namespace"
  | fieldManager => "fieldManager"
  | dryRun => "dryRun"
  | resyncSeconds => "informer.resyncSeconds"
  | informerNamespace => "informer.namespace"

def ofName? (name : String) : Option ConfigKey := all.find? fun key ↦ key.name == name

end ConfigKey

end ClusterObjects
