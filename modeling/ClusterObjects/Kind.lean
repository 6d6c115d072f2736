import ClusterObjects.Text.LowerCase

/-!
# Kinds of objects

The kinds that have a schema of their own, with the group and version that serve them, their name
in paths, their scope and the words that stand for them on a command line. Any other kind is known
only by its group, version and name.
-/

namespace ClusterObjects

structure GroupVersionKind where
  group : String
  version : String
  kind : String
  deriving DecidableEq, Repr

structure GroupVersionResource where
  group : String
  version : String
  resource : String
  deriving DecidableEq, Repr

/-- The parts of a text before and after the first separator. -/
def splitAtFirst (separator : Char) (s : String) : Option (String × String) :=
  let cs := s.toList
  let before := cs.takeWhile (· != separator)
  match cs.drop before.length with
  | [] => none
  | _ :: after => some (String.ofList before, String.ofList after)

/-- A group and a version as one text; the core group has no name and leaves no slash. -/
def joinApiVersion (group version : String) : String :=
  if group.isEmpty then version else group ++ "/" ++ version

/-- The group and the version of such a text, cut at its first slash. -/
def splitApiVersion (apiVersion : String) : String × String :=
  (splitAtFirst '/' apiVersion).getD ("", apiVersion)

namespace GroupVersionKind

def ofApiVersion (apiVersion kind : String) : GroupVersionKind :=
  let (group, version) := splitApiVersion apiVersion
  ⟨group, version, kind⟩

def apiVersion (gvk : GroupVersionKind) : String := joinApiVersion gvk.group gvk.version

end GroupVersionKind

inductive Kind where
  | deployment
  | daemonSet
  | job
  | cronJob
  | namespaceKind
  | configMap
  | persistentVolume
  | persistentVolumeClaim
  | service
  | node
  | serviceAccount
  | roleBinding
  | clusterRole
  | ingress
  deriving DecidableEq, Repr

namespace Kind

def all : List Kind :=
  [deployment, daemonSet, job, cronJob, namespaceKind, configMap, persistentVolume,
    persistentVolumeClaim, service, node, serviceAccount, roleBinding, clusterRole, ingress]

def name : Kind → String
  | deployment => "Deployment"
  | daemonSet => "DaemonSet"
  | job => "Job"
  | cronJob => "CronJob"
  | namespaceKind => "Namespace"
  | configMap => "ConfigMap"
  | persistentVolume => "PersistentVolume"
  | persistentVolumeClaim => "PersistentVolumeClaim"
  | service => "Service"
  | node => "Node"
  | serviceAccount => "ServiceAccount"
  | roleBinding => "RoleBinding"
  | clusterRole => "ClusterRole"
  | ingress => "Ingress"

/-- The API group; the core group has no name. -/
def group : Kind → String
  | deployment | daemonSet => "apps"
  | job | cronJob => "batch"
  | roleBinding | clusterRole => "rbac.authorization.k8s.io"
  | ingress => "networking.k8s.io"
  | namespaceKind | configMap | persistentVolume | persistentVolumeClaim | service | node
  | serviceAccount => ""

def version : Kind → String := fun _ ↦ "v1"

/-- The collection's name in paths. -/
def plural : Kind → String
  | deployment => "deployments"
  | daemonSet => "daemonsets"
  | job => "jobs"
  | cronJob => "cronjobs"
  | namespaceKind => "namespaces"
  | configMap => "configmaps"
  | persistentVolume => "persistentvolumes"
  | persistentVolumeClaim => "persistentvolumeclaims"
  | service => "services"
  | node => "nodes"
  | serviceAccount => "serviceaccounts"
  | roleBinding => "rolebindings"
  | clusterRole => "clusterroles"
  | ingress => "ingresses"

def namespaced : Kind → Bool
  | namespaceKind | persistentVolume | node | clusterRole => false
  | _ => true

/-- The words that stand for the kind, all in lower case. -/
def aliases : Kind → List String
  | deployment => ["deployment", "deployments", "deploy"]
  | daemonSet => ["daemonset", "daemonsets", "ds"]
  | job => ["job", "jobs"]
  | cronJob => ["cronjob", "cronjobs", "cj"]
  | namespaceKind => ["namespace", "namespaces", "ns"]
  | configMap => ["configmap", "configmaps", "cm"]
  | persistentVolume => ["persistentvolume", "persistentvolumes", "pv"]
  | persistentVolumeClaim => ["persistentvolumeclaim", "persistentvolumeclaims", "pvc"]
  | service => ["service", "services", "svc"]
  | node => ["node", "nodes", "no"]
  | serviceAccount => ["serviceaccount", "serviceaccounts", "sa"]
  | roleBinding => ["rolebinding", "rolebindings", "rb"]
  | clusterRole => ["clusterrole", "clusterroles", "cr"]
  | ingress => ["ingress", "ingresses", "ing"]

def apiVersion (kind : Kind) : String := joinApiVersion kind.group kind.version

def gvk (kind : Kind) : GroupVersionKind := ⟨kind.group, kind.version, kind.name⟩

/-- The kind that a word stands for, in any case of its letters. -/
def ofAlias? (word : String) : Option Kind :=
  all.find? fun kind ↦ kind.aliases.contains (Text.lowerCase word)

/-- The kind with exactly this name. -/
def ofName? (name : String) : Option Kind := all.find? (·.name == name)

end Kind

end ClusterObjects
