import ClusterObjects.Host.Environment
import ClusterObjects.Host.OsPath
import ClusterObjects.Kubeconfig.Basic
import ClusterObjects.Text.Encoding
import ClusterObjects.Yaml.Value

/-!
# Kubeconfigs as documents

A file may hold several documents, and a variable may name several files; all of them make one
kubeconfig. Fields are null or of their type, and unknown fields are passed over.
-/

namespace ClusterObjects

namespace Kubeconfig

/-- The members of an object; null has none. -/
def members? : Json → Option Json.Members
  | .obj members => some members
  | .null => some []
  | _ => none

def isText (value : Json) : Bool := value.str?.isSome

def isBool : Json → Bool
  | .bool _ => true
  | _ => false

def isTexts : Json → Bool
  | .arr items => items.all isText
  | _ => false

/-- Whether all fields that are there and not null are of their type. -/
def wellTyped (fields : List (String × (Json → Bool))) (members : Json.Members) : Bool :=
  fields.all fun (key, ofType) ↦ match members.get? key with
    | none | some .null => true
    | some value => ofType value

/-- A field that may be null or missing. -/
def optional? {α : Type} (read : Json → Option α) (members : Json.Members) (key : String) :
    Option (Option α) :=
  match members.get? key with
  | none | some .null => some none
  | some value => (read value).map some

def text? (members : Json.Members) (key : String) : Option (Option String) :=
  optional? Json.str? members key

def clusterFields : List (String × (Json → Bool)) :=
  [("insecure-skip-tls-verify", isBool), ("disable-compression", isBool),
    ("certificate-authority", isText), ("certificate-authority-data", isText),
    ("proxy-url", isText), ("tls-server-name", isText)]

def userFields : List (String × (Json → Bool)) :=
  [("username", isText), ("password", isText), ("token", isText), ("tokenFile", isText),
    ("client-certificate", isText), ("client-certificate-data", isText), ("client-key", isText),
    ("client-key-data", isText), ("as", isText), ("as-groups", isTexts)]

def cluster? (value : Json) : Option Cluster := do
  let members ← members? value
  if wellTyped clusterFields members then return { server := ← text? members "server" } else none

def context? (value : Json) : Option ClusterContext := do
  let members ← members? value
  let cluster ← members.get? "cluster"
  if wellTyped [("user", isText)] members then
    return { cluster := ← cluster.str?, namespaceName := ← text? members "namespace" }
  else none

/-- A user; of the credentials only the types are checked. -/
def user? (value : Json) : Option Unit := do
  let members ← members? value
  if wellTyped userFields members then return () else none

/-- The entries of a list, each with its name and what stands under a key. -/
def named? {α : Type} (read : Json → Option α) (key : String) (members : Json.Members)
    (list : String) : Option (List (String × Option α)) :=
  match members.get? list with
  | none | some .null => some []
  | some (.arr items) => items.mapM fun item ↦ do
    let entry ← members? item
    return (← (← entry.get? "name").str?, ← optional? read entry key)
  | some _ => none

def ofJson? (value : Json) : Option Kubeconfig := do
  let members ← members? value
  let _ ← named? user? "user" members "users"
  return {
    kind := ← text? members "kind"
    apiVersion := ← text? members "apiVersion"
    currentContext := ← text? members "current-context"
    clusters := ← named? cluster? "cluster" members "clusters"
    contexts := ← named? context? "context" members "contexts" }

/-- Several kubeconfigs as one. -/
def mergeAll (kubeconfigs : List Kubeconfig) : Option Kubeconfig :=
  kubeconfigs.foldlM merge {}

def ofBytes? (bytes : ByteArray) : Option Kubeconfig := do
  let text ← Text.decode? bytes
  let values ← (← Yaml.nodes? text.toUTF8).mapM Yaml.Node.toJson?
  mergeAll (← values.mapM ofJson?)

/-- The kubeconfig in a file. -/
def read? (files : FileTree) (path : OsPath) : Option Kubeconfig :=
  match files.readAt path with
  | .ok bytes => ofBytes? bytes
  | .error _ => none

/-- The paths that a variable names. -/
def paths (environment : Environment) : List String :=
  (Text.split ':' ((environment.get? "KUBECONFIG").getD "")).filter fun path ↦ !path.isEmpty

/-- The kubeconfig of the files that a variable names, or else the one in the home directory. -/
def readDefault? (files : FileTree) (environment : Environment) : Option Kubeconfig := do
  match paths environment with
  | [] => read? files (.ofText (FilePath.join (← environment.home?) ".kube/config"))
  | paths => mergeAll (← paths.mapM fun path ↦ read? files (.ofText path))

end Kubeconfig

end ClusterObjects
