import ClusterObjects.Kind
import ClusterObjects.Schema.Cluster
import ClusterObjects.Schema.Workload

/-!
# The schema of each kind

`Kind.fields` lists what an object of a kind holds beside its metadata.
-/

namespace ClusterObjects

open Schema

/-- A specification and a status, both of which may be missing. -/
def Schema.specified (spec status : Schema) : List (String × Bool × Schema) :=
  [optional "spec" spec, optional "status" status]

/-- The fields of a kind beside its name, its version and its metadata. -/
def Kind.fields : Kind → List (String × Bool × Schema)
  | .deployment => specified deploymentSpec deploymentStatus
  | .daemonSet => specified daemonSetSpec daemonSetStatus
  | .job => specified jobSpec jobStatus
  | .cronJob => specified cronJobSpec cronJobStatus
  | .namespaceKind =>
    specified (.struct [optional "finalizers" (.list .string)]) namespaceStatus
  | .configMap =>
    [optional "binaryData" (.map .bytes), optional "data" (.map .string),
      optional "immutable" .bool]
  | .persistentVolume => specified persistentVolumeSpec persistentVolumeStatus
  | .persistentVolumeClaim => specified claimSpec claimStatus
  | .service => specified serviceSpec serviceStatus
  | .node => specified nodeSpec nodeStatus
  | .serviceAccount =>
    [optional "automountServiceAccountToken" .bool,
      optional "imagePullSecrets" (.list localReference),
      optional "secrets" (.list objectReference)]
  | .roleBinding => [required "roleRef" roleReference, optional "subjects" (.list subject)]
  | .clusterRole =>
    [optional "aggregationRule" aggregationRule, optional "rules" (.list policyRule)]
  | .ingress => specified ingressSpec ingressStatus

end ClusterObjects
