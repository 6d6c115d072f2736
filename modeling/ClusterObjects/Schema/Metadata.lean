import ClusterObjects.Schema.Basic

/-!
# Schemas that all kinds share

The metadata of objects, references between objects, and selectors of labels.
-/

namespace ClusterObjects.Schema

def managedFields : Schema := .struct
  (optionals .string ["apiVersion", "fieldsType", "manager", "operation", "subresource"] ++
    [optional "fieldsV1" .any, optional "time" .timestamp])

def ownerReference : Schema := .struct
  (requireds .string ["apiVersion", "kind", "name", "uid"] ++
    optionals .bool ["blockOwnerDeletion", "controller"])

def objectMeta : Schema := .struct
  (optionals .string ["generateName", "name", "namespace", "resourceVersion", "selfLink", "uid"] ++
    optionals (.map .string) ["annotations", "labels"] ++
    optionals .timestamp ["creationTimestamp", "deletionTimestamp"] ++
    optionals .int64 ["deletionGracePeriodSeconds", "generation"] ++
    [optional "finalizers" (.list .string), optional "managedFields" (.list managedFields),
      optional "ownerReferences" (.list ownerReference)])

def objectReference : Schema := .struct
  (optionals .string
    ["apiVersion", "fieldPath", "kind", "name", "namespace", "resourceVersion", "uid"])

def localReference : Schema := .struct [required "name" .string]

def secretReference : Schema := .struct (optionals .string ["name", "namespace"])

def typedLocalReference : Schema := .struct
  (requireds .string ["kind", "name"] ++ [optional "apiGroup" .string])

/-- A condition on keys, with the operator that joins it to the values. -/
def requirement : Schema := .struct
  (requireds .string ["key", "operator"] ++ [optional "values" (.list .string)])

def labelSelector : Schema := .struct
  [optional "matchExpressions" (.list requirement), optional "matchLabels" (.map .string)]

def nodeSelectorTerm : Schema := .struct
  (optionals (.list requirement) ["matchExpressions", "matchFields"])

def nodeSelector : Schema := .struct [required "nodeSelectorTerms" (.list nodeSelectorTerm)]

/-- Amounts of resources by their names. -/
def quantities : Schema := .map .quantity

/-- A condition of a status, with the times of its changes. -/
def condition (times : List String) : Schema := .struct
  (requireds .string ["status", "type"] ++ optionals .string ["message", "reason"] ++
    optionals .timestamp times)

end ClusterObjects.Schema
