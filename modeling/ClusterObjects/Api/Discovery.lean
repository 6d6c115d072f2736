import ClusterObjects.Api.Endpoint

/-!
# Where kinds are served

`Session.mapping` finds the collection of a kind. What has been found before is remembered; a kind
that is not known yet is looked up in the resources that the server lists for its group and version.
-/

namespace ClusterObjects

namespace Mapping

def gvr (mapping : Mapping) : GroupVersionResource :=
  ⟨mapping.group, mapping.version, mapping.plural⟩

/-- Where a kind with a schema is served. -/
def ofKind (kind : Kind) : GroupVersionKind × Mapping :=
  (kind.gvk,
    { group := kind.group, version := kind.version, apiVersion := kind.apiVersion
      kind := kind.name, plural := kind.plural, namespaced := kind.namespaced })

/-- The mappings that are known without asking. -/
def builtin : List (GroupVersionKind × Mapping) := Kind.all.map ofKind

end Mapping

namespace Discovery

/-- A resource in the list of a group and version. -/
structure Resource where
  name : String
  kind : String
  namespaced : Bool
  group : Option String
  version : Option String

structure ResourceList where
  groupVersion : String
  resources : List Resource

def resourceSchema : Schema := .struct
  (Schema.requireds .string ["kind", "name", "singularName"] ++
    Schema.optionals .string ["group", "storageVersionHash", "version"] ++
    Schema.optionals (.list .string) ["categories", "shortNames"] ++
    [Schema.required "namespaced" .bool, Schema.required "verbs" (.list .string)])

def listSchema : Schema := .struct
  [Schema.required "groupVersion" .string, Schema.required "resources" (.list resourceSchema)]

def resourceOf (value : Json) : Resource :=
  { name := (value.text? "name").getD "", kind := (value.text? "kind").getD ""
    namespaced := value.get? "namespaced" == some (.bool true)
    group := value.text? "group", version := value.text? "version" }

/-- Reads a list of resources, whose type is fixed when it is stated. -/
def ResourceList.ofJson? : Json → Option ResourceList
  | .obj members => do
    if !(Object.statesOnly members "apiVersion" "v1"
        && Object.statesOnly members "kind" "APIResourceList") then
      none
    let value ← listSchema.decode? (.obj members)
    let resources := match value.get? "resources" with
      | some (.arr items) => items.map resourceOf
      | _ => []
    return { groupVersion := (value.text? "groupVersion").getD "", resources }
  | _ => none

/-- The mapping that a list gives for a kind: that of the first resource of the kind which is not
part of another one. Group and version of the resource go before those of the list. -/
def ResourceList.mapping? (list : ResourceList) (kind : String) : Option Mapping := do
  let resource ← list.resources.find? fun r ↦ r.kind == kind && !r.name.contains '/'
  let named ← list.resources.find? (·.name == resource.name)
  let (group, version) := splitApiVersion list.groupVersion
  return { group := resource.group.getD group, version := resource.version.getD version
           apiVersion := joinApiVersion group version, kind := resource.kind
           plural := resource.name, namespaced := named.namespaced }

/-- The request that lists the resources of a kind's group and version. -/
def request? (gvk : GroupVersionKind) : Option Request :=
  Request.build? .get ((if gvk.group.isEmpty then "/api/" else "/apis/") ++ gvk.apiVersion) none
    none none

/-- Asks the server for the mapping of a kind. -/
def ask (gvk : GroupVersionKind) : Exchange Mapping := do
  let value ← Exchange.call (request? gvk) .badAddress
  let list ← Exchange.decoded (ResourceList.ofJson? value)
  match list.mapping? gvk.kind with
  | some mapping => return mapping
  | none => Exchange.failApi .unknownKind

/-- An error of the server in a discovery is reported as one of the discovery. -/
def wrapError (gvk : GroupVersionKind) : Error → Error
  | .api cause => .discovery gvk.apiVersion gvk.kind cause
  | error => error

end Discovery

namespace Session

def learned? (session : Session) (gvk : GroupVersionKind) : Option Mapping :=
  session.mappings.lookup gvk

/-- Remembers a mapping, in the place of an older one for the same kind. -/
def learn (gvk : GroupVersionKind) (mapping : Mapping) : StateM Session Unit :=
  modify fun session ↦
    { session with
      mappings := (gvk, mapping) :: session.mappings.filter fun known ↦ known.1 != gvk }

/-- The mapping of a kind, asked for when it is not known. -/
def mapping (gvk : GroupVersionKind) : Exchange Mapping := do
  match (← getThe Session).learned? gvk with
  | some mapping => return mapping
  | none =>
    let mapping ← ExceptT.adapt (Discovery.wrapError gvk) (Discovery.ask gvk)
    ExceptT.lift (learn gvk mapping)
    return mapping

/-- A session with a server that has yet to be asked anything. -/
def new (script : List Reply) (beyond : Reply) : Session :=
  { script, beyond, mappings := Mapping.builtin }

end Session

end ClusterObjects
