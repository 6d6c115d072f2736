import ClusterObjects.Api.Session
import ClusterObjects.Object.Basic
import ClusterObjects.Options
import ClusterObjects.Patch.Basic

/-!
# Collections of objects on a server

An endpoint is the path of a collection together with the way its objects are read. Its operations
are the verbs of the server, one request each.
-/

namespace ClusterObjects

structure Endpoint where
  path : String
  decode : Json → Option Object

/-- The path of a collection, in one namespace or in all of them. -/
def collectionPath (group apiVersion plural : String) (namespace? : Option String) : String :=
  (if group.isEmpty then "/api/" else "/apis/") ++ apiVersion ++ "/"
    ++ (match namespace? with
      | some name => "namespaces/" ++ name ++ "/"
      | none => "")
    ++ plural

namespace Endpoint

/-- The collection of a kind. A kind outside of namespaces has only one. -/
def ofKind (kind : Kind) (namespace? : Option String) : Endpoint where
  path := collectionPath kind.group kind.apiVersion kind.plural
    (if kind.namespaced then namespace? else none)
  decode := Object.ofTypedJson? kind

/-- The collection that a mapping leads to. -/
def ofMapping (mapping : Mapping) (namespace? : Option String) : Endpoint where
  path := collectionPath mapping.group mapping.apiVersion mapping.plural
    (if mapping.namespaced then namespace? else none)
  decode := Object.ofJson?

def jsonType : String := "application/json"

def pairs (entries : List (String × Option String)) : List (String × String) :=
  entries.filterMap fun (key, value) ↦ value.map ((key, ·))

def dryRunPair (dryRun : Bool) : String × Option String :=
  ("dryRun", if dryRun then some "All" else none)

/-- The path of one object. An object without a name has none. -/
def objectPath? (endpoint : Endpoint) (name : String) : Option String :=
  if name.isEmpty then none else some (endpoint.path ++ "/" ++ name)

/-- The longest name of a field manager, in bytes. -/
def maxManagerLength : Nat := 128

def managerFits (manager : Option String) : Bool :=
  manager.all fun name ↦ name.utf8ByteSize ≤ maxManagerLength

def postQuery (params : PostParams) : List (String × String) :=
  pairs [dryRunPair params.dryRun, ("fieldManager", params.fieldManager)]

def createRequest? (endpoint : Endpoint) (params : PostParams) (object : Object) : Option Request :=
  if managerFits params.fieldManager then
    Request.build? .post endpoint.path (some (postQuery params)) (some jsonType)
      (some object.toJson)
  else none

def replaceRequest? (endpoint : Endpoint) (name : String) (params : PostParams)
    (object : Object) : Option Request := do
  Request.build? .put (← endpoint.objectPath? name) (some (postQuery params)) (some jsonType)
    (some object.toJson)

def getRequest? (endpoint : Endpoint) (name : String) : Option Request := do
  Request.build? .get (← endpoint.objectPath? name) none none none

/-- The body of a deletion says how to delete. -/
def deleteBody (params : DeleteParams) : Json :=
  Json.object
    ((if params.dryRun then [("dryRun", Json.strings ["All"])] else [])
      ++ (params.gracePeriodSeconds.map fun n ↦ ("gracePeriodSeconds", Json.int n)).toList
      ++ (params.propagation.map fun p ↦ ("propagationPolicy", Json.str p.name)).toList)

def deleteRequest? (endpoint : Endpoint) (name : String) (params : DeleteParams) :
    Option Request := do
  Request.build? .delete (← endpoint.objectPath? name) (some []) (some jsonType)
    (some (deleteBody params))

def patchContentType : PatchType → String
  | .strategic => "application/strategic-merge-patch+json"
  | .merge => "application/merge-patch+json"
  | .json => "application/json-patch+json"

def patchRequest? (endpoint : Endpoint) (name : String) (params : PatchParams) (patch : Patch) :
    Option Request := do
  let path ← endpoint.objectPath? name
  if managerFits params.fieldManager then
    Request.build? .patch path
      (some (pairs [dryRunPair params.dryRun, ("fieldManager", params.fieldManager)]))
      (some (patchContentType patch.type)) (some patch.body)
  else none

def listQuery (params : ListParams) : List (String × String) :=
  pairs [("labelSelector", params.labelSelector), ("fieldSelector", params.fieldSelector),
    ("limit", params.limit.map toString)]

def listRequest? (endpoint : Endpoint) (query : List (String × String)) : Option Request :=
  Request.build? .get endpoint.path (some query) none none

/-- The seconds after which the server ends a watch, unless told otherwise. -/
def defaultWatchTimeout : Nat := 290

def watchRequest? (endpoint : Endpoint) (params : WatchParams) (version : String) :
    Option Request :=
  Request.build? .get endpoint.path
    (some (pairs [("watch", some "true"),
      ("timeoutSeconds", some (toString (params.timeout.getD defaultWatchTimeout))),
      ("labelSelector", params.labelSelector), ("fieldSelector", params.fieldSelector),
      ("allowWatchBookmarks", if params.bookmarks then some "true" else none),
      ("resourceVersion", some version)])) none none

def create (endpoint : Endpoint) (params : PostParams) (object : Object) : Exchange Object := do
  Exchange.decoded (endpoint.decode (← Exchange.call (endpoint.createRequest? params object)))

def replace (endpoint : Endpoint) (name : String) (params : PostParams) (object : Object) :
    Exchange Object := do
  Exchange.decoded (endpoint.decode (← Exchange.call (endpoint.replaceRequest? name params object)))

def get (endpoint : Endpoint) (name : String) : Exchange Object := do
  Exchange.decoded (endpoint.decode (← Exchange.call (endpoint.getRequest? name)))

/-- Deletes an object. The server answers with a status or with the object. -/
def delete (endpoint : Endpoint) (name : String) (params : DeleteParams) : Exchange Unit := do
  let value ← Exchange.call (endpoint.deleteRequest? name params)
  if value.get? "kind" = some (.str "Status") then
    if isStatusObject value then return () else Exchange.failApi .undecodable
  else
    let _ ← Exchange.decoded (endpoint.decode value)

def patch (endpoint : Endpoint) (name : String) (params : PatchParams) (patch : Patch) :
    Exchange Object := do
  Exchange.decoded (endpoint.decode (← Exchange.call (endpoint.patchRequest? name params patch)))

/-- A page of a list: its items, its version and the mark of the next page. -/
structure Page where
  items : List Object
  version : Option String
  next : Option String

/-- A member of a list's metadata that may be missing or null, and else is a text. -/
def optionalText? (members : Json.Members) (key : String) : Option (Option String) :=
  match Json.Members.get? members key with
  | none | some .null => some none
  | some value => value.str?.map some

/-- Reads a list. Items that are null are none; the metadata may be missing but not null. -/
def page? (endpoint : Endpoint) (value : Json) : Option Page := do
  let members ← match value with
    | .obj members => some members
    | _ => none
  let items ← match ← Json.Members.get? members "items" with
    | .null => some []
    | .arr items => items.mapM endpoint.decode
    | _ => none
  match Json.Members.get? members "metadata" with
  | none => return { items, version := none, next := none }
  | some (.obj metadata) =>
    let _ ← optionalText? metadata "selfLink"
    match Json.Members.get? metadata "remainingItemCount" with
    | none | some .null => pure ()
    | some count =>
      let _ ← Schema.int64? count
    return { items, version := ← optionalText? metadata "resourceVersion"
             next := ← optionalText? metadata "continue" }
  | some _ => none

def listPage (endpoint : Endpoint) (query : List (String × String)) : Exchange Page := do
  Exchange.decoded (endpoint.page? (← Exchange.call (endpoint.listRequest? query)))

def list (endpoint : Endpoint) (params : ListParams) : Exchange (List Object) := do
  return (← endpoint.listPage (listQuery params)).items

/-- Fetches an object that may be missing. -/
def find? (endpoint : Endpoint) (name : String) : Exchange (Option Object) := fun session ↦
  match endpoint.get name session with
  | (.ok object, session) => (.ok (some object), session)
  | (.error (.api (.status code reason message)), session) =>
    if reason = "NotFound" then (.ok none, session)
    else (.error (.api (.status code reason message)), session)
  | (.error error, session) => (.error error, session)

end Endpoint

end ClusterObjects
