import ClusterObjects.Dynamic.Basic
import ClusterObjects.Object.Manifest
import ClusterObjects.Watch.Loop

/-!
# Operations of a dynamic handler

The operations on single objects, and those on manifests: a manifest is applied from front to back
and deleted from back to front, and ends with the first failure.
-/

namespace ClusterObjects.DynamicHandler

/-- The kinds whose objects would leave others behind when deleted in the foreground. -/
def backgroundKinds : List String := ["Job", "CronJob"]

/-- The desired object with the existing object's type where it states none. A stated type has to
be the existing object's. -/
def sameKind (existing desired : Object) : Except Error Object :=
  match existing.types, desired.types with
  | some expected, some found =>
    if expected = found then .ok desired
    else
      .error (.kindMismatch (found.apiVersion ++ "/" ++ found.kind)
        (expected.apiVersion ++ "/" ++ expected.kind))
  | some expected, none => .ok { desired with types := some expected }
  | none, _ => .ok desired

def createObject (handler : DynamicHandler) (object : Object) : Exchange Object := do
  let gvk ← Exchange.lift object.gvk
  let endpoint ← handler.endpointOf gvk object.namespace?
  endpoint.create handler.options.post object.withoutServerFields

def updateObject (handler : DynamicHandler) (object : Object) : Exchange Object := do
  let some name := object.name? | Exchange.fail .missingName
  let gvk ← Exchange.lift object.gvk
  let endpoint ← handler.endpointOf gvk object.namespace?
  endpoint.replace name handler.options.post object.withoutServerFields

/-- Creates an object, or updates it when the server says that it exists. -/
def applyObject (handler : DynamicHandler) (object : Object) : Exchange Object :=
  tryCatch (handler.createObject object) fun error ↦
    if error.isAlreadyExists then handler.updateObject object else throw error

def create (handler : DynamicHandler) (input : Input) : Exchange Object := do
  handler.createObject (← Exchange.lift (object input))

def update (handler : DynamicHandler) (input : Input) : Exchange Object := do
  handler.updateObject (← Exchange.lift (object input))

def apply (handler : DynamicHandler) (input : Input) : Exchange Object := do
  handler.applyObject (← Exchange.lift (object input))

/-- The parameters of a deletion of a kind. -/
def deleteParams (handler : DynamicHandler) (kind : String) : DeleteParams :=
  if backgroundKinds.contains kind then
    { handler.options.delete with propagation := some .background }
  else handler.options.delete

def delete (handler : DynamicHandler) (input : Input) : Exchange Unit := do
  let (gvk, endpoint, name) ← handler.locate input
  endpoint.delete name (handler.deleteParams gvk.kind)

def get (handler : DynamicHandler) (input : Input) : Exchange Object := do
  let (_, endpoint, name) ← handler.locate input
  endpoint.get name

def list (handler : DynamicHandler) (selector : String) : Exchange (List Object) := do
  (← handler.ownEndpoint).list (handler.options.listByLabel selector)

/-- Lists the objects of all namespaces. -/
def listAll (handler : DynamicHandler) : Exchange (List Object) := do
  let mapping ← Session.mapping (← Exchange.lift handler.knownKind)
  (Endpoint.ofMapping mapping none).list handler.options.list

/-- The patch that an input stands for: a document as it is, an object by its difference from the
existing object. -/
def patchOf (existing : Object) (input : Input) (type : PatchType) :
    Except Error (Option Patch) :=
  match input with
  | .name _ => .error (.invalidInput .nameForPatch)
  | .file file => do Patch.raw (← documentValue (← file.read)) type
  | .bytes data => do Patch.raw (← documentValue data) type
  | input => do
    let desired ← sameKind existing (← object input)
    Patch.between existing.toJson desired.toJson type

/-- Patches the existing object, with a merge patch unless told otherwise. -/
def patch (handler : DynamicHandler) (existing : Object) (input : Input)
    (type : Option PatchType) : Exchange Object := do
  let (_, endpoint, name) ← handler.locateObject existing
  match ← Exchange.lift (patchOf existing input (type.getD .merge)) with
  | none => return existing
  | some patch => endpoint.patch name handler.options.patch patch

/-- Watches a collection once it has been found. -/
def watchIn (endpoint : Exchange Endpoint)
    (run : Endpoint → StateM Session (List WatchCall × WatchEnd)) :
    StateM Session (List WatchCall × WatchEnd) := do
  match ← endpoint.run with
  | .error error => return ([], .failed error)
  | .ok endpoint => run endpoint

def watchByName (handler : DynamicHandler) (name : String) :
    StateM Session (List WatchCall × WatchEnd) :=
  watchIn handler.ownEndpoint fun endpoint ↦ endpoint.watchName handler.options.watchParams name

def watchByLabel (handler : DynamicHandler) (selector : String) :
    StateM Session (List WatchCall × WatchEnd) :=
  watchIn handler.ownEndpoint fun endpoint ↦
    endpoint.watch { handler.options.watchParams with labelSelector := some selector }
      (.labels selector)

/-- The handler that watches an object by its name, and the name. -/
def watcherOf (handler : DynamicHandler) (object : Object) :
    Except Error (DynamicHandler × String) := do
  let gvk ← object.gvk
  match object.name? with
  | none => .error .missingName
  | some name =>
    let handler := handler.withKind gvk
    match object.namespace?.bind nonEmpty? with
    | some own => return (handler.withNamespace own, name)
    | none => return (handler, name)

/-- Watches the object that an input addresses. -/
def watch (handler : DynamicHandler) (input : Input) :
    StateM Session (List WatchCall × WatchEnd) :=
  match input with
  | .name name => handler.watchByName name
  | input =>
    match object input >>= handler.watcherOf with
    | .error error => return ([], .failed error)
    | .ok (handler, name) => handler.watchByName name

/-- Applies objects one after another. -/
def applyAll (handler : DynamicHandler) : List Object → Exchange (List Object)
  | [] => return []
  | object :: rest => do
    let applied ← handler.applyObject object
    return applied :: (← handler.applyAll rest)

/-- Deletes objects one after another. -/
def deleteAll (handler : DynamicHandler) : List Object → Exchange Unit
  | [] => return ()
  | object :: rest => do
    handler.delete (.object object)
    handler.deleteAll rest

def applyManifest (handler : DynamicHandler) (data : ByteArray) : Exchange (List Object) := do
  handler.applyAll (← Exchange.lift (Manifest.objects data))

def deleteManifest (handler : DynamicHandler) (data : ByteArray) : Exchange Unit := do
  handler.deleteAll (← Exchange.lift (Manifest.objects data)).reverse

end ClusterObjects.DynamicHandler
