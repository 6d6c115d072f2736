import ClusterObjects.Handler.Basic
import ClusterObjects.Watch.Loop

/-!
# Operations of a handler

Every operation sends one request, but for `apply`, which sends a second one when the object is
there already, and for `patch`, which sends none when there is nothing to change.
-/

namespace ClusterObjects.Handler

/-- The policy that deletions of a kind always have. Jobs would leave their pods behind. -/
def forcedPropagation : Kind → Option Propagation
  | .job | .cronJob => some .background
  | _ => none

def createObject (handler : Handler) (object : Object) : Exchange Object :=
  (handler.endpointOf object).create handler.options.post object.withoutServerFields

def updateObject (handler : Handler) (object : Object) : Exchange Object := do
  let name ← Exchange.lift object.requiredName
  (handler.endpointOf object).replace name handler.options.post object.withoutServerFields

/-- Creates an object, or updates it when the server says that it exists. -/
def applyObject (handler : Handler) (object : Object) : Exchange Object :=
  tryCatch (handler.createObject object) fun error ↦
    if error.isAlreadyExists then handler.updateObject object else throw error

def create (handler : Handler) (input : Input) : Exchange Object := do
  handler.createObject (← Exchange.lift (handler.object input))

def update (handler : Handler) (input : Input) : Exchange Object := do
  handler.updateObject (← Exchange.lift (handler.object input))

def apply (handler : Handler) (input : Input) : Exchange Object := do
  handler.applyObject (← Exchange.lift (handler.object input))

/-- The parameters of a deletion of the handler's kind. -/
def deleteParams (handler : Handler) : DeleteParams :=
  match forcedPropagation handler.kind with
  | some policy => { handler.options.delete with propagation := some policy }
  | none => handler.options.delete

def delete (handler : Handler) (target : Input) : Exchange Unit := do
  let (namespaceName, name) ← Exchange.lift (handler.resolve target)
  (handler.endpointIn namespaceName).delete name handler.deleteParams

def get (handler : Handler) (target : Input) : Exchange Object := do
  let (namespaceName, name) ← Exchange.lift (handler.resolve target)
  (handler.endpointIn namespaceName).get name

def listByLabel (handler : Handler) (selector : String) : Exchange (List Object) :=
  handler.endpoint.list (handler.options.listByLabel selector)

def listByField (handler : Handler) (selector : String) : Exchange (List Object) :=
  handler.endpoint.list (handler.options.listByField selector)

def listByNamespace (handler : Handler) (name : String) : Exchange (List Object) :=
  (handler.endpointIn name).list handler.options.list

/-- Lists the objects of all namespaces. -/
def listAll (handler : Handler) : Exchange (List Object) :=
  (Endpoint.ofKind handler.kind none).list handler.options.list

/-- The patch that an input stands for: a document as it is, an object by its difference from the
existing object. -/
def patchOf (handler : Handler) (existing : Object) (input : Input) (type : PatchType) :
    Except Error (Option Patch) :=
  match input with
  | .name _ => .error (.invalidInput .nameForPatch)
  | .file file => do Patch.raw (← documentValue (← file.read)) type
  | .bytes data => do Patch.raw (← documentValue data) type
  | input => do
    let desired ← handler.object input
    Patch.between existing.toJson desired.toJson type

/-- Patches the existing object. -/
def patch (handler : Handler) (existing : Object) (input : Input) (type : PatchType) :
    Exchange Object := do
  let name ← Exchange.lift existing.requiredName
  match ← Exchange.lift (handler.patchOf existing input type) with
  | none => return existing
  | some patch => (handler.endpointOf existing).patch name handler.options.patch patch

def watchByName (handler : Handler) (name : String) : StateM Session (List WatchCall × WatchEnd) :=
  handler.endpoint.watchName handler.options.watchParams name

def watchByLabel (handler : Handler) (selector : String) :
    StateM Session (List WatchCall × WatchEnd) :=
  handler.endpoint.watch { handler.options.watchParams with labelSelector := some selector }
    (.labels selector)

def watchByField (handler : Handler) (selector : String) :
    StateM Session (List WatchCall × WatchEnd) :=
  handler.endpoint.watch { handler.options.watchParams with fieldSelector := some selector }
    (.fields selector)

/-- Watches the object that an input addresses. -/
def watch (handler : Handler) (target : Input) : StateM Session (List WatchCall × WatchEnd) :=
  match handler.resolve target with
  | .error error => return ([], .failed error)
  | .ok (namespaceName, name) => (handler.withNamespace namespaceName).watchByName name

end ClusterObjects.Handler
