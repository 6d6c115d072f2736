import ClusterObjects.Api.Discovery
import ClusterObjects.Handler.Basic

/-!
# Handlers of any kind

A dynamic handler works on objects of any kind. Each object states its own kind; a name is one of
the kind that the handler has been told.
-/

namespace ClusterObjects

structure DynamicHandler where
  namespaceName : String
  gvk : Option GroupVersionKind := none
  options : Options := {}

namespace DynamicHandler

def new (namespaceName : String) : DynamicHandler :=
  { namespaceName := normalNamespace namespaceName }

def withKind (handler : DynamicHandler) (gvk : GroupVersionKind) : DynamicHandler :=
  { handler with gvk := some gvk }

def withNamespace (handler : DynamicHandler) (name : String) : DynamicHandler :=
  { handler with namespaceName := normalNamespace name }

def withDryRun (handler : DynamicHandler) : DynamicHandler :=
  { handler with options := handler.options.dryRun }

def change (handler : DynamicHandler) (change : OptionChange) : DynamicHandler :=
  { handler with options := handler.options.change change }

/-- The collection that a mapping leads to, in the given namespace or else in the handler's. -/
def endpoint (handler : DynamicHandler) (mapping : Mapping) (namespace? : Option String) :
    Endpoint :=
  .ofMapping mapping (some ((namespace?.bind nonEmpty?).getD handler.namespaceName))

/-- The collection of a stated kind. -/
def endpointOf (handler : DynamicHandler) (gvk : GroupVersionKind) (namespace? : Option String) :
    Exchange Endpoint := do
  return handler.endpoint (← Session.mapping gvk) namespace?

/-- The kind that names are of. -/
def knownKind (handler : DynamicHandler) : Except Error GroupVersionKind :=
  match handler.gvk with
  | some gvk => .ok gvk
  | none => .error .missingGvk

/-- The collection of the kind that names are of, in the handler's namespace. -/
def ownEndpoint (handler : DynamicHandler) : Exchange Endpoint := do
  handler.endpointOf (← Exchange.lift handler.knownKind) (some handler.namespaceName)

/-- The object in an input that is no name. -/
def object (input : Input) : Except Error Object := do Input.requireObject (← input.untyped)

/-- The kind, the collection and the name that an object states. -/
def locateObject (handler : DynamicHandler) (object : Object) :
    Exchange (GroupVersionKind × Endpoint × String) := do
  let name ← Exchange.lift object.requiredName
  let gvk ← Exchange.lift object.gvk
  return (gvk, ← handler.endpointOf gvk object.namespace?, name)

/-- The kind, the collection and the name that an input addresses. -/
def locate (handler : DynamicHandler) (input : Input) :
    Exchange (GroupVersionKind × Endpoint × String) := do
  match input with
  | .name name =>
    let gvk ← Exchange.lift handler.knownKind
    return (gvk, ← handler.endpointOf gvk none, name)
  | input => handler.locateObject (← Exchange.lift (object input))

end DynamicHandler

end ClusterObjects
