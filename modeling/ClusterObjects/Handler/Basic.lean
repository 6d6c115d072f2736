import ClusterObjects.Api.Endpoint
import ClusterObjects.Informer.Settings
import ClusterObjects.Object.Input

/-!
# Handlers of one kind

A handler works on the objects of one kind, in one namespace, with options of its own. Copies take
the options along as they are; changes to a copy stay in the copy.
-/

namespace ClusterObjects

def defaultNamespace : String := "default"

/-- The namespace of a handler; an empty name stands for the default one. -/
def normalNamespace (name : String) : String := if name.isEmpty then defaultNamespace else name

structure Handler where
  kind : Kind
  namespaceName : String
  options : Options := {}
  informer : InformerSettings := {}

/-- The namespace of an object, when it is not empty. -/
def Object.ownNamespace? (object : Object) : Option String := object.namespace?.bind nonEmpty?

namespace Handler

def new (kind : Kind) (namespaceName : String) : Handler :=
  { kind, namespaceName := normalNamespace namespaceName }

def withNamespace (handler : Handler) (name : String) : Handler :=
  { handler with namespaceName := normalNamespace name }

def withDryRun (handler : Handler) : Handler := { handler with options := handler.options.dryRun }

def change (handler : Handler) (change : OptionChange) : Handler :=
  { handler with options := handler.options.change change }

def endpointIn (handler : Handler) (name : String) : Endpoint := .ofKind handler.kind (some name)

/-- The collection in the handler's namespace. -/
def endpoint (handler : Handler) : Endpoint := handler.endpointIn handler.namespaceName

/-- The namespace that an object belongs to: its own one, or else the handler's. -/
def namespaceOf (handler : Handler) (object : Object) : String :=
  object.ownNamespace?.getD handler.namespaceName

/-- The collection that an object belongs to. -/
def endpointOf (handler : Handler) (object : Object) : Endpoint :=
  handler.endpointIn (handler.namespaceOf object)

/-- The object in an input that is no name. -/
def object (handler : Handler) (input : Input) : Except Error Object := do
  Input.requireObject (← input.typed handler.kind)

/-- The namespace and the name that an input addresses. -/
def resolve (handler : Handler) (input : Input) : Except Error (String × String) :=
  match input with
  | .name name => .ok (handler.namespaceName, name)
  | input => do
    let object ← handler.object input
    let name ← object.requiredName
    return (handler.namespaceOf object, name)

end Handler

end ClusterObjects
