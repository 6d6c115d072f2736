import ClusterObjects.Config.Basic
import ClusterObjects.Config.Error
import ClusterObjects.Kubeconfig.Document

/-!
# Connections to a cluster

A configuration that names a kubeconfig uses that one and no other. Otherwise the default one
counts, where it makes a difference for the error only whether a context is named.
-/

namespace ClusterObjects

/-- Why there is no connection. -/
inductive ConnectionError where
  | unreadable (path : String)
  | unusable
  | notFound
  deriving DecidableEq, Repr

namespace ConnectionError

def message : String := "failed to build client"

def chain : ConnectionError → List Cause
  | unreadable path => [.message ("Failed to read kubeconfig " ++ path), .kubeconfig]
  | unusable => [.message "Failed to load kubeconfig", .kubeconfig]
  | notFound => [.message "Failed to infer Kubernetes configuration", .kubeconfig]

end ConnectionError

namespace Config

/-- The cluster that a configuration leads to. -/
def target (config : Config) (files : FileTree) (environment : Environment) :
    Except ConnectionError Target :=
  let usable (error : ConnectionError) : Option Target → Except ConnectionError Target
    | some target => .ok target
    | none => .error error
  match config.kubeconfig with
  | some path =>
    match Kubeconfig.read? files path with
    | some kubeconfig => usable .unusable (kubeconfig.target? config.context)
    | none => .error (.unreadable path.shown)
  | none =>
    usable (if config.context.isSome then .unusable else .notFound)
      ((Kubeconfig.readDefault? files environment).bind (·.target? config.context))

/-- The context that a configuration uses, if one is named anywhere. -/
def currentContext? (config : Config) (files : FileTree) (environment : Environment) :
    Option String :=
  match config.context with
  | some context => some context
  | none =>
    let kubeconfig := match config.kubeconfig with
      | some path => Kubeconfig.read? files path
      | none => Kubeconfig.readDefault? files environment
    kubeconfig.bind (·.currentContext)

end Config

namespace Handler

/-- The handler of a kind that a configuration describes. -/
def ofConfig (kind : Kind) (config : Config) : Handler :=
  let handler := { new kind config.namespaceName with informer := config.informer }
  let handler := if config.dryRun then handler.withDryRun else handler
  match config.fieldManager with
  | some manager => handler.change (.fieldManager manager)
  | none => handler

/-- The handler that a configuration describes, when its cluster is known. -/
def connect (kind : Kind) (config : Config) (files : FileTree) (environment : Environment) :
    Except ConnectionError Handler := do
  let _ ← config.target files environment
  return ofConfig kind config

end Handler

end ClusterObjects
