import ClusterObjects.Cli.Reading
import ClusterObjects.Config.Basic

/-!
# What a command line asks for

A reading of the words becomes a command with what it needs, and the settings that override the
configuration.
-/

namespace ClusterObjects.Cli

inductive ConfigCommand where
  | get (key : Option String)
  | set (key value : String)
  | path
  | validate
  deriving DecidableEq, Repr

inductive Command where
  | apply (file : String)
  | create (file : String)
  | deleteFile (file : String)
  | delete (kind : Kind) (name : String)
  /-- A deletion that names neither a file nor an object. -/
  | deleteNothing
  | get (kind : Kind) (name : String)
  | list (kind : Kind) (selector : String) (everywhere : Bool)
  | watchName (kind : Kind) (name : String)
  | watchSelector (kind : Kind) (selector : String)
  | patch (kind : Kind) (name file : String) (type : PatchType)
  | kinds
  | config (command : ConfigCommand)
  deriving DecidableEq, Repr

structure Invocation where
  command : Command
  namespaceName : Option String := none
  dryRun : Bool := false
  kubeconfig : Option String := none
  context : Option String := none
  deriving DecidableEq, Repr

/-- The command that a complete reading means. -/
def Command.ofReading? (reading : Reading) : Option Command :=
  match reading.path, reading.arguments with
  | ["config", "get"], arguments => some (config (.get arguments.head?))
  | ["config", "set"], [key, value] => some (config (.set key value))
  | ["config", "path"], _ => some (config .path)
  | ["config", "validate"], _ => some (config .validate)
  | ["apply"], _ => (reading.option? "filename").map apply
  | ["create"], _ => (reading.option? "filename").map create
  | ["delete"], arguments =>
    match reading.option? "filename", arguments with
    | some file, _ => some (deleteFile file)
    | none, [kind, name] => (Kind.ofAlias? kind).map fun kind ↦ delete kind name
    | none, _ => some deleteNothing
  | ["get"], [kind, name] => (Kind.ofAlias? kind).map fun kind ↦ get kind name
  | ["list"], [kind] => (Kind.ofAlias? kind).map fun kind ↦
    list kind ((reading.option? "selector").getD "") (reading.has "all-namespaces")
  | ["watch"], [kind, name] => (Kind.ofAlias? kind).map fun kind ↦ watchName kind name
  | ["watch"], [kind] => (Kind.ofAlias? kind).map fun kind ↦
    watchSelector kind ((reading.option? "selector").getD "")
  | ["patch"], [kind, name] => do
    let type ← PatchType.ofWord? ((reading.option? "type").getD PatchType.strategic.name)
    return patch (← Kind.ofAlias? kind) name (← reading.option? "filename") type
  | ["kinds"], _ => some kinds
  | _, _ => none

namespace Invocation

def ofReading? (reading : Reading) : Option Invocation := do
  return {
    command := ← Command.ofReading? reading
    namespaceName := reading.option? "namespace"
    dryRun := reading.has "dry-run"
    kubeconfig := reading.option? "kubeconfig"
    context := reading.option? "context" }

/-- What the words behind the program's name ask for. -/
def ofArguments (arguments : List String) : Except Stop Invocation := do
  match ofReading? (← program.read arguments) with
  | some invocation => return invocation
  | none => throw .usage

/-- A configuration with what the command line says instead. An empty namespace says nothing. -/
def override (invocation : Invocation) (config : Config) : Config :=
  { config with
    namespaceName := (invocation.namespaceName.bind nonEmpty?).getD config.namespaceName
    kubeconfig := (invocation.kubeconfig.map OsPath.ofText).or config.kubeconfig
    context := invocation.context.or config.context
    dryRun := config.dryRun || invocation.dryRun }

end Invocation

end ClusterObjects.Cli
