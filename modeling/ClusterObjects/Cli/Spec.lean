import ClusterObjects.Kind
import ClusterObjects.Patch.Basic

/-!
# What the command line looks like

The commands of the program with their options and arguments. Arguments are told apart by their
place, options by their name; the global options may stand behind every command.
-/

namespace ClusterObjects.Cli

structure OptionSpec where
  name : String
  short : Option Char := none
  /-- What the value is called; a flag takes none. -/
  value : Option String := none
  about : String := ""
  required : Bool := false
  accepts : String → Bool := fun _ ↦ true
  /-- The arguments that cannot be given beside it. -/
  excludes : List String := []

structure ArgumentSpec where
  name : String
  required : Bool := true
  about : String := ""
  accepts : String → Bool := fun _ ↦ true

structure CommandSpec where
  name : String
  about : String
  options : List OptionSpec := []
  arguments : List ArgumentSpec := []
  commands : List CommandSpec := []

def isFilled (text : String) : Bool := !text.isEmpty

def globalOptions : List OptionSpec :=
  [{ name := "debug", short := some 'd', about := "Enable debug logging" },
    { name := "namespace", short := some 'n', value := some "NAMESPACE"
      about := "Namespace to work in (overrides the configured one)" },
    { name := "dry-run", about := "Send every mutating request as a server-side dry run" },
    { name := "kubeconfig", value := some "KUBECONFIG", about := "Kubeconfig file to use"
      accepts := isFilled },
    { name := "context", value := some "CONTEXT", about := "Kubeconfig context to use" }]

def fileOption : OptionSpec :=
  { name := "filename", short := some 'f', value := some "FILE", required := true
    accepts := isFilled }

def kindArgument : ArgumentSpec :=
  { name := "KIND", accepts := fun text ↦ (Kind.ofAlias? text).isSome }

def nameArgument : ArgumentSpec := { name := "NAME" }

def configCommands : List CommandSpec :=
  [{ name := "get", about := "Get configuration value"
     arguments :=
      [{ name := "KEY", required := false
         about := "Configuration key (e.g., \"namespace\", \"informer.resyncSeconds\")" }] },
    { name := "set", about := "Set configuration value in the root config file"
      arguments :=
        [{ name := "KEY", about := "Configuration key (e.g., \"namespace\", \"dryRun\")" },
          { name := "VALUE", about := "Configuration value" }] },
    { name := "path", about := "Show configuration file path" },
    { name := "validate", about := "Validate configuration" }]

def resourceCommands : List CommandSpec :=
  [{ name := "apply", about := "Create or update every object in a manifest"
     options := [fileOption] },
    { name := "create", about := "Create every object in a manifest", options := [fileOption] },
    { name := "delete"
      about := "Delete the objects in a manifest, or one object by kind and name"
      options := [{ fileOption with required := false, excludes := ["KIND", "NAME"] }]
      arguments := [{ kindArgument with required := false },
        { nameArgument with required := false }] },
    { name := "get", about := "Print one object as YAML"
      arguments := [kindArgument, nameArgument] },
    { name := "list", about := "Print every object of a kind as YAML"
      options := [{ name := "selector", short := some 'l', value := some "SELECTOR"
                    about := "Label selector (e.g., \"app=nginx\") [default: ]" },
        { name := "all-namespaces", short := some 'A', about := "List across all namespaces" }]
      arguments := [kindArgument] },
    { name := "watch", about := "Print add/modify/delete events until interrupted"
      options := [{ name := "selector", short := some 'l', value := some "SELECTOR"
                    excludes := ["NAME"] }]
      arguments := [kindArgument, { nameArgument with required := false }] },
    { name := "patch", about := "Patch one object with a patch document"
      options := [fileOption,
        { name := "type", value := some "PATCH_TYPE"
          about := "strategic, merge or json [default: strategic]"
          accepts := fun text ↦ (PatchType.ofWord? text).isSome }]
      arguments := [kindArgument, nameArgument] },
    { name := "kinds", about := "List the kinds with a typed handler" }]

def program : CommandSpec :=
  { name := "k8sh", about := "Create, apply, patch and watch Kubernetes objects"
    commands :=
      { name := "config", about := "Configuration management", commands := configCommands }
        :: resourceCommands }

def version : String := "0.3.0"

end ClusterObjects.Cli
