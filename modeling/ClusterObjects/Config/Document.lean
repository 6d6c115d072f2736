import ClusterObjects.Config.Basic
import ClusterObjects.Yaml.Printer
import ClusterObjects.Yaml.Typed

/-!
# Configurations as documents

A configuration is kept as a mapping. What a document leaves out has its default, keys that mean
nothing are passed over, and every other key may come only once. Settings that are absent are not
written.
-/

namespace ClusterObjects

open Yaml in
def InformerSettings.ofNode (anchors : List (Nat × Node)) (node : Node) :
    Resolving InformerSettings := do
  let entries ← entriesOf anchors node
  let defaults : InformerSettings := {}
  return {
    resyncSeconds := ← fieldOf entries "resyncSeconds" defaults.resyncSeconds (unsignedOf anchors)
    namespaceName := ← fieldOf entries "namespace" defaults.namespaceName (textOf anchors) }

namespace Config

open Yaml in
def ofNode (anchors : List (Nat × Node)) (node : Node) : Resolving Config := do
  let entries ← entriesOf anchors node
  let defaults : Config := {}
  let text? (key : String) : Resolving (Option String) := fieldOf entries key none (textOf? anchors)
  return {
    kubeconfig := (← text? "kubeconfig").map OsPath.ofText
    context := ← text? "context"
    namespaceName := ← fieldOf entries "namespace" defaults.namespaceName (textOf anchors)
    fieldManager := ← text? "fieldManager"
    dryRun := ← fieldOf entries "dryRun" defaults.dryRun (boolOf anchors)
    informer := ← fieldOf entries "informer" {} (InformerSettings.ofNode anchors) }

/-- The configuration that a document holds. -/
def ofYaml? (text : String) : Option Config := do
  let root ← Yaml.node? text.toUTF8
  let (config, _) ← (ofNode root.anchored root).run (Yaml.maxJumps root)
  return config

/-- The configuration as a value, the settings in the order in which they are written. -/
def toJson (config : Config) : Json :=
  let text? (key : String) (value : Option String) : Json.Members :=
    (value.map fun text ↦ (key, .str text)).toList
  .obj (text? "kubeconfig" (config.kubeconfig.map OsPath.shown) ++ text? "context" config.context
    ++ [("namespace", .str config.namespaceName)] ++ text? "fieldManager" config.fieldManager
    ++ [("dryRun", .bool config.dryRun),
      ("informer", .obj [("resyncSeconds", .int config.informer.resyncSeconds.toNat),
        ("namespace", .str config.informer.namespaceName)])])

def toYaml (config : Config) : String := Yaml.print config.toJson

/-- The document of a configuration. A path that is no text cannot be written in one. -/
def toYaml? (config : Config) : Option String :=
  if config.kubeconfig.all fun path ↦ path.text?.isSome then some config.toYaml else none

end Config

end ClusterObjects
