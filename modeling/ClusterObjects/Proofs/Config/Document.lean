import ClusterObjects.Config.Document
import ClusterObjects.Proofs.Config.Access
import ClusterObjects.Proofs.Yaml.Typed

/-!
# Configurations are read back from their documents

Every configuration is a mapping of settings, with those that are absent left out. What is left out
has its default again when it is read, and every other setting is found under its key. Only a path
that is no text is not what is read for it, and no document is made of it.
-/

namespace ClusterObjects

open Yaml Lexer Node

/-! ## Settings that may be absent -/

/-- The member for a text that may be absent. -/
def optional (key : String) (text : Option String) : Json.Members :=
  (text.map fun text ↦ (key, .str text)).toList

theorem filter_optional_self (key : String) (text : Option String) :
    (optional key text).filter (·.1 == key) = optional key text := by
  cases text <;> simp [optional]

theorem filter_optional_ne {name key : String} (h : (name == key) = false) (text : Option String) :
    (optional name text).filter (·.1 == key) = [] := by
  cases text <;> simp [optional, h]

section Fields

variable {anchors : List (Nat × Node)} {members : Json.Members} {key : String}

/-- A setting that is written once is found under its key. -/
theorem fieldOf_of_filter {α : Type} (value : Json) (default : α) (read : Node → Resolving α)
    (h : members.filter (·.1 == key) = [(key, value)]) :
    fieldOf (entryNodes members) key default read = read (nodeOf value) := by
  rw [fieldOf, entryNodes, List.filter_map]
  simp only [Function.comp_def, h, List.map_cons, List.map_nil]

/-- A text is found when it is written, and is absent when it is not. -/
theorem fieldOf_optional {text : Option String}
    (h : members.filter (·.1 == key) = optional key text) :
    fieldOf (entryNodes members) key none (textOf? anchors) = pure text := by
  cases text with
  | none =>
    rw [fieldOf, entryNodes, List.filter_map]
    simp only [Function.comp_def, h]
    rfl
  | some text => rw [fieldOf_of_filter (.str text) none _ h, textOf?_nodeOf]

end Fields

/-! ## Documents -/

namespace InformerSettings

/-- The members that the settings are written as. -/
def members (settings : InformerSettings) : Json.Members :=
  [("resyncSeconds", .int settings.resyncSeconds.toNat), ("namespace", .str settings.namespaceName)]

theorem settings_members (settings : InformerSettings) : Settings (.obj settings.members) := by
  refine .mapping (List.cons_ne_nil _ _) ?_ ?_
  · have hkeys : ∀ key ∈ ["resyncSeconds", "namespace"], IsWord key := by decide +kernel
    simpa [members] using hkeys
  · simp [members, Settings.text, Settings.number]

theorem ofNode_nodeOf (anchors : List (Nat × Node)) (settings : InformerSettings) :
    ofNode anchors (nodeOf (.obj settings.members)) = pure settings := by
  have hseconds (default : UInt64) : fieldOf (entryNodes settings.members) "resyncSeconds" default
      (unsignedOf anchors) = pure settings.resyncSeconds :=
    (fieldOf_of_filter (.int settings.resyncSeconds.toNat) default _ rfl).trans
      (unsignedOf_nodeOf _)
  have hnamespace (default : String) : fieldOf (entryNodes settings.members) "namespace" default
      (textOf anchors) = pure settings.namespaceName :=
    (fieldOf_of_filter (.str settings.namespaceName) default _ rfl).trans (textOf_nodeOf _)
  rw [ofNode, entriesOf_nodeOf, pure_bind]
  simp only [hseconds, hnamespace, pure_bind]

end InformerSettings

namespace Config

/-- The members that a configuration is written as. -/
def members (config : Config) : Json.Members :=
  optional "kubeconfig" (config.kubeconfig.map OsPath.shown) ++ optional "context" config.context
    ++ [("namespace", .str config.namespaceName)] ++ optional "fieldManager" config.fieldManager
    ++ [("dryRun", .bool config.dryRun), ("informer", .obj config.informer.members)]

theorem settings_toJson (config : Config) : Settings config.toJson := by
  have hkeys : ∀ key ∈ ["kubeconfig", "context", "namespace", "fieldManager", "dryRun", "informer"],
      IsWord key := by decide +kernel
  simp only [List.forall_mem_cons] at hkeys
  obtain ⟨hkubeconfig, hcontext, hnamespace, hmanager, hdryRun, hinformer, -⟩ := hkeys
  have hoptional {name : String} (hname : IsWord name) (text : Option String) :
      ∀ member ∈ optional name text, IsWord member.1 ∧ Settings member.2 := by
    cases text with
    | none => nofun
    | some text => simpa [optional] using ⟨hname, Settings.text text⟩
  have hmembers : ∀ member ∈ config.members, IsWord member.1 ∧ Settings member.2 := by
    simp only [members, List.append_assoc, List.forall_mem_append, List.forall_mem_cons]
    exact ⟨hoptional hkubeconfig _, hoptional hcontext _, ⟨⟨hnamespace, .text _⟩, nofun⟩,
      hoptional hmanager _, ⟨hdryRun, .bool _⟩, ⟨hinformer, config.informer.settings_members⟩,
      nofun⟩
  exact .mapping (by simp) (fun member hmember ↦ (hmembers member hmember).1)
    (fun member hmember ↦ (hmembers member hmember).2)

/-- The configuration with the path that is read for its own. -/
def asRead (config : Config) : Config :=
  { config with kubeconfig := config.kubeconfig.map fun path ↦ .ofText path.shown }

theorem ofNode_nodeOf (anchors : List (Nat × Node)) (config : Config) :
    ofNode anchors (nodeOf config.toJson) = pure config.asRead := by
  have hkubeconfig : config.members.filter (·.1 == "kubeconfig") =
      optional "kubeconfig" (config.kubeconfig.map OsPath.shown) := by
    simp [members, filter_optional_self, filter_optional_ne]
  have hcontext : config.members.filter (·.1 == "context") = optional "context" config.context := by
    simp [members, filter_optional_self, filter_optional_ne]
  have hmanager : config.members.filter (·.1 == "fieldManager") =
      optional "fieldManager" config.fieldManager := by
    simp [members, filter_optional_self, filter_optional_ne]
  have hnamespace : config.members.filter (·.1 == "namespace") =
      [("namespace", .str config.namespaceName)] := by
    simp [members, filter_optional_ne]
  have hdryRun : config.members.filter (·.1 == "dryRun") = [("dryRun", .bool config.dryRun)] := by
    simp [members, filter_optional_ne]
  have hinformer : config.members.filter (·.1 == "informer") =
      [("informer", .obj config.informer.members)] := by
    simp [members, filter_optional_ne]
  rw [ofNode, show config.toJson = .obj config.members from rfl, entriesOf_nodeOf, pure_bind]
  simp only [fieldOf_optional hkubeconfig, fieldOf_optional hcontext, fieldOf_optional hmanager,
    fieldOf_of_filter _ _ _ hnamespace, fieldOf_of_filter _ _ _ hdryRun,
    fieldOf_of_filter _ _ _ hinformer, textOf_nodeOf, boolOf_nodeOf,
    InformerSettings.ofNode_nodeOf, pure_bind, Option.map_map]
  rfl

theorem ofYaml?_toYaml (config : Config) : ofYaml? config.toYaml = some config.asRead := by
  have hnode : node? config.toYaml.toUTF8 = some (nodeOf config.toJson) :=
    node?_print config.settings_toJson
  rw [ofYaml?, hnode]
  simp only [Option.bind_eq_bind, Option.bind_some, ofNode_nodeOf]
  rfl

theorem toYaml?_eq_some_iff {config : Config} {text : String} :
    config.toYaml? = some text ↔ config.NamesText ∧ config.toYaml = text := by
  unfold toYaml? NamesText
  rw [Option.ite_none_right_eq_some, Option.some.injEq]
  cases config.kubeconfig <;> simp

/-- A configuration is read back from its document. -/
theorem ofYaml?_of_toYaml? {config : Config} {text : String} (h : config.toYaml? = some text) :
    ofYaml? text = some config := by
  obtain ⟨hpath, rfl⟩ := toYaml?_eq_some_iff.1 h
  rw [ofYaml?_toYaml]
  unfold asRead
  cases hkubeconfig : config.kubeconfig with
  | none => rw [Option.map_none, ← hkubeconfig]
  | some path =>
    rw [Option.map_some, OsPath.ofText_shown_iff.2 (hpath path hkubeconfig), ← hkubeconfig]

end Config

end ClusterObjects
