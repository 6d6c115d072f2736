import ClusterObjects.Cli.Help
import ClusterObjects.Config.Error
import ClusterObjects.Watch.Dispatch
import ClusterObjects.Yaml.Printer

/-!
# What commands print

Objects are printed as documents with their type in front, events as lines, and failures with all
that is known of their causes.
-/

namespace ClusterObjects

/-- The object as a value, with its type before everything else. -/
def Object.document (object : Object) : Json :=
  match object.toJson with
  | .obj members =>
    let (type, rest) := members.partition fun (key, _) ↦ key == "apiVersion" || key == "kind"
    .obj (type ++ rest)
  | value => value

/-- The name of an object, or what its name will be made from. -/
def Object.anyName (object : Object) : String :=
  (object.name?.or ((Json.obj object.metadata).text? "generateName")).getD ""

namespace Cli

/-- The kind and the name of an object. -/
def describe (object : Object) : String :=
  ((object.types.map (·.kind)).getD "?") ++ "/" ++ object.anyName

def eventLine (kind : Kind) : WatchCall → String
  | .add object => line "ADDED" object
  | .modify object => line "MODIFIED" object
  | .delete object => line "DELETED" object
where
  line (word : String) (object : Object) : String :=
    padded 9 word ++ " " ++ kind.name ++ "/" ++ object.anyName
      ++ (match object.namespace? with
        | some name => " -n " ++ name
        | none => "") ++ "\n"

/-- The documents of a list of objects. -/
def documents (objects : List Object) : String :=
  String.intercalate "---\n" (objects.map fun object ↦ Yaml.print object.document)

/-- The table of all kinds. -/
def kindsTable : String :=
  let row (kind apiVersion namespaced aliases : String) : String :=
    padded 24 kind ++ " " ++ padded 32 apiVersion ++ " " ++ padded 11 namespaced ++ " " ++ aliases
      ++ "\n"
  row "KIND" "APIVERSION" "NAMESPACED" "ALIASES" ++ String.join (Kind.all.map fun kind ↦
    row kind.name kind.apiVersion (toString kind.namespaced) (String.intercalate "," kind.aliases))

/-- The account of a failure, from the outside inwards. -/
def failureText (chain : List Cause) : String :=
  match chain.filterMap Cause.text? with
  | [] => "Error: no answer\n"
  | [message] => "Error: " ++ message ++ "\n"
  | [message, cause] => "Error: " ++ message ++ "\n\nCaused by:\n    " ++ cause ++ "\n"
  | message :: causes => "Error: " ++ message ++ "\n\nCaused by:\n"
      ++ String.join (causes.mapIdx fun i cause ↦ "    " ++ toString i ++ ": " ++ cause ++ "\n")

/-- The account of a failure on one line. -/
def failureLine (chain : List Cause) : String :=
  String.intercalate ": " (chain.filterMap Cause.text?)

end Cli

end ClusterObjects
