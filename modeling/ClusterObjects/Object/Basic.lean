import ClusterObjects.Error
import ClusterObjects.Kind
import ClusterObjects.Schema.Kind

/-!
# Objects

An object has the type that it states, its metadata and the rest of its members. One form serves
objects of any kind: `Object.decode` reads an object of a known kind by its schema, and
`Object.ofJson?` reads one of any kind, of which only the metadata has a schema.
-/

namespace ClusterObjects

open Json (Members)

structure TypeMeta where
  apiVersion : String
  kind : String
  deriving DecidableEq, Repr

structure Object where
  types : Option TypeMeta
  metadata : Members
  content : Members
  deriving DecidableEq, Repr

def Kind.typeMeta (kind : Kind) : TypeMeta := ⟨kind.apiVersion, kind.name⟩

namespace Object

/-- The members of an object. Content that has the place of a type goes before the type. -/
def toMembers (object : Object) : Members :=
  let members := object.content.insert "metadata" (.obj object.metadata)
  match object.types with
  | some types =>
    Members.insertNew "kind" (.str types.kind)
      (Members.insertNew "apiVersion" (.str types.apiVersion) members)
  | none => members

def toJson (object : Object) : Json := .obj object.toMembers

def name? (object : Object) : Option String := (Json.obj object.metadata).text? "name"

def namespace? (object : Object) : Option String := (Json.obj object.metadata).text? "namespace"

def resourceVersion? (object : Object) : Option String :=
  (Json.obj object.metadata).text? "resourceVersion"

/-- The name, which every request that addresses the object needs. -/
def requiredName (object : Object) : Except Error String :=
  match object.name?.bind fun name ↦ if name.isEmpty then none else some name with
  | some name => .ok name
  | none => .error .missingName

/-- The object without what the server decides, so that it can be sent again. -/
def withoutServerFields (object : Object) : Object :=
  { object with
    metadata := Members.erase (Members.erase object.metadata "resourceVersion") "uid" }

/-- The object as a word: its namespace, name and version, a dash for each that is absent. -/
def label (object : Object) : String :=
  let part (text : Option String) : String := text.getD "-"
  part object.namespace? ++ "/" ++ part object.name? ++ "@" ++ part object.resourceVersion?

/-- A member that states a type: absent or the given text. -/
def statesOnly (members : Members) (key text : String) : Bool :=
  match Members.get? members key with
  | none => true
  | some value => value == .str text

/-- Reads the members of an object of a known kind. -/
def ofTypedJson? (kind : Kind) : Json → Option Object
  | .obj members => do
    if !(statesOnly members "apiVersion" kind.apiVersion &&
        statesOnly members "kind" kind.name) then
      none
    let metadata ← match Members.get? members "metadata" with
      | none | some .null => some []
      | some value =>
        match ← Schema.objectMeta.decode? value with
        | .obj metadata => some metadata
        | _ => none
    let content ← Schema.decodeFields? kind.fields members
    return { types := some kind.typeMeta, metadata, content := Members.ofList content }
  | _ => none

/-- Refuses a value that states another kind or version than the expected one. -/
def checkKind (kind : Kind) (value : Json) : Except Error Unit :=
  let stated := value.text? "kind"
  let version := value.text? "apiVersion"
  if stated.all (· == kind.name) && version.all (· == kind.apiVersion) then .ok ()
  else
    .error (.kindMismatch (version.getD "" ++ "/" ++ stated.getD "")
      (kind.apiVersion ++ "/" ++ kind.name))

/-- Reads an object of a known kind. -/
def decode (kind : Kind) (value : Json) : Except Error Object := do
  checkKind kind value
  match ofTypedJson? kind value with
  | some object => .ok object
  | none => .error .json

/-- Takes the members that state a type out of an object. They are taken in their order, up to the
first that is no text; the type is known only when both are there. -/
def takeTypes (members : Members) : Option TypeMeta × Members :=
  let withoutVersion := Members.erase members "apiVersion"
  match Members.get? members "apiVersion" with
  | none => (none, match Members.get? members "kind" with
    | none => members
    | some _ => Members.erase members "kind")
  | some (.str apiVersion) =>
    match Members.get? members "kind" with
    | none => (none, withoutVersion)
    | some (.str kind) => (some ⟨apiVersion, kind⟩, Members.erase withoutVersion "kind")
    | some _ => (none, Members.erase withoutVersion "kind")
  | some _ => (none, withoutVersion)

/-- Reads an object of any kind. -/
def ofJson? : Json → Option Object
  | .obj members => do
    let metadata ← match Members.get? members "metadata" with
      | none => some []
      | some value =>
        match ← Schema.objectMeta.decode? value with
        | .obj metadata => some metadata
        | _ => none
    let (types, content) := takeTypes (Members.erase members "metadata")
    return { types, metadata, content }
  | _ => none

/-- The kind that an object states, of which neither part may be empty. -/
def gvk (object : Object) : Except Error GroupVersionKind :=
  match object.types with
  | some types =>
    if types.apiVersion.isEmpty ∨ types.kind.isEmpty then .error .missingGvk
    else .ok (.ofApiVersion types.apiVersion types.kind)
  | none => .error .missingGvk

end Object

end ClusterObjects
