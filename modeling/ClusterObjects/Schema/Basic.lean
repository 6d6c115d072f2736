import ClusterObjects.Decimal.Shortest
import ClusterObjects.Json.Basic
import ClusterObjects.Schema.Timestamp
import ClusterObjects.Text.Base64

/-!
# Schemas

A schema says which JSON values a kind of object may hold, and brings them into one form:
`Schema.decode?` drops the fields it does not know, fills in the required ones that are missing and
writes quantities and points in time in one way. A field that is null counts as missing.
-/

namespace ClusterObjects

inductive Schema where
  | string
  | bool
  | int32
  | int64
  /-- An amount, written as a text; a number is taken for its text. -/
  | quantity
  | intOrString
  | timestamp
  /-- Bytes in base 64; null stands for no bytes. -/
  | bytes
  | any
  | list (item : Schema)
  | map (value : Schema)
  /-- Fields with their names, and whether they are required. -/
  | struct (fields : List (String × Bool × Schema))
  deriving Repr, Inhabited

namespace Schema

def required (name : String) (schema : Schema) : String × Bool × Schema := (name, true, schema)

def optional (name : String) (schema : Schema) : String × Bool × Schema := (name, false, schema)

/-- Optional fields that share a schema. -/
def optionals (schema : Schema) (names : List String) : List (String × Bool × Schema) :=
  names.map fun name ↦ optional name schema

/-- Required fields that share a schema. -/
def requireds (schema : Schema) (names : List String) : List (String × Bool × Schema) :=
  names.map fun name ↦ required name schema

/-- Floats in quantities are written without an exponent. -/
def quantityLayout : Decimal.Layout := ⟨-400, 400, false⟩

def quantityText : Number → String
  | .int n => toString n
  | .float x => x.text quantityLayout

mutual

/-- What stands for a required field that is missing. -/
def defaultValue : Schema → Json
  | string | quantity | bytes => .str ""
  | timestamp => .str Timestamp.epoch.text
  | bool => .bool false
  | int32 | int64 | intOrString => .int 0
  | any => .null
  | list _ => .arr []
  | map _ => .obj []
  | struct fields => Json.object (defaultFields fields)

def defaultFields : List (String × Bool × Schema) → List (String × Json)
  | [] => []
  | (name, isRequired, schema) :: rest =>
    if isRequired then (name, defaultValue schema) :: defaultFields rest else defaultFields rest

end

/-- An integer within the given bounds. -/
def boundedInt? (low high : Int) : Json → Option Json
  | .num (.int n) => if low ≤ n ∧ n ≤ high then some (.int n) else none
  | _ => none

def int32? : Json → Option Json := boundedInt? (-0x80000000) 0x7FFFFFFF

def int64? : Json → Option Json := boundedInt? (-0x8000000000000000) 0x7FFFFFFFFFFFFFFF

mutual

/-- The value in the schema's form, if it fits the schema. -/
def decode? : Schema → Json → Option Json
  | string, .str s => some (.str s)
  | bool, .bool b => some (.bool b)
  | int32, value => int32? value
  | int64, value => int64? value
  | quantity, .str s => some (.str s)
  | quantity, .num n => some (.str (quantityText n))
  | intOrString, .str s => some (.str s)
  | intOrString, value => int32? value
  | timestamp, .str s => (Timestamp.parse? s).map fun t ↦ .str t.text
  | bytes, .str s => if Text.Base64.isValid s.toList then some (.str s) else none
  | bytes, .null => some (.str "")
  | any, value => some value
  | list item, .arr items => (items.mapM (decode? item)).map .arr
  | map item, .obj members =>
    (members.mapM fun (member : String × Json) ↦
      (decode? item member.2).map ((member.1, ·))).map .obj
  | struct fields, .obj members => (decodeFields? fields members).map Json.object
  | _, _ => none

/-- The fields of an object, each decoded by its own schema. -/
def decodeFields? : List (String × Bool × Schema) → Json.Members → Option (List (String × Json))
  | [], _ => some []
  | (name, isRequired, schema) :: rest, members => do
    let more ← decodeFields? rest members
    match Json.Members.get? members name with
    | none | some .null =>
      return if isRequired then (name, defaultValue schema) :: more else more
    | some value => return (name, ← decode? schema value) :: more

end

end Schema

end ClusterObjects
