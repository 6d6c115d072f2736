import ClusterObjects.Object.Basic
import ClusterObjects.Yaml.Value

/-!
# The forms in which objects are handed over

An object comes as a file, as bytes, as an object read before or as plain members; some operations
also take a name. A file stands for what reading its path gives, or nothing when it cannot be read.
-/

namespace ClusterObjects

structure File where
  path : String
  content : Option ByteArray

inductive Input where
  | name (name : String)
  | file (file : File)
  | bytes (data : ByteArray)
  | object (object : Object)
  | map (members : Json.Members)

def File.read (file : File) : Except Error ByteArray :=
  match file.content with
  | some data => .ok data
  | none => .error (.unreadable file.path)

/-- The value of the only document in the bytes. -/
def documentValue (data : ByteArray) : Except Error Json :=
  match Yaml.document? data with
  | some value => .ok value
  | none => .error .yaml

namespace Input

/-- The members that an object handed over as a value consists of. -/
def membersOf : Json → Except Error Json.Members
  | .obj members => .ok members
  | _ => .error (.invalidInput .valueNotObject)

/-- The object of a known kind, or nothing for a name. -/
def typed (kind : Kind) : Input → Except Error (Option Object)
  | name _ => .ok none
  | file source => do return some (← Object.decode kind (← documentValue (← source.read)))
  | bytes data => do return some (← Object.decode kind (← documentValue data))
  | object given => .ok (some given)
  | map members => do return some (← Object.decode kind (.obj members))

/-- An object of any kind from a value. -/
def untypedValue (value : Json) : Except Error Object :=
  if value.isObject then
    match Object.ofJson? value with
    | some read => .ok read
    | none => .error .json
  else .error (.invalidInput .manifestNotObject)

/-- The object of any kind, or nothing for a name. -/
def untyped : Input → Except Error (Option Object)
  | name _ => .ok none
  | file source => do return some (← untypedValue (← documentValue (← source.read)))
  | bytes data => do return some (← untypedValue (← documentValue data))
  | object given => .ok (some given)
  | map members => do return some (← untypedValue (.obj members))

/-- The object where a name will not do. -/
def requireObject (found : Option Object) : Except Error Object :=
  match found with
  | some given => .ok given
  | none => .error (.invalidInput .nameForObject)

end Input

end ClusterObjects
