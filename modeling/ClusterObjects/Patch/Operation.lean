import ClusterObjects.Patch.Pointer

/-!
# JSON patches

A JSON patch is a list of operations on the places that pointers name. `Operation.diff` lists the
operations that turn one value into another: members first in the order of the new keys, then the
removals; arrays index by index, where a surplus item is removed at the index at which it has
arrived by then.
-/

namespace ClusterObjects

open Json (Members)

inductive Operation where
  | add (path : Pointer) (value : Json)
  | remove (path : Pointer)
  | replace (path : Pointer) (value : Json)
  | move (source path : Pointer)
  | copy (source path : Pointer)
  | test (path : Pointer) (value : Json)
  deriving DecidableEq, Repr

namespace Operation

def toJson : Operation → Json
  | add path value =>
    Json.object [("op", .str "add"), ("path", .str path.text), ("value", value)]
  | remove path => Json.object [("op", .str "remove"), ("path", .str path.text)]
  | replace path value =>
    Json.object [("op", .str "replace"), ("path", .str path.text), ("value", value)]
  | move source path =>
    Json.object [("op", .str "move"), ("from", .str source.text), ("path", .str path.text)]
  | copy source path =>
    Json.object [("op", .str "copy"), ("from", .str source.text), ("path", .str path.text)]
  | test path value =>
    Json.object [("op", .str "test"), ("path", .str path.text), ("value", value)]

/-- An operation from its name and its parts; parts it has no use for are not asked for. -/
def ofParts? (op : String) (path source value : Option Json) : Option Operation :=
  let pointer (part : Option Json) : Option Pointer := do Pointer.parse? (← (← part).str?)
  match op with
  | "add" => do return add (← pointer path) (← value)
  | "remove" => do return remove (← pointer path)
  | "replace" => do return replace (← pointer path) (← value)
  | "move" => do return move (← pointer source) (← pointer path)
  | "copy" => do return copy (← pointer source) (← pointer path)
  | "test" => do return test (← pointer path) (← value)
  | _ => none

/-- An operation as an object, or as an array of its name and its parts in their order. -/
def ofJson? : Json → Option Operation
  | .obj members => do
    let op ← (← Members.get? members "op").str?
    ofParts? op (Members.get? members "path") (Members.get? members "from")
      (Members.get? members "value")
  | .arr [.str "remove", path] => ofParts? "remove" path none none
  | .arr [.str op, first, second] =>
    if op = "move" ∨ op = "copy" then ofParts? op second first none
    else if op = "remove" then none
    else ofParts? op first none second
  | _ => none

/-- Removals of the old members that are gone. -/
def removals (path : Pointer) (before after : Members) : List Operation :=
  (before.filter fun (key, _) ↦ !Members.contains after key).map
    fun (key, _) ↦ remove (path ++ [key])

mutual

/-- The operations below `path` that turn `before` into `after`. -/
def diffAt (path : Pointer) (before after : Json) : List Operation :=
  match before, after with
  | .obj old, .obj new => diffMembers path old new ++ removals path old new
  | .arr old, .arr new => diffItems path 0 old new
  | old, new => if old.same new then [] else [replace path new]

def diffMembers (path : Pointer) (before : Members) : (after : Members) → List Operation
  | [] => []
  | (key, new) :: rest =>
    (match Members.get? before key with
      | some old => diffAt (path ++ [key]) old new
      | none => [add (path ++ [key]) new]) ++ diffMembers path before rest

def diffItems (path : Pointer) (index : Nat) : (before after : List Json) → List Operation
  | old, [] => old.map fun _ ↦ remove (path ++ [toString index])
  | [], new :: rest =>
    add (path ++ [toString index]) new :: diffItems path (index + 1) [] rest
  | old :: olds, new :: rest =>
    diffAt (path ++ [toString index]) old new ++ diffItems path (index + 1) olds rest

end

def diff (before after : Json) : List Operation := diffAt [] before after

end Operation

end ClusterObjects
