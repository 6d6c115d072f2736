import ClusterObjects.Error
import ClusterObjects.Patch.Merge
import ClusterObjects.Text.LowerCase

/-!
# Patches

A patch carries its semantics with it. `Patch.raw` takes a patch document as it stands;
`Patch.between` takes a desired object and computes the patch that leads to it. A strategic patch
that touches an array is sent as a merge patch, because a server would fold the array's items into
the live ones instead of replacing them.
-/

namespace ClusterObjects

inductive PatchType where
  | strategic
  | merge
  | json
  deriving DecidableEq, Repr

namespace PatchType

instance : Inhabited PatchType := ⟨strategic⟩

def name : PatchType → String
  | strategic => "strategic"
  | merge => "merge"
  | json => "json"

/-- The patch type that a word stands for, in any case of its letters. -/
def ofWord? (word : String) : Option PatchType :=
  match Text.lowerCase word with
  | "strategic" | "strategic-merge" | "strategicmergepatch" => some strategic
  | "merge" | "json-merge" | "mergepatch" => some merge
  | "json" | "json-patch" | "jsonpatch" => some json
  | _ => none

end PatchType

inductive Patch where
  | strategic (body : Json)
  | merge (body : Json)
  | json (operations : List Operation)
  deriving DecidableEq, Repr

namespace Patch

def type : Patch → PatchType
  | strategic _ => .strategic
  | merge _ => .merge
  | json _ => .json

def body : Patch → Json
  | strategic body => body
  | merge body => body
  | json operations => .arr (operations.map Operation.toJson)

/-- Whether a patch document changes nothing. -/
def isEmptyDocument : Json → Bool
  | .null | .obj [] | .arr [] => true
  | _ => false

mutual

/-- Whether an array stands in the value, at the top or inside objects. -/
def containsArray : Json → Bool
  | .arr _ => true
  | .obj members => membersContainArray members
  | .null | .bool _ | .num _ | .str _ => false

def membersContainArray : Json.Members → Bool
  | [] => false
  | (_, value) :: rest => containsArray value || membersContainArray rest

end

/-- The patch of a document, or nothing when there is nothing to send. -/
def raw (document : Json) (type : PatchType) : Except Error (Option Patch) :=
  if isEmptyDocument document then .ok none
  else
    match type with
    | .strategic => .ok (some (strategic document))
    | .merge => .ok (some (merge document))
    | .json =>
      match document with
      | .arr items =>
        match items.mapM Operation.ofJson? with
        | some operations => .ok (some (json operations))
        | none => .error .json
      | _ => .error (.invalidPatch .notAList)

/-- The patch from one object to another, or nothing when they are the same. -/
def between (before after : Json) : PatchType → Except Error (Option Patch)
  | .json =>
    match Operation.diff before after with
    | [] => .ok none
    | operations => .ok (some (json operations))
  | .merge => raw (MergePatch.diff before after) .merge
  | .strategic =>
    let patch := MergePatch.diff before after
    raw patch (if containsArray patch then .merge else .strategic)

end Patch

end ClusterObjects
