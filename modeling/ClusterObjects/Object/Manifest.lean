import ClusterObjects.Object.Input

/-!
# Manifests

A manifest is a stream of documents, each an object or a list of objects. Lists may hold lists; what
counts is their leaves, in the order of the text.
-/

namespace ClusterObjects.Manifest

/-- The items of a list: a document whose kind ends in `List` and whose items are an array. -/
def listItems? (document : Json) : Option (List Json) :=
  match document.text? "kind", document.get? "items" with
  | some kind, some (.arr items) => if kind.endsWith "List" then some items else none
  | _, _ => none

/-- An object from a document that is no list. -/
def leaf (document : Json) : Except Error Object :=
  if document.isObject then
    match Object.ofJson? document with
    | some object => .ok object
    | none => .error .json
  else .error (.invalidInput .documentNotObject)

mutual

/-- The items of the member with a key, when it is an array, each with its own leaves. -/
def leavesAt (key : String) : Json.Members → Except Error (List Object)
  | [] => .ok []
  | (k, value) :: rest =>
    if k = key then
      match value with
      | .arr items => itemsLeaves items
      | _ => .ok []
    else leavesAt key rest

/-- The objects that a document holds. -/
def leaves (document : Json) : Except Error (List Object) :=
  match document with
  | .obj members =>
    if (listItems? (.obj members)).isSome then leavesAt "items" members
    else do return [← leaf (.obj members)]
  | document => do return [← leaf document]

def itemsLeaves : List Json → Except Error (List Object)
  | [] => .ok []
  | item :: rest => do
    let first ← leaves item
    return first ++ (← itemsLeaves rest)

end

/-- The objects of a manifest. -/
def objects (data : ByteArray) : Except Error (List Object) :=
  match Yaml.documents? data with
  | some documents => itemsLeaves documents
  | none => .error .yaml

end ClusterObjects.Manifest
