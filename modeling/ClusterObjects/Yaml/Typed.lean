import ClusterObjects.Yaml.Value

/-!
# Reading nodes where the type is known

Where a text is asked for, any scalar is one, whatever it looks like; truth values and numbers have
to be plain. A text that may be absent is absent when the node is null or empty. The keys of a
mapping are told apart by their text, and a key that is asked for may come only once.
-/

namespace ClusterObjects.Yaml

open Node

/-- A scalar as a text, whatever it looks like. -/
def textOf (anchors : List (Nat × Node)) (node : Node) : Resolving String := keyText anchors node

/-- A text that may be absent. -/
def textOf? (anchors : List (Nat × Node)) (node : Node) : Resolving (Option String) := do
  match ← deref anchors node with
  | .scalar p plain text =>
    if plain && p.tag == some (coreTag "null") then
      if Plain.isNull text then return none else failure
    else if plain && p.tag.isNone && (text.isEmpty || Plain.isNull text) then return none
    else return some text
  | _ => failure

/-- The text of a plain scalar. -/
def plainOf (anchors : List (Nat × Node)) (node : Node) : Resolving String := do
  match ← deref anchors node with
  | .scalar _ true text => return text
  | _ => failure

def boolOf (anchors : List (Nat × Node)) (node : Node) : Resolving Bool := do
  match Plain.bool? (← plainOf anchors node) with
  | some b => return b
  | none => failure

/-- A number of 64 bits without a sign in front, but for a plus. -/
def unsignedOf (anchors : List (Nat × Node)) (node : Node) : Resolving UInt64 := do
  let text ← plainOf anchors node
  match Plain.int? text with
  | some n =>
    if 0 ≤ n ∧ n < UInt64.size ∧ !text.startsWith "-" then return n.toNat.toUInt64 else failure
  | none => failure

/-- The entries of a mapping with their keys. Where nothing is written there are none. -/
def entriesOf (anchors : List (Nat × Node)) (node : Node) : Resolving (List (String × Node)) := do
  match ← deref anchors node with
  | .mapping _ entries => entries.mapM fun (key, value) ↦ return (← keyText anchors key, value)
  | .scalar _ true "" => return []
  | _ => failure

/-- The value under a key that comes at most once, or its default. -/
def fieldOf {α : Type} (entries : List (String × Node)) (key : String) (default : α)
    (read : Node → Resolving α) : Resolving α :=
  match entries.filter (·.1 == key) with
  | [] => return default
  | [(_, node)] => read node
  | _ => failure

end ClusterObjects.Yaml
