import ClusterObjects.Yaml.Node
import ClusterObjects.Yaml.Plain
import ClusterObjects.Yaml.Token.Lexer

/-!
# JSON values of YAML documents

`Yaml.document?` reads the one document of a byte sequence as a JSON value, `Yaml.documents?` all
of them. Keys are the text of their scalar, and of equal keys the last one counts. Integers have to
fit into 64 bits, the infinities become null, and a tag of the document's own is refused. Nesting is
bounded, and so is the number of times that aliases are followed.
-/

namespace ClusterObjects.Yaml

open Node

/-- How many collections may stand inside one another. -/
def maxNesting : Nat := 128

def coreTag (name : String) : String := "tag:yaml.org,2002:" ++ name

/-- An integer that fits into 64 bits, with or without a sign. -/
def int64? (n : Int) : Option Json :=
  if -0x8000000000000000 ≤ n ∧ n < UInt64.size then some (Json.int n) else none

def floatJson : Option Decimal.Binary64 → Json
  | some x => .num (.float x)
  | none => .null

/-- The value of a plain scalar. -/
def plainJson? (text : String) : Option Json :=
  match Plain.ofText text with
  | .null => some .null
  | .bool b => some (.bool b)
  | .int n => int64? n
  | .float x => some (floatJson x)
  | .text => some (.str text)

def isLocalTag (tag : String) : Bool := tag.toList.head? == some '!'

/-- The value of a scalar with its tag. The core tags decide what a scalar is, whatever its style;
with any other tag it is a text. -/
def scalarJson? (tag : Option String) (plain : Bool) (text : String) : Option Json :=
  match tag with
  | none => if plain then plainJson? text else some (.str text)
  | some tag =>
    if isLocalTag tag then none
    else if tag == coreTag "bool" then (Plain.bool? text).map .bool
    else if tag == coreTag "int" then (Plain.int? text).bind int64?
    else if tag == coreTag "float" then (Plain.float? text).map floatJson
    else if tag == coreTag "null" then if Plain.isNull text then some .null else none
    else some (.str text)

/-- Follows aliases, which takes from a number of steps that are left. -/
abbrev Resolving := StateT Nat Option

/-- The node itself, or the one that an alias stands for. -/
def deref (anchors : List (Nat × Node)) : Node → Resolving Node
  | .reference number => do
    match ← get, target? anchors number with
    | left + 1, some target =>
      set left
      return target
    | _, _ => failure
  | node => return node

def keyText (anchors : List (Nat × Node)) (node : Node) : Resolving String := do
  match ← deref anchors node with
  | .scalar _ _ text => return text
  | _ => failure

/-- A collection's tag counts for nothing, unless it is one of the document's own. -/
def refuseLocalTag (properties : Properties) : Resolving Unit :=
  if properties.tag.any isLocalTag then failure else return ()

/-- The value of a node; `depth` counts the collections that may still be opened. -/
def valueOf (anchors : List (Nat × Node)) : (depth : Nat) → Node → Resolving Json
  | depth, node => do
    match ← deref anchors node with
    | .scalar p plain text =>
      match scalarJson? p.tag plain text with
      | some value => return value
      | none => failure
    | .sequence p items =>
      refuseLocalTag p
      match depth with
      | 0 => failure
      | depth + 1 => return .arr (← items.mapM (valueOf anchors depth))
    | .mapping p entries =>
      refuseLocalTag p
      match depth with
      | 0 => failure
      | depth + 1 =>
        let members ← entries.mapM fun (key, value) ↦ do
          let key ← keyText anchors key
          return (key, ← valueOf anchors depth value)
        return Json.object members
    | .reference _ => failure

/-- How often the aliases of a document may be followed. -/
def maxJumps (root : Node) : Nat := 100 * root.size

/-- The value of a document. -/
def Node.toJson? (root : Node) : Option Json :=
  ((valueOf root.anchored maxNesting root).run (maxJumps root)).map (·.1)

/-- The documents of a byte sequence in UTF-8. -/
def nodes? (bytes : ByteArray) : Option (List Node) := do
  let text ← String.fromUTF8? bytes
  documents? (← Token.ofText? text.toList)

/-- The only document of a byte sequence. -/
def node? (bytes : ByteArray) : Option Node := do
  match ← nodes? bytes with
  | [root] => return root
  | _ => none

def isAsciiBlank (b : UInt8) : Bool :=
  b == 0x20 || b == 0x09 || b == 0x0A || b == 0x0C || b == 0x0D

/-- The value of the only document of a byte sequence; blank bytes are null. -/
def document? (bytes : ByteArray) : Option Json :=
  if bytes.toList.all isAsciiBlank then some .null else (node? bytes).bind Node.toJson?

/-- The values of the documents of a byte sequence that are not null. -/
def documents? (bytes : ByteArray) : Option (List Json) := do
  let values ← (← nodes? bytes).mapM Node.toJson?
  return values.filter fun value ↦ !value.isNull

end ClusterObjects.Yaml
