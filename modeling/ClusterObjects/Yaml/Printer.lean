import ClusterObjects.Json.Text
import ClusterObjects.Yaml.Style

/-!
# Writing YAML

`Yaml.print` writes a value as a document in block style. The members of an object stand in the
order in which they are given, and a list that is the value of a member is not indented any further
than its key. A key that is long or has several lines stands behind a question mark.
-/

namespace ClusterObjects.Yaml

open Style (spaces indentStep)

/-- What leads from one entry of a collection to the next; a block has ended its last line. -/
def nextEntry (column : Nat) (entry : List Char) : List Char :=
  (if entry.getLast?.any isBreak then [] else ['\n']) ++ spaces column

/-- The keys that may stand in front of a colon on one line. -/
def isSimpleKey (key : String) : Bool := !key.toList.any isBreak && key.utf8ByteSize ≤ 128

mutual

/-- A value whose entries begin in a column. -/
def block (column : Nat) : Json → List Char
  | .null => "null".toList
  | .bool b => (toString b).toList
  | .num n => n.text.toList
  | .str s => Style.write column s
  | .arr items => if items.isEmpty then "[]".toList else blockItems column items
  | .obj members => if members.isEmpty then "\x7b\x7d".toList else blockMembers column members

/-- The value of a member with a simple key. -/
def memberValue (column : Nat) : Json → List Char
  | .null => " null".toList
  | .bool b => ' ' :: (toString b).toList
  | .num n => ' ' :: n.text.toList
  | .str s => ' ' :: Style.write (column + indentStep) s
  | .arr items =>
    if items.isEmpty then " []".toList else '\n' :: spaces column ++ blockItems column items
  | .obj members =>
    if members.isEmpty then " \x7b\x7d".toList
    else '\n' :: spaces (column + indentStep) ++ blockMembers (column + indentStep) members

def blockItems (column : Nat) : List Json → List Char
  | [] => []
  | item :: rest =>
    let entry := '-' :: ' ' :: block (column + indentStep) item
    match rest with
    | [] => entry
    | _ :: _ => entry ++ nextEntry column entry ++ blockItems column rest

def blockMembers (column : Nat) : Json.Members → List Char
  | [] => []
  | (key, value) :: rest =>
    let name := Style.write (column + indentStep) key
    let entry :=
      if isSimpleKey key then name ++ ':' :: memberValue column value
      else
        '?' :: ' ' :: name ++ nextEntry column name
          ++ ':' :: ' ' :: block (column + indentStep) value
    match rest with
    | [] => entry
    | _ :: _ => entry ++ nextEntry column entry ++ blockMembers column rest

end

/-- The text of a document, which ends with a line break. -/
def print (value : Json) : String :=
  let text := match value with
    | .str s => Style.write indentStep s
    | value => block 0 value
  String.ofList (text ++ nextEntry 0 text)

end ClusterObjects.Yaml
