import ClusterObjects.Decimal.Binary64

/-!
# JSON values

A JSON value is a tree. The members of an object are kept in the order of their keys, by code
point, each key once; `insert` and `ofList` build such lists, and `Sorted` says when a list is one.
Integers and floats are different numbers, so `1` and `1.0` are different values; the two zeros of
the floats are one value, which is what `same` adds to equality of trees.
-/

namespace ClusterObjects

open Decimal (Binary64)

inductive Number where
  | int (value : Int)
  | float (value : Binary64)
  deriving DecidableEq, Repr

namespace Number

/-- The number with the sign of a float zero dropped. -/
def canonical : Number → Number
  | .float x => if x.isZero then .float (.zero false) else .float x
  | .int n => .int n

end Number

inductive Json where
  | null
  | bool (value : Bool)
  | num (value : Number)
  | str (value : String)
  | arr (items : List Json)
  | obj (members : List (String × Json))
  deriving Repr, Inhabited

namespace Json

abbrev Members := List (String × Json)

def int (value : Int) : Json := .num (.int value)

mutual

def decEq : (a b : Json) → Decidable (a = b)
  | .null, b => by cases b <;> first | exact isTrue rfl | exact isFalse nofun
  | .bool x, b => by
    cases b
    case bool y => exact decidable_of_iff (x = y) (by simp)
    all_goals exact isFalse nofun
  | .num x, b => by
    cases b
    case num y => exact decidable_of_iff (x = y) (by simp)
    all_goals exact isFalse nofun
  | .str x, b => by
    cases b
    case str y => exact decidable_of_iff (x = y) (by simp)
    all_goals exact isFalse nofun
  | .arr xs, b =>
    match b with
    | .arr ys => have := itemsDecEq xs ys; decidable_of_iff (xs = ys) (by simp)
    | .null | .bool _ | .num _ | .str _ | .obj _ => isFalse nofun
  | .obj xs, b =>
    match b with
    | .obj ys => have := membersDecEq xs ys; decidable_of_iff (xs = ys) (by simp)
    | .null | .bool _ | .num _ | .str _ | .arr _ => isFalse nofun

def itemsDecEq : (xs ys : List Json) → Decidable (xs = ys)
  | [], [] => isTrue rfl
  | [], _ :: _ | _ :: _, [] => isFalse nofun
  | x :: xs, y :: ys =>
    have := decEq x y
    have := itemsDecEq xs ys
    decidable_of_iff (x = y ∧ xs = ys) (by simp)

def membersDecEq : (xs ys : Members) → Decidable (xs = ys)
  | [], [] => isTrue rfl
  | [], _ :: _ | _ :: _, [] => isFalse nofun
  | (k, x) :: xs, (l, y) :: ys =>
    have := decEq x y
    have := membersDecEq xs ys
    decidable_of_iff ((k = l ∧ x = y) ∧ xs = ys) (by simp)

end

instance : DecidableEq Json := decEq

namespace Members

def get? (members : Members) (key : String) : Option Json := members.lookup key

def contains (members : Members) (key : String) : Bool := (members.get? key).isSome

def erase (members : Members) (key : String) : Members := members.filter (·.1 != key)

/-- The members with `key` set to `value`, in the order of the keys. -/
def insert (key : String) (value : Json) : Members → Members
  | [] => [(key, value)]
  | (k, v) :: rest =>
    if key < k then (key, value) :: (k, v) :: rest
    else if key = k then (key, value) :: rest
    else (k, v) :: insert key value rest

/-- The members with `key` set to `value`, unless they have the key already. -/
def insertNew (key : String) (value : Json) (members : Members) : Members :=
  if contains members key then members else insert key value members

/-- The members in the order of their keys; of several with one key the last. -/
def ofList (members : List (String × Json)) : Members :=
  members.foldl (fun built (key, value) ↦ built.insert key value) []

/-- The keys stand in strictly increasing order. -/
def Sorted (members : Members) : Prop := members.Pairwise (·.1 < ·.1)

end Members

mutual

/-- Every object in the value has its members in order, each key once. -/
def WellFormed : Json → Prop
  | .arr items => itemsWellFormed items
  | .obj members => Members.Sorted members ∧ membersWellFormed members
  | .null | .bool _ | .num _ | .str _ => True

def itemsWellFormed : List Json → Prop
  | [] => True
  | item :: rest => WellFormed item ∧ itemsWellFormed rest

def membersWellFormed : Members → Prop
  | [] => True
  | (_, value) :: rest => WellFormed value ∧ membersWellFormed rest

end

/-- An object with the given members. -/
def object (members : List (String × Json)) : Json := .obj (Members.ofList members)

def strings (items : List String) : Json := .arr (items.map .str)

/-- The text, or null where there is none. -/
def ofString? : Option String → Json
  | some s => .str s
  | none => .null

/-- The member of an object; other values have none. -/
def get? : Json → String → Option Json
  | .obj members, key => Members.get? members key
  | _, _ => none

def str? : Json → Option String
  | .str s => some s
  | _ => none

def isNull : Json → Bool
  | .null => true
  | _ => false

def isObject : Json → Bool
  | .obj _ => true
  | _ => false

/-- The member of an object, when it is a string. -/
def text? (value : Json) (key : String) : Option String := (value.get? key).bind str?

mutual

/-- The value with every float zero positive. -/
def canonical : Json → Json
  | .num n => .num n.canonical
  | .arr items => .arr (itemsCanonical items)
  | .obj members => .obj (membersCanonical members)
  | .null => .null
  | .bool b => .bool b
  | .str s => .str s

def itemsCanonical : List Json → List Json
  | [] => []
  | item :: rest => canonical item :: itemsCanonical rest

def membersCanonical : Members → Members
  | [] => []
  | (key, value) :: rest => (key, canonical value) :: membersCanonical rest

end

/-- Equality of values, for which the two float zeros are the same. -/
def same (a b : Json) : Bool := a.canonical == b.canonical

end Json

end ClusterObjects
