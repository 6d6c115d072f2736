import ClusterObjects.Patch.Basic
import ClusterObjects.Proofs.Patch.Pointer

/-!
# Operations that lead from one value to another

Operations are carried out one after another, each on what the ones before it have left, and the
first that does not fit its place stops them all. `Leads` says of operations what they do below a
pointer, wherever the value stands there; such statements are put together along the recursion of
the difference. A difference leads to the desired value, and it is empty just when the value is the
desired one already.
-/

namespace ClusterObjects

open Json (Members)

/-! ## Carrying operations out -/

/-- The number in units of the smallest float. -/
def Number.units : Number → Int
  | .int n => n * Nat.pow 2 1074
  | .float x => if x.negative then -(x.units : Int) else x.units

namespace Json

mutual

/-- Equality of values in which every number counts as what it denotes, integer or float. -/
def equal : Json → Json → Bool
  | .null, .null => true
  | .bool x, .bool y => x == y
  | .num x, .num y => x.units == y.units
  | .str x, .str y => x == y
  | .arr xs, .arr ys => itemsEqual xs ys
  | .obj xs, .obj ys => membersEqual xs ys
  | _, _ => false

def itemsEqual : List Json → List Json → Bool
  | [], [] => true
  | x :: xs, y :: ys => equal x y && itemsEqual xs ys
  | _, _ => false

def membersEqual : Members → Members → Bool
  | [], [] => true
  | (k, x) :: xs, (l, y) :: ys => k == l && equal x y && membersEqual xs ys
  | _, _ => false

end

/-- The collection with a new part. A member that is there already is replaced; an item goes before
the one at its index, or behind all of them when the token is a dash. -/
def withNew? (value : Json) (token : String) (new : Json) : Option Json :=
  match value with
  | obj members => some (obj (Members.insert token new members))
  | arr items =>
    if token = "-" then some (arr (items ++ [new]))
    else do
      let index ← Pointer.index? token
      if index ≤ items.length then some (arr (items.insertIdx index new)) else none
  | _ => none

/-- The collection without the part that a token names. -/
def without? (value : Json) (token : String) : Option Json :=
  match value with
  | obj members =>
    if Members.contains members token then some (obj (Members.erase members token)) else none
  | arr items => do
    let index ← Pointer.index? token
    if index < items.length then some (arr (items.eraseIdx index)) else none
  | _ => none

/-- Changes the collection in which the last token of a pointer names a part. -/
def changeAround? (value : Json) (pointer : Pointer) (change : Json → String → Option Json) :
    Option Json := do
  let token ← pointer.getLast?
  let collection ← value.resolve? pointer.dropLast
  return value.replaceAt pointer.dropLast (← change collection token)

def add? (value : Json) (pointer : Pointer) (new : Json) : Option Json :=
  if pointer = [] then some new
  else value.changeAround? pointer fun collection token ↦ collection.withNew? token new

def remove? (value : Json) (pointer : Pointer) : Option Json := value.changeAround? pointer without?

end Json

namespace Operation

/-- Carries an operation out; nothing comes of one that does not fit the value. -/
def carryOut? (value : Json) : Operation → Option Json
  | add path new => value.add? path new
  | remove path => value.remove? path
  | replace path new => (value.resolve? path).map fun _ ↦ value.replaceAt path new
  | move source path =>
    -- A value cannot be moved to a place below itself.
    if source ≠ path ∧ source <+: path then none
    else do
      let moved ← value.resolve? source
      (← value.remove? source).add? path moved
  | copy source path => do value.add? path (← value.resolve? source)
  | test path expected => do
    if (← value.resolve? path).equal expected then some value else none

/-- Carries operations out one after another. -/
def carryOutAll? (value : Json) (operations : List Operation) : Option Json :=
  operations.foldlM carryOut? value

/-! ## What operations do below a pointer -/

/-- Wherever the value `before` stands at the end of the pointer, the operations succeed, put
`after` in its place and change nothing else. -/
def Leads (pointer : Pointer) (operations : List Operation) (before after : Json) : Prop :=
  ∀ root : Json, root.WellFormed → root.resolve? pointer = some before →
    carryOutAll? root operations = some (root.replaceAt pointer after)

namespace Leads

variable {pointer : Pointer} {before middle after : Json} {first second : List Operation}

theorem nil (pointer : Pointer) (value : Json) : Leads pointer [] value value := by
  intro root hroot hvalue
  rw [Json.replaceAt_self hroot hvalue]
  rfl

theorem append (hfirst : Leads pointer first before middle) (hmiddle : middle.WellFormed)
    (hsecond : Leads pointer second middle after) :
    Leads pointer (first ++ second) before after := by
  intro root hroot hbefore
  have hrest := hsecond (root.replaceAt pointer middle) (hroot.replaceAt hbefore hmiddle)
    (Json.resolve?_replaceAt hbefore middle)
  unfold carryOutAll? at hrest ⊢
  rw [List.foldlM_append]
  change (carryOutAll? root first).bind _ = _
  rw [hfirst root hroot hbefore, Option.bind_some, hrest, Json.replaceAt_replaceAt hbefore]

/-- What is done below a part of a collection is done to the collection. -/
theorem below {collection old new : Json} {token : String} {operations : List Operation}
    (hchild : collection.child? token = some old)
    (h : Leads (pointer ++ [token]) operations old new) :
    Leads pointer operations collection (collection.withChild token new) := by
  intro root hroot hcollection
  have hold : root.resolve? (pointer ++ [token]) = some old := by
    rw [Json.resolve?_append, hcollection, Option.bind_some, Json.resolve?, hchild]
    rfl
  rw [h root hroot hold, Json.replaceAt_append hcollection, Json.replaceAt_cons hchild]
  rfl

theorem replace (pointer : Pointer) (old new : Json) :
    Leads pointer [.replace pointer new] old new := by
  intro root _ hold
  unfold carryOutAll?
  rw [List.foldlM_cons]
  change ((root.resolve? pointer).map _).bind _ = _
  rw [hold]
  rfl

theorem changeAround? {collection changed : Json} {token : String}
    {change : Json → String → Option Json} (h : change collection token = some changed)
    {root : Json} (hcollection : root.resolve? pointer = some collection) :
    root.changeAround? (pointer ++ [token]) change = some (root.replaceAt pointer changed) := by
  unfold Json.changeAround?
  rw [List.getLast?_concat, List.dropLast_concat, hcollection]
  change (change collection token).bind _ = _
  rw [h]
  rfl

theorem add {collection changed new : Json} {token : String}
    (h : collection.withNew? token new = some changed) :
    Leads pointer [.add (pointer ++ [token]) new] collection changed := by
  intro root _ hcollection
  have hadd : root.add? (pointer ++ [token]) new = some (root.replaceAt pointer changed) := by
    unfold Json.add?
    rw [if_neg (List.concat_ne_nil token pointer)]
    exact changeAround? h hcollection
  unfold carryOutAll?
  rw [List.foldlM_cons]
  change (root.add? _ new).bind _ = _
  rw [hadd]
  rfl

theorem remove {collection changed : Json} {token : String}
    (h : collection.without? token = some changed) :
    Leads pointer [.remove (pointer ++ [token])] collection changed := by
  intro root _ hcollection
  have hremove : root.remove? (pointer ++ [token]) = some (root.replaceAt pointer changed) :=
    changeAround? h hcollection
  unfold carryOutAll?
  rw [List.foldlM_cons]
  change (root.remove? _).bind _ = _
  rw [hremove]
  rfl

end Leads

end Operation

end ClusterObjects
