import ClusterObjects.Proofs.Decimal.Rounding
import ClusterObjects.Proofs.Json.Value

/-!
# What a value is made of

The texts, the keys and the numbers in a value, wherever they stand, and how deep its collections
are nested. What holds of all of them in a collection holds of all of them in its parts.
-/

namespace ClusterObjects

/-- The numbers that are kept apart when they are read: integers of 64 bits, with a sign or without,
and floats. -/
def Number.Fits : Number → Prop
  | .int n => -0x8000000000000000 ≤ n ∧ n < UInt64.size
  | .float x => x.Normalized

instance : DecidablePred Number.Fits
  | .int _ => inferInstanceAs (Decidable (_ ∧ _))
  | .float x => inferInstanceAs (Decidable x.Normalized)

namespace Json

section Collect

variable {α : Type} (ofScalar : Json → List α) (ofKey : String → List α)

mutual

/-- What the scalars and the keys in a value contribute. -/
def collect : Json → List α
  | .arr items => collectItems items
  | .obj members => collectMembers members
  | .null => ofScalar .null
  | .bool b => ofScalar (.bool b)
  | .num n => ofScalar (.num n)
  | .str s => ofScalar (.str s)

def collectItems : List Json → List α
  | [] => []
  | item :: rest => collect item ++ collectItems rest

def collectMembers : Members → List α
  | [] => []
  | (key, value) :: rest => ofKey key ++ (collect value ++ collectMembers rest)

end

theorem collect_arr_cons (item : Json) (rest : List Json) :
    collect ofScalar ofKey (.arr (item :: rest)) =
      collect ofScalar ofKey item ++ collect ofScalar ofKey (.arr rest) := rfl

theorem collect_obj_cons (key : String) (value : Json) (rest : Members) :
    collect ofScalar ofKey (.obj ((key, value) :: rest)) =
      ofKey key ++ (collect ofScalar ofKey value ++ collect ofScalar ofKey (.obj rest)) := rfl

end Collect

/-- The texts in a value that are no keys. -/
def texts : Json → List String :=
  collect (fun | .str s => [s] | _ => []) fun _ ↦ []

def keys : Json → List String :=
  collect (fun _ ↦ []) fun key ↦ [key]

def numbers : Json → List Number :=
  collect (fun | .num n => [n] | _ => []) fun _ ↦ []

/-- All texts and all keys in a value have a property. -/
def EveryString (ofText ofKey : String → Bool) (value : Json) : Prop :=
  (∀ s ∈ value.texts, ofText s) ∧ ∀ key ∈ value.keys, ofKey key

instance (ofText ofKey : String → Bool) (value : Json) :
    Decidable (EveryString ofText ofKey value) := inferInstanceAs (Decidable (_ ∧ _))

section EveryString

variable {ofText ofKey ofText' ofKey' : String → Bool} {item value : Json} {items : List Json}
  {key s : String} {members : Members}

theorem everyString_str : EveryString ofText ofKey (.str s) ↔ ofText s := by
  simp [EveryString, texts, keys, collect]

theorem everyString_arr_cons : EveryString ofText ofKey (.arr (item :: items)) ↔
    EveryString ofText ofKey item ∧ EveryString ofText ofKey (.arr items) := by
  simp only [EveryString, texts, keys, collect_arr_cons, List.forall_mem_append]
  exact and_and_and_comm

theorem everyString_obj_cons : EveryString ofText ofKey (.obj ((key, value) :: members)) ↔
    ofKey key ∧ EveryString ofText ofKey value ∧ EveryString ofText ofKey (.obj members) := by
  simp only [EveryString, texts, keys, collect_obj_cons, List.nil_append, List.singleton_append,
    List.forall_mem_cons, List.forall_mem_append]
  tauto

theorem everyString_and : EveryString (fun s ↦ ofText s && ofText' s)
    (fun key ↦ ofKey key && ofKey' key) value ↔
      EveryString ofText ofKey value ∧ EveryString ofText' ofKey' value := by
  simp only [EveryString, Bool.and_eq_true, imp_and, forall_and]
  exact and_and_and_comm

end EveryString

mutual

/-- How many collections stand inside one another. -/
def nesting : Json → Nat
  | .arr items => itemsNesting items + 1
  | .obj members => membersNesting members + 1
  | .null | .bool _ | .num _ | .str _ => 0

def itemsNesting : List Json → Nat
  | [] => 0
  | item :: rest => max (nesting item) (itemsNesting rest)

def membersNesting : Members → Nat
  | [] => 0
  | (_, value) :: rest => max (nesting value) (membersNesting rest)

end

end Json

end ClusterObjects
