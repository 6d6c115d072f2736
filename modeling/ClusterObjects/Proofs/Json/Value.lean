import ClusterObjects.Proofs.Json.Members

/-!
# Values, seen through their members

`Json.memberInduction` goes from the members of a value to the value. Two objects in order are the
same exactly when their members are, and the members of a well-formed value are well-formed.
-/

namespace ClusterObjects.Json

theorem sizeOf_lt_of_get? {value child : Json} {key : String} (h : value.get? key = some child) :
    sizeOf child < sizeOf value := by
  cases value with
  | obj members =>
    have hmem : (key, child) ∈ members := Members.mem_of_get? h
    have hlt := List.sizeOf_lt_of_mem hmem
    simp only [Prod.mk.sizeOf_spec] at hlt
    simp only [obj.sizeOf_spec]
    omega
  | null | bool _ | num _ | str _ | arr _ => cases h

/-- What holds of a value whenever it holds of its members holds of every value. -/
@[elab_as_elim]
theorem memberInduction {motive : Json → Prop} (value : Json)
    (step : ∀ value : Json, (∀ key child, value.get? key = some child → motive child) →
      motive value) : motive value := by
  induction h : sizeOf value using Nat.strong_induction_on generalizing value with
  | _ size ih =>
    subst h
    exact step value fun key child hchild ↦ ih _ (sizeOf_lt_of_get? hchild) child rfl

/-- The items of an array, and the values of an object's members. -/
def parts : Json → List Json
  | arr items => items
  | obj members => members.map Prod.snd
  | null | bool _ | num _ | str _ => []

theorem sizeOf_lt_of_mem_parts {value part : Json} (h : part ∈ value.parts) :
    sizeOf part < sizeOf value := by
  cases value with
  | arr items =>
    have hlt := List.sizeOf_lt_of_mem (show part ∈ items from h)
    simp only [arr.sizeOf_spec]
    omega
  | obj members =>
    obtain ⟨⟨key, child⟩, hmem, rfl⟩ := List.mem_map.1 h
    have hlt := List.sizeOf_lt_of_mem hmem
    simp only [Prod.mk.sizeOf_spec] at hlt
    simp only [obj.sizeOf_spec]
    omega
  | null | bool _ | num _ | str _ => cases h

/-- What holds of a value whenever it holds of its parts holds of every value. -/
@[elab_as_elim]
theorem partInduction {motive : Json → Prop} (value : Json)
    (step : ∀ value : Json, (∀ part ∈ value.parts, motive part) → motive value) :
    motive value := by
  induction h : sizeOf value using Nat.strong_induction_on generalizing value with
  | _ size ih =>
    subst h
    exact step value fun part hpart ↦ ih _ (sizeOf_lt_of_mem_parts hpart) part rfl

mutual

def decWellFormed : (value : Json) → Decidable value.WellFormed
  | arr items => decItemsWellFormed items
  | obj members =>
    have := decMembersWellFormed members
    inferInstanceAs (Decidable (members.Pairwise (·.1 < ·.1) ∧ membersWellFormed members))
  | null | bool _ | num _ | str _ => isTrue trivial

def decItemsWellFormed : (items : List Json) → Decidable (itemsWellFormed items)
  | [] => isTrue trivial
  | item :: rest =>
    have := decWellFormed item
    have := decItemsWellFormed rest
    inferInstanceAs (Decidable (item.WellFormed ∧ itemsWellFormed rest))

def decMembersWellFormed : (members : Members) → Decidable (membersWellFormed members)
  | [] => isTrue trivial
  | (_, value) :: rest =>
    have := decWellFormed value
    have := decMembersWellFormed rest
    inferInstanceAs (Decidable (value.WellFormed ∧ membersWellFormed rest))

end

instance (value : Json) : Decidable value.WellFormed := decWellFormed value

theorem membersWellFormed_iff (members : Members) :
    membersWellFormed members ↔ ∀ member ∈ members, member.2.WellFormed := by
  induction members with
  | nil => simp [membersWellFormed]
  | cons head rest ih => simp [membersWellFormed, ih]

theorem WellFormed.sorted {members : Members} (h : (obj members).WellFormed) :
    members.Sorted := h.1

theorem WellFormed.get? {value child : Json} {key : String} (h : value.WellFormed)
    (hchild : value.get? key = some child) : child.WellFormed := by
  cases value with
  | obj members =>
    exact (membersWellFormed_iff members).1 h.2 _ (Members.mem_of_get? hchild)
  | null | bool _ | num _ | str _ | arr _ => cases hchild

theorem WellFormed.getD_null {value : Json} (h : value.WellFormed) (key : String) :
    ((value.get? key).getD .null).WellFormed := by
  cases hchild : value.get? key with
  | none => trivial
  | some child => exact h.get? hchild

theorem membersCanonical_eq_map (members : Members) :
    membersCanonical members = members.map fun member ↦ (member.1, member.2.canonical) := by
  induction members with
  | nil => rfl
  | cons head rest ih => simp [membersCanonical, ih]

theorem itemsCanonical_eq_map (items : List Json) : itemsCanonical items = items.map canonical := by
  induction items with
  | nil => rfl
  | cons head rest ih => rw [itemsCanonical, List.map_cons, ih]

theorem get?_canonical (value : Json) (key : String) :
    value.canonical.get? key = (value.get? key).map canonical := by
  cases value with
  | obj members =>
    change Members.get? (membersCanonical members) key = _
    rw [membersCanonical_eq_map, Members.get?_map_value]
    rfl
  | null | bool _ | num _ | str _ | arr _ => rfl

@[simp] theorem canonical_eq_null_iff {value : Json} : value.canonical = .null ↔ value = .null := by
  cases value <;> simp [canonical]

theorem same_iff {first second : Json} :
    first.same second = true ↔ first.canonical = second.canonical := by
  unfold same
  rw [beq_iff_eq]

@[simp] theorem same_refl (value : Json) : value.same value = true := same_iff.2 rfl

/-- Arrays are the same when their items are, one by one. -/
theorem same_arr_iff {first second : List Json} :
    (arr first).same (arr second) = true ↔ first.map canonical = second.map canonical := by
  rw [same_iff, canonical, canonical, itemsCanonical_eq_map, itemsCanonical_eq_map, arr.injEq]

/-- Objects in order are the same when their members are. -/
theorem same_obj_iff {first second : Members} (hfirst : first.Sorted) (hsecond : second.Sorted) :
    (obj first).same (obj second) = true ↔ ∀ key,
      (Members.get? first key).map canonical = (Members.get? second key).map canonical := by
  rw [same_iff]
  constructor
  · intro h key
    have hlookup := congrArg (Json.get? · key) h
    simp only [get?_canonical] at hlookup
    exact hlookup
  · intro h
    change obj (membersCanonical first) = obj (membersCanonical second)
    rw [membersCanonical_eq_map, membersCanonical_eq_map]
    refine congrArg obj ((hfirst.map_value _).ext (hsecond.map_value _) fun key ↦ ?_)
    rw [Members.get?_map_value, Members.get?_map_value]
    exact h key

end ClusterObjects.Json
