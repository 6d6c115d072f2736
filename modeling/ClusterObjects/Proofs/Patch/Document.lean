import ClusterObjects.Patch.Basic
import ClusterObjects.Proofs.Patch.Pointer

/-!
# Documents that hold operations

An operation is written as an object, and any object with the members that it is written with states
it, whatever else the object holds. But an array that lists the parts of an operation, its name
first, is taken for the operation too, although no such array is meant to be one. So a document is
read as operations just when each of its items states or lists one.
-/

namespace ClusterObjects

open Json (Members)

namespace Operation

def name : Operation → String
  | add _ _ => "add"
  | remove _ => "remove"
  | replace _ _ => "replace"
  | move _ _ => "move"
  | copy _ _ => "copy"
  | test _ _ => "test"

def path : Operation → Pointer
  | add path _ | remove path | replace path _ | move _ path | copy _ path | test path _ => path

/-- The place that an operation takes a value from. -/
def source? : Operation → Option Pointer
  | move source _ | copy source _ => some source
  | add _ _ | remove _ | replace _ _ | test _ _ => none

/-- The value that an operation brings along. -/
def value? : Operation → Option Json
  | add _ value | replace _ value | test _ value => some value
  | remove _ | move _ _ | copy _ _ => none

/-- The value has every member that the operation is written with. What else it has does not
count. -/
def StatedBy (operation : Operation) (value : Json) : Prop :=
  ∀ key part, operation.toJson.get? key = some part → value.get? key = some part

/-- The value lists the parts of the operation: its name, the place that it takes a value from, the
place that it is about, and the value that it brings along. -/
def ListedBy (operation : Operation) (value : Json) : Prop :=
  value = .arr ([.str operation.name] ++ (operation.source?.map fun source ↦ .str source.text).toList
    ++ [.str operation.path.text] ++ operation.value?.toList)

/-- A value that the operation is read from. -/
def ReadFrom (operation : Operation) (value : Json) : Prop :=
  operation.StatedBy value ∨ operation.ListedBy value

theorem get?_toJson (operation : Operation) (key : String) :
    operation.toJson.get? key =
      if key = "op" then some (.str operation.name)
      else if key = "path" then some (.str operation.path.text)
      else if key = "from" then operation.source?.map fun source ↦ .str source.text
      else if key = "value" then operation.value?
      else none := by
  cases operation <;>
    simp [toJson, Json.object, Members.ofList, Json.get?, Members.get?_insert, name, path, source?,
      value?] <;> split_ifs <;> simp_all

theorem statedBy_iff {operation : Operation} {value : Json} :
    operation.StatedBy value ↔
      value.get? "op" = some (.str operation.name) ∧
      (∀ source, operation.source? = some source → value.get? "from" = some (.str source.text)) ∧
      value.get? "path" = some (.str operation.path.text) ∧
      ∀ part, operation.value? = some part → value.get? "value" = some part := by
  unfold StatedBy
  simp only [get?_toJson]
  constructor
  · intro h
    refine ⟨h "op" _ rfl, fun source hsource ↦ ?_, h "path" _ rfl, fun part hpart ↦ ?_⟩
    · exact h "from" _ (by simp [hsource])
    · exact h "value" _ (by simp [hpart])
  · rintro ⟨hname, hsource, hpath, hvalue⟩ key part hpart
    split_ifs at hpart with hop hat hfrom hbrought
    · rw [hop, hname, hpart]
    · rw [hat, hpath, hpart]
    · obtain ⟨source, htaken, rfl⟩ := Option.map_eq_some_iff.1 hpart
      rw [hfrom, hsource source htaken]
    · rw [hbrought, hvalue part hpart]

theorem pointer_eq_some_iff {part : Option Json} {pointer : Pointer} :
    (part.bind fun value ↦ value.str?.bind Pointer.parse?) = some pointer ↔
      part = some (.str pointer.text) := by
  rcases part with _ | value
  · simp
  · cases value <;> simp [Json.str?, Pointer.parse?_eq_some_iff]

/-- Parts make an operation when those that it has are among them. -/
theorem ofParts?_eq_some_iff {op : String} {path source value : Option Json}
    {operation : Operation} :
    ofParts? op path source value = some operation ↔
      op = operation.name ∧
      (∀ taken, operation.source? = some taken → source = some (.str taken.text)) ∧
      path = some (.str operation.path.text) ∧
      ∀ part, operation.value? = some part → value = some part := by
  unfold ofParts?
  simp only [Option.bind_eq_bind, Option.pure_def]
  split
  case h_7 hadd hremove hreplace hmove hcopy htest =>
    refine iff_of_false nofun fun h ↦ ?_
    cases operation with
    | add => exact hadd h.1
    | remove => exact hremove h.1
    | replace => exact hreplace h.1
    | move => exact hmove h.1
    | copy => exact hcopy h.1
    | test => exact htest h.1
  all_goals
    simp only [Option.bind_eq_some_iff (x := Option.bind _ _)]
    cases operation <;>
      simp [pointer_eq_some_iff, Option.bind_eq_some_iff (f := fun _ ↦ some _), name,
        Operation.path, source?, value?]

theorem ofJson?_obj_eq_some_iff {members : Members} {operation : Operation} :
    ofJson? (.obj members) = some operation ↔ operation.StatedBy (.obj members) := by
  rw [statedBy_iff]
  unfold ofJson?
  simp only [Option.bind_eq_bind, Option.bind_eq_some_iff, ofParts?_eq_some_iff, Json.get?]
  constructor
  · rintro ⟨named, hnamed, op, hop, rfl, hparts⟩
    cases named with
    | str text =>
      obtain rfl := Option.some.inj hop
      exact ⟨hnamed, hparts⟩
    | null | bool _ | num _ | arr _ | obj _ => cases hop
  · rintro ⟨hnamed, hparts⟩
    exact ⟨_, hnamed, _, rfl, rfl, hparts⟩

theorem ofJson?_arr_eq_some_iff {items : List Json} {operation : Operation} :
    ofJson? (.arr items) = some operation ↔ operation.ListedBy (.arr items) := by
  unfold ofJson? ListedBy
  split
  · next h => cases h
  · next path hitems =>
    obtain rfl := Json.arr.inj hitems
    rw [ofParts?_eq_some_iff]
    cases operation <;> simp [name, Operation.path, source?, value?]
  · next op first second _ hitems =>
    obtain rfl := Json.arr.inj hitems
    split_ifs with htakes hremoves
    · rw [ofParts?_eq_some_iff]
      rcases htakes with rfl | rfl <;> cases operation <;>
        simp [name, Operation.path, source?, value?]
    · subst hremoves
      cases operation <;> simp [name, source?, value?]
    · obtain ⟨hmove, hcopy⟩ := not_or.1 htakes
      rw [ofParts?_eq_some_iff]
      cases operation <;> simp [name, Operation.path, source?, value?, hmove, hcopy, hremoves]
  · next hremove hthree =>
    refine iff_of_false nofun fun h ↦ ?_
    cases operation with
    | remove path => exact hremove _ h
    | add _ _ | replace _ _ | move _ _ | copy _ _ | test _ _ => exact hthree _ _ _ h

/-- A value is read as the operation that it states or lists. -/
theorem ofJson?_eq_some_iff {value : Json} {operation : Operation} :
    ofJson? value = some operation ↔ operation.ReadFrom value := by
  unfold ReadFrom
  have hunstated (h : ∀ key, value.get? key = none) : ¬ operation.StatedBy value := by
    rw [statedBy_iff, h "op"]
    exact nofun
  cases value with
  | obj members =>
    have hunlisted : ¬ operation.ListedBy (.obj members) := nofun
    rw [or_iff_left hunlisted, ofJson?_obj_eq_some_iff]
  | arr items => rw [or_iff_right (hunstated fun _ ↦ rfl), ofJson?_arr_eq_some_iff]
  | null | bool _ | num _ | str _ =>
    exact iff_of_false nofun fun h ↦ h.elim (hunstated fun _ ↦ rfl) nofun

theorem ofJson?_eq_none_iff {value : Json} :
    ofJson? value = none ↔ ∀ operation, ¬ ReadFrom operation value := by
  simp only [Option.eq_none_iff_forall_ne_some, ne_eq, ofJson?_eq_some_iff]

/-- Items are read as operations one by one. -/
theorem mapM_ofJson?_eq_some_iff {items : List Json} {operations : List Operation} :
    items.mapM ofJson? = some operations ↔ List.Forall₂ (flip ReadFrom) items operations := by
  induction items generalizing operations with
  | nil => simp [eq_comm]
  | cons item rest ih =>
    simp only [List.mapM_cons, Option.bind_eq_bind, Option.pure_def, Option.bind_eq_some_iff, ih,
      ofJson?_eq_some_iff, Option.some.injEq, List.forall₂_cons_left_iff, flip]
    simp only [exists_and_left, eq_comm]

/-- One item that is no operation spoils the document. -/
theorem mapM_ofJson?_eq_none_iff {items : List Json} :
    items.mapM ofJson? = none ↔ ∃ item ∈ items, ∀ operation, ¬ ReadFrom operation item := by
  induction items with
  | nil => simp
  | cons item rest ih =>
    simp only [List.mapM_cons, List.mem_cons, exists_eq_or_imp, ← ofJson?_eq_none_iff] at ih ⊢
    rw [← ih]
    cases ofJson? item <;> cases rest.mapM ofJson? <;> simp

end Operation

end ClusterObjects
