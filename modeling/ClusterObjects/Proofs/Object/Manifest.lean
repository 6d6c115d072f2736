import ClusterObjects.Object.Manifest
import ClusterObjects.Proofs.Json.Members

/-!
# The leaves of a manifest

The documents of a manifest unfold into leaves, which are no lists, in the order of the text.
`objects_eq` says that a manifest is read leaf by leaf, so that it has as many objects as leaves, or
the error of the first leaf that is no object.
-/

namespace ClusterObjects.Manifest

/-- Documents and the leaves below them, in order. -/
inductive Unfolds : (documents leaves : List Json) → Prop where
  | nil : Unfolds [] []
  | list {document : Json} {items inner rest leaves : List Json}
      (hlist : listItems? document = some items) (hinner : Unfolds items inner)
      (hrest : Unfolds rest leaves) : Unfolds (document :: rest) (inner ++ leaves)
  | leaf {document : Json} {rest leaves : List Json} (hleaf : listItems? document = none)
      (hrest : Unfolds rest leaves) : Unfolds (document :: rest) (document :: leaves)

namespace Unfolds

theorem append {documents leaves more others : List Json} (h : Unfolds documents leaves)
    (hmore : Unfolds more others) : Unfolds (documents ++ more) (leaves ++ others) := by
  induction h with
  | nil => exact hmore
  | list hlist hinner _ _ ih =>
    rw [List.append_assoc]
    exact .list hlist hinner ih
  | leaf hleaf _ ih => exact .leaf hleaf ih

theorem singleton {document : Json} (hleaf : listItems? document = none) :
    Unfolds [document] [document] := .leaf hleaf .nil

/-- The leaves are determined by the documents. -/
theorem unique {documents leaves others : List Json} (h : Unfolds documents leaves)
    (hother : Unfolds documents others) : leaves = others := by
  induction h generalizing others with
  | nil =>
    cases hother
    rfl
  | list hlist _ _ ihinner ihrest =>
    cases hother with
    | list hother hinner hrest =>
      obtain rfl := Option.some.inj (hlist.symm.trans hother)
      rw [ihinner hinner, ihrest hrest]
    | leaf hleaf _ => cases hlist.symm.trans hleaf
  | leaf hleaf _ ih =>
    cases hother with
    | list hlist _ _ => cases hleaf.symm.trans hlist
    | leaf _ hrest => rw [ih hrest]

end Unfolds

theorem mapM_singleton (document : Json) :
    [document].mapM leaf = (do return [← leaf document]) := by
  rw [List.mapM_cons]
  cases leaf document <;> rfl

/-- The items of a member, when it is an array. -/
def itemsAt (key : String) (members : Json.Members) : List Json :=
  match members.get? key with
  | some (.arr items) => items
  | _ => []

theorem itemsAt_cons (key k : String) (value : Json) (rest : Json.Members) :
    itemsAt key ((k, value) :: rest) =
      if k = key then (match value with
        | .arr items => items
        | _ => [])
      else itemsAt key rest := by
  unfold itemsAt
  rw [Json.Members.get?_cons]
  by_cases hkey : k = key
  · rw [if_pos hkey, if_pos hkey.symm]
    cases value <;> rfl
  · rw [if_neg hkey, if_neg (Ne.symm hkey)]

theorem itemsAt_of_listItems? {members : Json.Members} {items : List Json}
    (h : listItems? (.obj members) = some items) : itemsAt "items" members = items := by
  unfold listItems? at h
  split at h
  · rename_i hitems
    obtain ⟨-, heq⟩ := (Option.ite_none_right_eq_some ..).1 h
    change members.get? "items" = _ at hitems
    unfold itemsAt
    rw [hitems]
    exact Option.some.inj heq
  · cases h

mutual

/-- A member is read by the leaves of its items. -/
theorem leavesAt_eq (key : String) : (members : Json.Members) →
    ∃ found, Unfolds (itemsAt key members) found ∧ leavesAt key members = found.mapM leaf
  | [] => ⟨[], .nil, rfl⟩
  | (k, value) :: rest => by
    rw [itemsAt_cons, leavesAt.eq_def]
    dsimp only
    by_cases hkey : k = key
    · rw [if_pos hkey, if_pos hkey]
      cases value with
      | arr items => exact itemsLeaves_eq items
      | null | bool | num | str | obj => exact ⟨[], .nil, rfl⟩
    · rw [if_neg hkey, if_neg hkey]
      exact leavesAt_eq key rest

/-- A document is read by its leaves. -/
theorem leaves_eq : (document : Json) →
    ∃ found, Unfolds [document] found ∧ leaves document = found.mapM leaf
  | .obj members => by
    rw [leaves]
    cases hlist : listItems? (.obj members) with
    | some items =>
      obtain ⟨found, hfound, hleaves⟩ := leavesAt_eq "items" members
      rw [itemsAt_of_listItems? hlist] at hfound
      refine ⟨found, ?_, hleaves⟩
      rw [← List.append_nil found]
      exact .list hlist hfound .nil
    | none => exact ⟨_, .singleton hlist, (mapM_singleton _).symm⟩
  | .null => ⟨_, .singleton rfl, (mapM_singleton _).symm⟩
  | .bool _ => ⟨_, .singleton rfl, (mapM_singleton _).symm⟩
  | .num _ => ⟨_, .singleton rfl, (mapM_singleton _).symm⟩
  | .str _ => ⟨_, .singleton rfl, (mapM_singleton _).symm⟩
  | .arr _ => ⟨_, .singleton rfl, (mapM_singleton _).symm⟩

theorem itemsLeaves_eq : (items : List Json) →
    ∃ found, Unfolds items found ∧ itemsLeaves items = found.mapM leaf
  | [] => ⟨[], .nil, rfl⟩
  | item :: rest => by
    obtain ⟨first, hfirst, hleaves⟩ := leaves_eq item
    obtain ⟨more, hmore, hrest⟩ := itemsLeaves_eq rest
    refine ⟨first ++ more, hfirst.append hmore, ?_⟩
    rw [itemsLeaves, hleaves, hrest, List.mapM_append]

end

/-- The objects of a manifest are its leaves, each read by itself. -/
theorem objects_eq {data : ByteArray} {documents : List Json}
    (h : Yaml.documents? data = some documents) :
    ∃ found, Unfolds documents found ∧ objects data = found.mapM leaf := by
  unfold objects
  rw [h]
  exact itemsLeaves_eq documents

end ClusterObjects.Manifest
