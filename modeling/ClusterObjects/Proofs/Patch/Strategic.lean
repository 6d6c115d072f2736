import ClusterObjects.Patch.Basic
import ClusterObjects.Proofs.Patch.Merge

/-!
# Strategic patches that hold no array

A strategic patch is carried out like a merge patch, except that the server combines the items of an
array with those of the live one, by rules of its own. So a difference may go as a strategic patch
only when the server finds no two arrays to combine. That is why a difference that holds an array
is sent as a merge patch; then the outcome is the desired object, whatever the server does with
arrays.
-/

namespace ClusterObjects

open Json (Members)
open MergePatch (diff memberDiff get?_diff diff_eq_obj diff_eq_null_iff diff_of_not_object)

/-! ## Arrays inside a value -/

/-- An array stands in the value, at its top or in a member at any depth. -/
inductive Json.HoldsArray : Json → Prop where
  | array (items : List Json) : HoldsArray (.arr items)
  | member {members : Members} {key : String} {value : Json} (hmember : (key, value) ∈ members)
      (h : HoldsArray value) : HoldsArray (.obj members)

namespace Patch

mutual

theorem holdsArray_of_containsArray : {value : Json} → containsArray value = true → value.HoldsArray
  | .arr items, _ => .array items
  | .obj _, h =>
    let ⟨_, hmember, hvalue⟩ := exists_member_of_containArray h
    .member hmember hvalue

theorem exists_member_of_containArray : {members : Members} →
    membersContainArray members = true → ∃ member ∈ members, member.2.HoldsArray
  | (key, value) :: rest, h => by
    rcases (Bool.or_eq_true _ _).mp h with h | h
    · exact ⟨(key, value), List.mem_cons_self, holdsArray_of_containsArray h⟩
    · obtain ⟨member, hmember, hvalue⟩ := exists_member_of_containArray h
      exact ⟨member, List.mem_cons_of_mem _ hmember, hvalue⟩

end

theorem membersContainArray_eq_any (members : Members) :
    membersContainArray members = members.any fun member ↦ containsArray member.2 := by
  induction members with
  | nil => rfl
  | cons head rest ih => rw [membersContainArray, List.any_cons, ih]

theorem containsArray_iff (value : Json) : containsArray value = true ↔ value.HoldsArray := by
  refine ⟨holdsArray_of_containsArray, fun h ↦ ?_⟩
  induction h with
  | array items => rfl
  | @member members key value hmember _ ih =>
    rw [containsArray, membersContainArray_eq_any, List.any_eq_true]
    exact ⟨(key, value), hmember, ih⟩

end Patch

/-! ## Merging with a rule for arrays -/

namespace StrategicMerge

mutual

/-- Carries a patch out on a value: objects are merged member by member, two arrays are combined by
the given rule, and any other value is replaced. -/
def merge (combine : List Json → List Json → Json) (target patch : Json) : Json :=
  match patch with
  | .obj changes =>
    match target with
    | .obj members => .obj (mergeMembers combine members changes)
    | _ => .obj changes
  | .arr items =>
    match target with
    | .arr live => combine live items
    | _ => .arr items
  | patch => patch

/-- Carries changes of members out; null removes a member. -/
def mergeMembers (combine : List Json → List Json → Json) (members : Members) :
    (changes : Members) → Members
  | [] => members
  | (key, change) :: rest =>
    let members :=
      match change with
      | .null => Members.erase members key
      | change =>
        Members.insert key
          ((Members.get? members key).elim change fun live ↦ merge combine live change) members
    mergeMembers combine members rest

end

variable {combine : List Json → List Json → Json}

/-- A patch is carried out member by member. -/
theorem mergeMembers_eq_carryOut (members changes : Members) :
    mergeMembers combine members changes =
      Members.carryOut (fun old change ↦ old.elim change fun live ↦ merge combine live change)
        members changes := by
  induction changes generalizing members with
  | nil => rfl
  | cons head rest ih =>
    obtain ⟨key, change⟩ := head
    cases change with
    | null | obj _ | bool _ | num _ | str _ | arr _ => exact ih _

theorem merge_of_leaf (target : Json) {patch : Json} (hobject : patch.isObject = false)
    (harray : ¬ patch.HoldsArray) : merge combine target patch = patch := by
  cases patch with
  | obj members => cases hobject
  | arr items => exact absurd (.array items) harray
  | null | bool _ | num _ | str _ => cases target <;> rfl

/-- A member comes out as wanted when the difference below it leads to what is wanted there. -/
theorem carried_memberDiff (old new : Option Json) (hnull : new ≠ some .null)
    (hbelow : ∀ live child, old = some live → new = some child →
      memberDiff old new = some (diff live child) →
      (merge combine live (diff live child)).same child = true) :
    (Members.carried (fun old change ↦ old.elim change fun live ↦ merge combine live change) old
      (memberDiff old new)).map Json.canonical = new.map Json.canonical := by
  cases new with
  | none => cases old <;> rfl
  | some child =>
    have hchild : child ≠ .null := fun h ↦ hnull (congrArg some h)
    cases old with
    | none =>
      change Option.map _ (if child = .null then _ else _) = _
      rw [if_neg hchild]
      rfl
    | some live =>
      by_cases hsame : live.same child = true
      · rw [memberDiff, if_pos hsame]
        exact congrArg some (Json.same_iff.1 hsame)
      · have hdiff : diff live child ≠ .null := fun h ↦ hchild ((diff_eq_null_iff live child).1 h)
        have hmember : memberDiff (some live) (some child) = some (diff live child) := if_neg hsame
        have hmerged := hbelow live child rfl rfl hmember
        rw [hmember]
        change Option.map _ (if diff live child = .null then _ else _) = _
        rw [if_neg hdiff]
        exact congrArg some (Json.same_iff.1 hmerged)

/-- A difference that holds no array leads to the value it was made for, whatever the rule for
arrays is, when there is no null to write. -/
theorem same_merge_diff (combine : List Json → List Json → Json) {before after : Json}
    (hbefore : before.WellFormed) (hafter : after.WellFormed) (hnulls : after.NullsIn .null)
    (harray : ¬ (diff before after).HoldsArray) :
    (merge combine before (diff before after)).same after = true := by
  induction after using Json.memberInduction generalizing before with
  | step after ih =>
    cases after with
    | obj members =>
      cases before with
      | obj old =>
        obtain ⟨changes, hdiff, hchanges⟩ := diff_eq_obj hbefore hafter.sorted
        have hmember (key : String) : Members.get? changes key = _ :=
          hdiff ▸ get?_diff (.obj old) hafter.sorted key
        rw [hdiff] at harray ⊢
        change (Json.obj (mergeMembers combine old changes)).same _ = true
        rw [mergeMembers_eq_carryOut,
          Json.same_obj_iff (hbefore.sorted.carryOut _ changes) hafter.sorted]
        intro key
        have hbelow := (Json.nullsIn_iff _ _).1 hnulls key
        rw [Members.get?_carryOut _ _ hchanges, hmember]
        refine carried_memberDiff _ _ ?_ fun live child hlive hchild hchange ↦ ?_
        · intro hnull
          cases (hbelow .null hnull).1 rfl
        · have hlast : ¬ (diff live child).HoldsArray := fun h ↦
            harray (.member (Members.mem_of_get? ((hmember key).trans hchange)) h)
          exact ih key child hchild (hbefore.get? hlive) (hafter.get? hchild)
            (hbelow child hchild).2 hlast
      | null | bool _ | num _ | str _ | arr _ => exact Json.same_refl _
    | null | bool _ | num _ | str _ | arr _ =>
      rw [diff_of_not_object before rfl] at harray ⊢
      rw [merge_of_leaf before rfl harray]
      exact Json.same_refl _

end StrategicMerge

/-! ## Differences between objects -/

namespace Patch

/-- Carried out by its own rule, the patch makes one value of another. -/
def Makes (combine : List Json → List Json → Json) (before after : Json) : Patch → Prop
  | strategic body => (StrategicMerge.merge combine before body).same after = true
  | merge body => (MergePatch.apply before body).same after = true
  | json _ => False

/-- A difference that is to be sent as a strategic patch is sent as one just when it holds no array,
and by its own rule it makes the desired object of the live one, whatever the server does with two
arrays. There is none only when nothing has to change. -/
theorem strategic_difference (combine : List Json → List Json → Json) {before after : Json}
    (hbefore : before.WellFormed) (hafter : after.WellFormed)
    (hold : before.isObject = true) (hnew : after.isObject = true)
    (hnulls : ∀ path, path ≠ [] → after.at? path ≠ some .null) :
    ∃ patch?, between before after .strategic = .ok patch? ∧
      match patch? with
      | some patch =>
        patch.Makes combine before after ∧
          between before after .merge = .ok (some (merge patch.body)) ∧
          (patch.type = .strategic ↔ ¬ patch.body.HoldsArray)
      | none => before.same after = true ∧ between before after .merge = .ok none := by
  have hmerged : (MergePatch.apply before (diff before after)).same after = true :=
    (MergePatch.same_apply_diff_iff hbefore hafter).2
      fun path hpath hnull ↦ absurd hnull (hnulls path hpath)
  have hlost : after.NullsIn .null := (Json.nullsIn_null_iff after).2 hnulls
  have hmerge : between before after .merge = raw (diff before after) .merge := rfl
  have hstrategic : between before after .strategic = raw (diff before after)
      (if containsArray (diff before after) then .merge else .strategic) := rfl
  rw [hmerge, hstrategic]
  cases after with
  | obj members =>
    obtain ⟨changes, hdiff, -⟩ := diff_eq_obj hbefore hafter.sorted
    cases changes with
    | nil =>
      rw [hdiff] at hmerged ⊢
      cases before with
      | obj old => exact ⟨none, rfl, hmerged, rfl⟩
      | null | bool _ | num _ | str _ | arr _ => cases hold
    | cons head rest =>
      by_cases harray : (diff before (.obj members)).HoldsArray
      · rw [if_pos ((containsArray_iff _).2 harray)]
        rw [hdiff] at hmerged harray ⊢
        exact ⟨some (merge (.obj (head :: rest))), rfl, hmerged, rfl, nofun, fun h ↦ absurd harray h⟩
      · have hmade := StrategicMerge.same_merge_diff combine hbefore hafter hlost harray
        rw [if_neg ((containsArray_iff _).not.2 harray)]
        rw [hdiff] at hmade harray ⊢
        exact ⟨some (strategic (.obj (head :: rest))), rfl, hmade, rfl, fun _ ↦ harray, fun _ ↦ rfl⟩
  | null | bool _ | num _ | str _ | arr _ => cases hnew

/-- A label that goes is sent as a strategic patch, an item that goes as a merge patch. A server
that appends the items of a patch would keep the item under the other label. -/
theorem strategic_difference_item_gone :
    let append (live items : List Json) : Json := .arr (live ++ items)
    let before : Json := .obj [("args", Json.strings ["a", "b"]),
      ("labels", .obj [("app", .str "web"), ("tier", .null)])]
    let after (items : List String) : Json := .obj [("args", Json.strings items),
      ("labels", .obj [("app", .str "web")])]
    before.WellFormed ∧
      (∀ items ∈ [["a", "b"], ["a"]], (after items).WellFormed ∧
        ∀ path, path ≠ [] → (after items).at? path ≠ some .null) ∧
      (∃ patch, between before (after ["a", "b"]) .strategic = .ok (some patch) ∧
        patch.type = .strategic ∧ patch.Makes append before (after ["a", "b"])) ∧
      ∃ patch, between before (after ["a"]) .strategic = .ok (some patch) ∧
        patch.type = .merge ∧ patch.Makes append before (after ["a"]) ∧
        ¬ (strategic patch.body).Makes append before (after ["a"]) := by
  intro append before after
  have hbefore : before.WellFormed := by decide +kernel
  have hwhole : (after ["a", "b"]).WellFormed := by decide +kernel
  have hshort : (after ["a"]).WellFormed := by decide +kernel
  have hnulls (items : List String) : ∀ path, path ≠ [] → (after items).at? path ≠ some .null := by
    rw [← Json.nullsIn_null_iff]
    refine Json.nullsIn_null_of_members fun member hmember ↦ ?_
    rcases List.mem_pair.1 hmember with rfl | rfl
    · exact ⟨nofun, Json.nullsIn_of_get?_eq_none _ fun _ ↦ rfl⟩
    · refine ⟨nofun, Json.nullsIn_null_of_members fun label hlabel ↦ ?_⟩
      obtain rfl := List.mem_singleton.1 hlabel
      exact ⟨nofun, Json.nullsIn_of_get?_eq_none _ fun _ ↦ rfl⟩
  have hkept : between before (after ["a", "b"]) .strategic =
      .ok (some (strategic (diff before (after ["a", "b"])))) := by decide +kernel
  have hgone : between before (after ["a"]) .strategic =
      .ok (some (merge (diff before (after ["a"])))) := by decide +kernel
  have happended : (StrategicMerge.merge append before (diff before (after ["a"]))).same
      (after ["a"]) = false := by decide +kernel
  obtain ⟨_, hfirst, hmade⟩ := strategic_difference append hbefore hwhole rfl rfl (hnulls _)
  obtain ⟨_, hsecond, hmerged⟩ := strategic_difference append hbefore hshort rfl rfl (hnulls _)
  obtain rfl := Except.ok.inj (hkept.symm.trans hfirst)
  obtain rfl := Except.ok.inj (hgone.symm.trans hsecond)
  refine ⟨hbefore, ?_, ⟨_, hkept, rfl, hmade.1⟩, _, hgone, rfl, hmerged.1,
    Bool.eq_false_iff.1 happended⟩
  intro items hitems
  rcases List.mem_pair.1 hitems with rfl | rfl
  · exact ⟨hwhole, hnulls _⟩
  · exact ⟨hshort, hnulls _⟩

end Patch

end ClusterObjects
