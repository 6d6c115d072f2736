import ClusterObjects.Patch.Basic
import ClusterObjects.Proofs.Patch.Writers

/-!
# What a merge patch says

A merge patch has a member at a place just when the members there differ, however deep the place
lies, and the members that a patch has inside of it are never empty for want of changes. So an empty
patch says that nothing has changed, and a patch that is not empty leaves no change out.
-/

namespace ClusterObjects

open Json (Members)

namespace MergePatch

variable {before after : Json}

/-- Members that are the same, and only those, are left out. -/
theorem memberDiff_eq_none_iff {old new : Option Json} :
    memberDiff old new = none ↔ old.map Json.canonical = new.map Json.canonical := by
  refine ⟨fun h ↦ ?_, memberDiff_of_same⟩
  cases old with
  | none =>
    obtain rfl : new = none := h
    rfl
  | some old =>
    cases new with
    | none => cases h
    | some new =>
      have hsame : old.same new = true := by
        by_contra hdifferent
        rw [memberDiff, if_neg hdifferent] at h
        cases h
      exact congrArg some (Json.same_iff.1 hsame)

/-- The patch between two objects is empty just when the objects are the same. -/
theorem diff_eq_empty_iff (hbefore : before.WellFormed) (hobject : before.isObject = true)
    {members : Members} (hmembers : members.Sorted) :
    diff before (.obj members) = .obj [] ↔ before.same (.obj members) = true := by
  refine ⟨fun hempty ↦ ?_, diff_of_same hbefore hmembers⟩
  cases before with
  | obj old =>
    refine (Json.same_obj_iff hbefore.sorted hmembers).2 fun key ↦ ?_
    have hmember := get?_diff (.obj old) hmembers key
    rw [hempty] at hmember
    exact memberDiff_eq_none_iff.1 hmember.symm
  | null | bool _ | num _ | str _ | arr _ => cases hobject

/-- Inside of two objects at one place, the patch has what the members there make of each other. -/
theorem at?_diff_member (hbefore : before.WellFormed) (hafter : after.WellFormed)
    {parent : List String} {old new : Members} (hold : before.at? parent = some (.obj old))
    (hnew : after.at? parent = some (.obj new)) (key : String) :
    (diff before after).at? (parent ++ [key]) = memberDiff (old.get? key) (new.get? key) := by
  induction parent generalizing before after with
  | nil =>
    obtain rfl := Option.some.inj hold
    obtain rfl := Option.some.inj hnew
    rw [List.nil_append, Json.at?_cons, get?_diff _ hafter.sorted]
    exact Option.bind_fun_some _
  | cons first rest ih =>
    obtain ⟨oldChild, holdChild, holdBelow⟩ := Option.bind_eq_some_iff.1 hold
    obtain ⟨newChild, hnewChild, hnewBelow⟩ := Option.bind_eq_some_iff.1 hnew
    cases after with
    | obj members =>
      have hchild : Members.get? members first = some newChild := hnewChild
      rw [List.cons_append, Json.at?_cons, get?_diff _ hafter.sorted, holdChild, hchild]
      by_cases hsame : oldChild.same newChild = true
      · -- Where the children are the same there is no patch, and the members below are the same.
        have hbelow := Json.at?_of_same hsame (rest ++ [key])
        rw [Json.at?_concat, Json.at?_concat, holdBelow, hnewBelow] at hbelow
        rw [memberDiff, if_pos hsame]
        exact (memberDiff_of_same hbelow).symm
      · rw [memberDiff, if_neg hsame, Option.bind_some]
        exact ih (hbefore.get? holdChild) (hafter.get? hnewChild) holdBelow hnewBelow
    | null | bool _ | num _ | str _ | arr _ => cases hnewChild

theorem diff_of_old_not_object (after : Json) (h : before.isObject = false) :
    diff before after = after := by
  cases before with
  | obj old => cases h
  | null | bool _ | num _ | str _ | arr _ => cases after <;> rfl

/-- Values that differ have an empty patch only when an empty object replaces something else. -/
theorem eq_empty_of_diff_eq_empty (hbefore : before.WellFormed) (hafter : after.WellFormed)
    (hdifferent : ¬ before.same after = true) (hempty : diff before after = .obj []) :
    after = .obj [] ∧ before.isObject = false := by
  cases hobject : before.isObject with
  | false => exact ⟨(diff_of_old_not_object after hobject).symm.trans hempty, rfl⟩
  | true =>
    cases after with
    | obj members =>
      exact absurd ((diff_eq_empty_iff hbefore hobject hafter.sorted).1 hempty) hdifferent
    | null | bool _ | num _ | str _ | arr _ =>
      rw [diff_of_not_object before rfl] at hempty
      cases hempty

/-- What a member of a patch is: null for a member that goes, the value of one that comes, and else
a patch between values that differ. -/
theorem memberDiff_cases {old? new? : Option Json} {change : Json}
    (h : memberDiff old? new? = some change) :
    (∃ old, old? = some old ∧ new? = none ∧ change = .null) ∨
      (old? = none ∧ new? = some change) ∨
      ∃ old new, old? = some old ∧ new? = some new ∧ ¬ old.same new = true ∧
        change = diff old new := by
  rcases old? with _ | old <;> rcases new? with _ | new
  · cases h
  · exact .inr (.inl ⟨rfl, h⟩)
  · exact .inl ⟨old, rfl, rfl, (Option.some.inj h).symm⟩
  · by_cases hsame : old.same new = true
    · rw [memberDiff, if_pos hsame] at h
      cases h
    · rw [memberDiff, if_neg hsame] at h
      exact .inr (.inr ⟨old, new, rfl, rfl, hsame, (Option.some.inj h).symm⟩)

/-- An empty object stands below the root of a patch only where one is to be put in place of
something else. -/
theorem at?_diff_eq_empty (hbefore : before.WellFormed) (hafter : after.WellFormed)
    {path : List String} (hpath : path ≠ [])
    (hempty : (diff before after).at? path = some (.obj [])) :
    after.at? path = some (.obj []) ∧ ∀ old, before.at? path ≠ some (.obj old) := by
  induction path generalizing before after with
  | nil => exact absurd rfl hpath
  | cons key rest ih =>
    cases after with
    | obj members =>
      rw [Json.at?_cons, get?_diff _ hafter.sorted] at hempty
      obtain ⟨change, hchange, hbelow⟩ := Option.bind_eq_some_iff.1 hempty
      rw [Json.at?_cons, Json.at?_cons]
      obtain ⟨old, -, -, rfl⟩ | ⟨hold, hnew⟩ | ⟨old, new, hold, hnew, hdifferent, rfl⟩ :=
        memberDiff_cases hchange
      · -- Below null there is nothing.
        cases rest <;> cases hbelow
      · rw [show (Json.obj members).get? key = some change from hnew, hold]
        exact ⟨hbelow, nofun⟩
      · rw [show (Json.obj members).get? key = some new from hnew, hold]
        by_cases hend : rest = []
        · subst hend
          obtain ⟨rfl, hobject⟩ := eq_empty_of_diff_eq_empty (hbefore.get? hold)
            (hafter.get? hnew) hdifferent (Option.some.inj hbelow)
          refine ⟨rfl, fun members hmembers ↦ ?_⟩
          obtain rfl := Option.some.inj hmembers
          cases hobject
        · exact ih (hbefore.get? hold) (hafter.get? hnew) hend hbelow
    | null | bool _ | num _ | str _ | arr _ =>
      rw [diff_of_not_object before rfl] at hempty
      cases hempty

end MergePatch

namespace Patch

open MergePatch (memberDiff)

/-- The difference between two objects is sent as it is, unless it is empty. -/
theorem exists_between_of_ne_json {before after : Json} (hbefore : before.WellFormed)
    (hafter : after.WellFormed) (hobject : after.isObject = true) {type : PatchType}
    (htype : type ≠ .json) : ∃ patch : Patch, patch.body = MergePatch.diff before after ∧
      between before after type =
        .ok (if MergePatch.diff before after = .obj [] then none else some patch) := by
  cases after with
  | obj members =>
    obtain ⟨changes, hdiff, -⟩ := MergePatch.diff_eq_obj hbefore hafter.sorted
    rw [hdiff]
    cases type with
    | merge =>
      refine ⟨merge (.obj changes), rfl, ?_⟩
      change raw (MergePatch.diff before (.obj members)) .merge = _
      rw [hdiff]
      cases changes <;> rfl
    | strategic =>
      have hbetween : between before (.obj members) .strategic =
          raw (.obj changes) (if containsArray (.obj changes) then .merge else .strategic) :=
        hdiff ▸ rfl
      rw [hbetween]
      split
      · exact ⟨merge (.obj changes), rfl, by cases changes <;> rfl⟩
      · exact ⟨strategic (.obj changes), rfl, by cases changes <;> rfl⟩
    | json => exact absurd rfl htype
  | null | bool _ | num _ | str _ | arr _ => cases hobject

/-- There is a merge patch or a strategic patch between two objects just when they differ. Inside of
two objects at the same place it has a member just where the members there differ: null for one that
goes, the new value for one that comes or is not an object on both sides, and else a patch of its
own. The only empty objects in it are those that come in place of something else. -/
theorem merge_difference_complete {before after : Json} (hbefore : before.WellFormed)
    (hafter : after.WellFormed) (hold : before.isObject = true) (hnew : after.isObject = true)
    {type : PatchType} (htype : type ≠ .json) :
    ∃ patch?, between before after type = .ok patch? ∧
      (patch? = none ↔ before.same after = true) ∧
      ∀ patch, patch? = some patch →
        (∀ (parent : List String) (old new : Members), before.at? parent = some (.obj old) →
          after.at? parent = some (.obj new) → ∀ key,
            patch.body.at? (parent ++ [key]) = memberDiff (old.get? key) (new.get? key) ∧
            (patch.body.at? (parent ++ [key]) = none ↔
              (old.get? key).map Json.canonical = (new.get? key).map Json.canonical)) ∧
        ∀ path, path ≠ [] → patch.body.at? path = some (.obj []) →
          after.at? path = some (.obj []) ∧ ∀ members, before.at? path ≠ some (.obj members) := by
  obtain ⟨found, hbody, hbetween⟩ := exists_between_of_ne_json hbefore hafter hnew htype
  have hempty : MergePatch.diff before after = .obj [] ↔ before.same after = true := by
    cases after with
    | obj members => exact MergePatch.diff_eq_empty_iff hbefore hold hafter.sorted
    | null | bool _ | num _ | str _ | arr _ => cases hnew
  refine ⟨_, hbetween, by simp [← hempty], fun patch hpatch ↦ ?_⟩
  obtain ⟨-, hfound⟩ := (Option.ite_none_left_eq_some ..).1 hpatch
  obtain rfl := Option.some.inj hfound
  rw [hbody]
  refine ⟨fun parent old new hparent hparentNew key ↦ ?_, fun path ↦ ?_⟩
  · rw [MergePatch.at?_diff_member hbefore hafter hparent hparentNew]
    exact ⟨rfl, MergePatch.memberDiff_eq_none_iff⟩
  · exact MergePatch.at?_diff_eq_empty hbefore hafter

/-- An empty object and a null that come are sent, at any depth, and a subtree that stays is not. -/
theorem merge_difference_complete_empty_values :
    let before : Json := .obj [("metadata", .obj [("labels", .obj [("app", .str "web")])]),
      ("spec", .obj [("replicas", .int 1)])]
    let after : Json := .obj [("metadata", .obj [("annotations", .obj []), ("hold", .null),
      ("labels", .obj [("app", .str "web")])]), ("spec", .obj [("replicas", .int 1)])]
    before.WellFormed ∧ after.WellFormed ∧ before.isObject = true ∧ after.isObject = true ∧
      ∀ type ∈ [PatchType.merge, .strategic], ∃ patch,
        between before after type = .ok (some patch) ∧
        patch.body.at? ["metadata", "annotations"] = some (.obj []) ∧
        patch.body.at? ["metadata", "hold"] = some .null ∧
        patch.body.at? ["metadata", "labels"] = none ∧ patch.body.at? ["spec"] = none := by
  intro before after
  have hbefore : before.WellFormed := by decide +kernel
  have hafter : after.WellFormed := by decide +kernel
  refine ⟨hbefore, hafter, rfl, rfl, fun type htype ↦ ?_⟩
  have hne : type ≠ .json := by
    rintro rfl
    exact absurd htype (by decide)
  obtain ⟨patch?, hbetween, hnone, hplaces⟩ := merge_difference_complete hbefore hafter rfl rfl hne
  have hdifferent : ¬ before.same after = true := by decide +kernel
  obtain ⟨patch, rfl⟩ := Option.ne_none_iff_exists'.1 (mt hnone.1 hdifferent)
  obtain ⟨hmembers, -⟩ := hplaces patch rfl
  have hmetadata := hmembers ["metadata"] _ _ rfl rfl
  refine ⟨patch, hbetween, (hmetadata "annotations").1, (hmetadata "hold").1,
    (hmetadata "labels").2.2 rfl, (hmembers [] _ _ rfl rfl "spec").2.2 rfl⟩

end Patch

end ClusterObjects
