import ClusterObjects.Patch.Merge
import ClusterObjects.Proofs.Json.Path

/-!
# Merge patches bring about what they describe

A patch is known by its members: `get?_diff` says which of them a difference has, `get?_apply` what
each of them does. From the two follows when a difference leads from one value to the other. The
only thing it cannot do is to write a null, which in a patch means a removal.
-/

namespace ClusterObjects.MergePatch

open Json (Members NullsIn)

theorem sorted_removed {before : Members} (after : Members) (h : before.Sorted) :
    (removed before after).Sorted := by
  unfold removed
  exact (h.filter _).map_value fun _ ↦ .null

theorem get?_removed (before after : Members) (key : String) :
    Members.get? (removed before after) key =
      if (Members.get? after key).isSome then none
      else (Members.get? before key).map fun _ ↦ .null := by
  unfold removed
  rw [Members.get?_map_value (fun _ ↦ Json.null),
    Members.get?_filter_key (fun key ↦ !Members.contains after key)]
  unfold Members.contains
  cases Members.get? after key <;> simp

theorem sorted_changed (before after : Members) {patch : Members} (h : patch.Sorted) :
    (changed before after patch).Sorted := by
  induction after generalizing patch with
  | nil => rwa [changed]
  | cons head rest ih =>
    obtain ⟨key, new⟩ := head
    rw [changed]
    apply ih
    split
    · exact h.insert _ _
    · split
      · exact h
      · exact h.insert _ _

/-- The member of a patch at a key, from the members there of the two objects. -/
def memberDiff : (old new : Option Json) → Option Json
  | none, new => new
  | some _, none => some .null
  | some old, some new => if old.same new then none else some (diff old new)

theorem get?_changed (before : Members) {after : Members} (h : after.Sorted) (patch : Members)
    (key : String) :
    Members.get? (changed before after patch) key =
      ((Members.get? after key).bind fun new ↦ memberDiff (Members.get? before key) (some new)).or
        (Members.get? patch key) := by
  induction after generalizing patch with
  | nil => simp [changed]
  | cons head rest ih =>
    obtain ⟨k, new⟩ := head
    have hrest : Members.Sorted rest := (List.pairwise_cons.1 h).2
    rw [changed, ih hrest, Members.get?_cons]
    by_cases hkey : key = k
    · subst hkey
      rw [h.get?_tail, if_pos rfl]
      cases hold : Members.get? before key with
      | none => simp [memberDiff, Members.get?_insert]
      | some old => cases hsame : old.same new <;> simp [memberDiff, Members.get?_insert, hsame]
    · rw [if_neg hkey]
      cases Members.get? before k with
      | none => simp [Members.get?_insert, hkey]
      | some old => cases hsame : old.same new <;> simp [Members.get?_insert, hkey, hsame]

/-- The members of the patch that leads to an object. -/
theorem get?_diff (before : Json) {after : Members} (h : after.Sorted) (key : String) :
    (diff before (.obj after)).get? key =
      memberDiff (before.get? key) (Members.get? after key) := by
  cases before with
  | obj old =>
    rw [diff]
    change Members.get? (changed old after (removed old after)) key = _
    rw [get?_changed old h, get?_removed]
    change _ = memberDiff (Members.get? old key) _
    cases Members.get? after key with
    | none => cases Members.get? old key <;> rfl
    | some new => simp
  | null | bool _ | num _ | str _ | arr _ =>
    rw [diff]
    · rfl
    · intro old new hold
      cases hold

theorem diff_of_not_object (before : Json) {after : Json} (h : after.isObject = false) :
    diff before after = after := by
  unfold diff
  split
  · cases h
  · rfl

theorem diff_eq_obj {before : Json} (hbefore : before.WellFormed) {after : Members}
    (hafter : after.Sorted) :
    ∃ changes : Members, diff before (.obj after) = .obj changes ∧ changes.Sorted := by
  unfold diff
  split
  · rename_i old new heq
    obtain rfl : after = new := by simpa using heq
    exact ⟨_, rfl, sorted_changed _ _ (sorted_removed _ hbefore.sorted)⟩
  · exact ⟨after, rfl, hafter⟩

theorem diff_eq_null_iff (before after : Json) : diff before after = .null ↔ after = .null := by
  unfold diff
  split <;> simp

/-- The members of a value; a value that is no object has none. -/
def membersOf : Json → Members
  | .obj members => members
  | _ => []

theorem get?_membersOf (value : Json) (key : String) :
    Members.get? (membersOf value) key = value.get? key := by
  cases value <;> rfl

theorem sorted_membersOf {value : Json} (h : value.WellFormed) : (membersOf value).Sorted := by
  cases value with
  | obj members => exact h.sorted
  | null | bool _ | num _ | str _ | arr _ => exact List.Pairwise.nil

theorem apply_obj (target : Json) (changes : Members) :
    apply target (.obj changes) = .obj (applyMembers (membersOf target) changes) := by
  cases target <;> rfl

theorem apply_of_not_object (target : Json) {patch : Json} (h : patch.isObject = false) :
    apply target patch = patch := by
  cases patch with
  | obj changes => cases h
  | null | bool _ | num _ | str _ | arr _ => rfl

/-- A patch is carried out member by member. -/
theorem applyMembers_eq_carryOut (members changes : Members) :
    applyMembers members changes =
      Members.carryOut (fun old ↦ apply (old.getD .null)) members changes := by
  induction changes generalizing members with
  | nil => rfl
  | cons head rest ih =>
    obtain ⟨key, change⟩ := head
    cases change with
    | null | obj _ | bool _ | num _ | str _ | arr _ => exact ih _

theorem sorted_applyMembers {members : Members} (changes : Members) (h : members.Sorted) :
    (applyMembers members changes).Sorted := by
  rw [applyMembers_eq_carryOut]
  exact h.carryOut _ changes

/-- What the member of a patch at a key makes of the member there. -/
def memberApply (old : Option Json) : (change : Option Json) → Option Json
  | none => old
  | some .null => none
  | some change => some (apply (old.getD .null) change)

theorem memberApply_some (old : Option Json) {change : Json} (h : change ≠ .null) :
    memberApply old (some change) = some (apply (old.getD .null) change) := by
  cases change with
  | null => exact absurd rfl h
  | obj _ | bool _ | num _ | str _ | arr _ => rfl

theorem get?_applyMembers (members : Members) {changes : Members} (h : changes.Sorted)
    (key : String) :
    Members.get? (applyMembers members changes) key =
      memberApply (Members.get? members key) (Members.get? changes key) := by
  rw [applyMembers_eq_carryOut, Members.get?_carryOut _ _ h]
  cases Members.get? changes key with
  | none => rfl
  | some change =>
    cases change with
    | null | obj _ | bool _ | num _ | str _ | arr _ => rfl

/-- The members of an object to which a patch was applied. -/
theorem get?_apply (target : Json) {changes : Members} (h : changes.Sorted) (key : String) :
    (apply target (.obj changes)).get? key =
      memberApply (target.get? key) (Members.get? changes key) := by
  rw [apply_obj, ← get?_membersOf target]
  exact get?_applyMembers _ h key

theorem memberApply_memberDiff_none (old : Option Json) :
    memberApply old (memberDiff old none) = none := by
  cases old <;> rfl

/-- A member comes out as wanted unless it is to become null or nulls below it are lost. -/
theorem memberApply_memberDiff_iff (old : Option Json) (new : Json)
    (hbelow : (apply (old.getD .null) (diff (old.getD .null) new)).same new = true ↔
      new.NullsIn (old.getD .null)) :
    (memberApply old (memberDiff old (some new))).map Json.canonical = some new.canonical ↔
      (new = .null → old = some .null) ∧ new.NullsIn (old.getD .null) := by
  rw [Json.same_iff] at hbelow
  cases old with
  | none =>
    change (memberApply none (some new)).map Json.canonical = _ ↔ _
    by_cases hnew : new = .null
    · subst hnew
      simp [memberApply]
    · have hdiff : diff .null new = new := by cases new <;> rfl
      rw [Option.getD_none, hdiff] at hbelow
      rw [memberApply_some _ hnew, Option.map_some, Option.some_inj, Option.getD_none, hbelow]
      simp [hnew]
  | some old =>
    rw [Option.getD_some] at hbelow ⊢
    by_cases hsame : old.same new = true
    · have hnull : new = .null → some old = some .null := by
        rintro rfl
        exact congrArg some (Json.canonical_eq_null_iff.1 (Json.same_iff.1 hsame))
      rw [memberDiff, if_pos hsame]
      change some old.canonical = some new.canonical ↔ _
      rw [Json.same_iff.1 hsame]
      exact iff_of_true rfl ⟨hnull, Json.nullsIn_of_same hsame⟩
    · rw [memberDiff, if_neg hsame]
      by_cases hnew : new = .null
      · subst hnew
        rw [(diff_eq_null_iff old .null).2 rfl]
        refine iff_of_false nofun fun h ↦ hsame ?_
        rw [Option.some.inj (h.1 rfl), Json.same_refl]
      · have hdiff : diff old new ≠ .null := fun h ↦ hnew ((diff_eq_null_iff old new).1 h)
        rw [memberApply_some _ hdiff, Option.map_some, Option.some_inj, Option.getD_some, hbelow]
        simp [hnew]

/-- A difference leads to the value it was made for just when no null has to be written. -/
theorem same_apply_diff_iff {before after : Json} (hbefore : before.WellFormed)
    (hafter : after.WellFormed) :
    (apply before (diff before after)).same after = true ↔ after.NullsIn before := by
  induction after using Json.memberInduction generalizing before with
  | step after ih =>
    cases after with
    | obj members =>
      obtain ⟨changes, hdiff, hchanges⟩ := diff_eq_obj hbefore hafter.sorted
      have hmembers := sorted_applyMembers changes (sorted_membersOf hbefore)
      have hlookup (key : String) :
          Members.get? (applyMembers (membersOf before) changes) key =
            memberApply (before.get? key)
              (memberDiff (before.get? key) (Members.get? members key)) := by
        have hmember : Members.get? changes key = _ := hdiff ▸ get?_diff before hafter.sorted key
        rw [get?_applyMembers _ hchanges, get?_membersOf, hmember]
      rw [hdiff, apply_obj, Json.same_obj_iff hmembers hafter.sorted, Json.nullsIn_iff]
      refine forall_congr' fun key ↦ ?_
      rw [hlookup]
      change _ ↔ ∀ child, Members.get? members key = some child → _
      cases hchild : Members.get? members key with
      | none => simp [memberApply_memberDiff_none]
      | some child =>
        have hbelow := ih key child hchild (hbefore.getD_null key) (hafter.get? hchild)
        simp only [Option.map_some, Option.some_inj, forall_eq']
        exact memberApply_memberDiff_iff _ child hbelow
    | null | bool _ | num _ | str _ | arr _ =>
      rw [diff_of_not_object before rfl, apply_of_not_object before rfl]
      exact iff_of_true (Json.same_refl _) (Json.nullsIn_of_get?_eq_none before fun _ ↦ rfl)

/-- The round trip through a merge patch, and the nulls that break it. -/
theorem merge_round_trip {before after : Json} (hbefore : before.WellFormed)
    (hafter : after.WellFormed) :
    ((apply before (diff before after)).same after = true ↔
        ∀ path, path ≠ [] → after.at? path = some .null → before.at? path = some .null) ∧
      ((∀ path, path ≠ [] → after.at? path ≠ some .null) →
        (apply before (diff before after)).same after = true) := by
  refine ⟨same_apply_diff_iff hbefore hafter, ?_⟩
  intro hnulls
  apply (same_apply_diff_iff hbefore hafter).2
  intro path hpath hnull
  exact absurd hnull (hnulls path hpath)

/-- A null that was there before is kept, also beside a member that goes. -/
theorem merge_round_trip_kept_null :
    let before : Json := .obj [("data", .obj [("a", .null), ("b", .int 1)])]
    let after : Json := .obj [("data", .obj [("a", .null)]), ("kind", .str "K")]
    before.WellFormed ∧ after.WellFormed ∧
      ((apply before (diff before after)).same after = true ↔
        ∀ path, path ≠ [] → after.at? path = some .null → before.at? path = some .null) ∧
      (apply before (diff before after)).same after = true :=
  ⟨by decide, by decide, (merge_round_trip (by decide) (by decide)).1, by decide⟩

end ClusterObjects.MergePatch
