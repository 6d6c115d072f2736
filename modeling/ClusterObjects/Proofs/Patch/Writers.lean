import ClusterObjects.Proofs.Patch.Merge

/-!
# Merge patches beside other writers

Between the reading of an object and the arrival of a patch others may have written to the object.
A difference says nothing about the places at which its two values agree, and so it leaves those
places of the live value as they are, whatever has become of the live value there or above them.
-/

namespace ClusterObjects.MergePatch

open Json (Members)

theorem memberDiff_of_same {old new : Option Json}
    (h : old.map Json.canonical = new.map Json.canonical) : memberDiff old new = none := by
  cases old with
  | none => exact (Option.map_eq_none_iff.1 h.symm)
  | some old =>
    cases new with
    | none => cases h
    | some new => exact if_pos (Json.same_iff.2 (Option.some.inj h))

/-- There is no difference between two objects that are the same. -/
theorem diff_of_same {before : Json} {members : Members} (hbefore : before.WellFormed)
    (hmembers : members.Sorted) (hsame : before.same (.obj members) = true) :
    diff before (.obj members) = .obj [] := by
  obtain ⟨changes, hdiff, hchanges⟩ := diff_eq_obj hbefore hmembers
  rw [hdiff]
  refine congrArg Json.obj (hchanges.ext List.Pairwise.nil fun key ↦ ?_)
  have hmember : Members.get? changes key = _ := hdiff ▸ get?_diff before hmembers key
  have hlookup := congrArg (Json.get? · key) (Json.same_iff.1 hsame)
  simp only [Json.get?_canonical] at hlookup
  exact hmember.trans (memberDiff_of_same hlookup)

/-- Below the root, a place at which two values agree is left alone by their difference. The live
value need not be an object, nor need there be one above the place. -/
theorem at?_apply_diff {before after : Json} (hbefore : before.WellFormed)
    (hafter : after.WellFormed) {path : List String} (hpath : path ≠ []) {old new : Json}
    (hold : before.at? path = some old) (hnew : after.at? path = some new)
    (hsame : old.same new = true) (live : Json) :
    (apply live (diff before after)).at? path = live.at? path := by
  induction path generalizing before after live with
  | nil => exact absurd rfl hpath
  | cons key path ih =>
    obtain ⟨oldChild, holdChild, holdBelow⟩ := Option.bind_eq_some_iff.1 hold
    obtain ⟨newChild, hnewChild, hnewBelow⟩ := Option.bind_eq_some_iff.1 hnew
    cases after with
    | obj members =>
      obtain ⟨changes, hdiff, hchanges⟩ := diff_eq_obj hbefore hafter.sorted
      have hmember : Members.get? changes key = memberDiff (some oldChild) (some newChild) := by
        have h : Members.get? changes key = _ := hdiff ▸ get?_diff before hafter.sorted key
        rw [h, holdChild]
        exact congrArg (memberDiff _) hnewChild
      rw [hdiff, Json.at?_cons, get?_apply live hchanges, hmember]
      by_cases hchild : oldChild.same newChild = true
      · rw [memberDiff, if_pos hchild]
        rfl
      · -- The children differ, so the place is further down, and the patch descends into the child.
        have hbelow : path ≠ [] := by
          rintro rfl
          obtain rfl := Option.some.inj holdBelow
          obtain rfl := Option.some.inj hnewBelow
          exact hchild hsame
        have hchange : diff oldChild newChild ≠ .null := by
          intro hnull
          rw [(diff_eq_null_iff _ _).1 hnull, Json.at?_null hbelow] at hnewBelow
          cases hnewBelow
        rw [memberDiff, if_neg hchild, memberApply_some _ hchange, Option.bind_some,
          ih (hbefore.get? holdChild) (hafter.get? hnewChild) hbelow holdBelow hnewBelow,
          ← Json.at?_cons_getD_null live key hbelow]
    | null | bool _ | num _ | str _ | arr _ => cases hnewChild

/-- A difference between two objects, carried out on any object, leaves every place alone at which
the two agree: what was there is there, and what was not there is not. -/
theorem patch_leaves_agreement {before after live : Json} (hbefore : before.WellFormed)
    (hafter : after.WellFormed) (hobject : after.isObject = true)
    (hliveObject : live.isObject = true) {path : List String} {old new : Json}
    (hold : before.at? path = some old) (hnew : after.at? path = some new)
    (hsame : old.same new = true) :
    (apply live (diff before after)).at? path = live.at? path := by
  by_cases hpath : path = []
  · subst hpath
    obtain rfl := Option.some.inj hold
    obtain rfl := Option.some.inj hnew
    cases after with
    | obj members =>
      rw [diff_of_same hbefore hafter.sorted hsame]
      cases live with
      | obj _ => rfl
      | null | bool _ | num _ | str _ | arr _ => cases hliveObject
    | null | bool _ | num _ | str _ | arr _ => cases hobject
  · exact at?_apply_diff hbefore hafter hpath hold hnew hsame live

/-- A label is changed while others scale the object and take the other labels away. -/
theorem patch_leaves_agreement_scaled :
    let before : Json := .obj [("metadata", .obj [("labels", .obj [("app", .str "web"),
      ("tier", .str "front")])]), ("spec", .obj [("replicas", .int 1)])]
    let after : Json := .obj [("metadata", .obj [("labels", .obj [("app", .str "web"),
      ("tier", .str "back")])]), ("spec", .obj [("replicas", .int 1)])]
    let live : Json := .obj [("metadata", .obj [("labels", .null)]),
      ("spec", .obj [("replicas", .int 3)])]
    before.WellFormed ∧ after.WellFormed ∧
      (apply live (diff before after)).at? ["metadata", "labels", "tier"] = some (.str "back") ∧
      (apply live (diff before after)).at? ["spec", "replicas"] = some (.int 3) ∧
      (apply live (diff before after)).at? ["metadata", "labels", "app"] = none := by
  intro before after live
  have hbefore : before.WellFormed := by decide +kernel
  have hafter : after.WellFormed := by decide +kernel
  have hobject : after.isObject = true := rfl
  have hlive : live.isObject = true := rfl
  have hreplicas : before.at? ["spec", "replicas"] = some (.int 1) := rfl
  have hstillReplicas : after.at? ["spec", "replicas"] = some (.int 1) := rfl
  have happ : before.at? ["metadata", "labels", "app"] = some (.str "web") := rfl
  have hstillApp : after.at? ["metadata", "labels", "app"] = some (.str "web") := rfl
  refine ⟨hbefore, hafter, by decide +kernel, ?_, ?_⟩
  · exact patch_leaves_agreement hbefore hafter hobject hlive hreplicas hstillReplicas
      (Json.same_refl _)
  · exact patch_leaves_agreement hbefore hafter hobject hlive happ hstillApp (Json.same_refl _)

end ClusterObjects.MergePatch
