import ClusterObjects.Json.Basic

/-!
# Merge patches

A merge patch names the members to change: null removes a member, an object is merged into the
member, and any other value replaces it. `diff` is the patch from one value to another, `apply`
carries a patch out. Arrays are replaced as a whole.
-/

namespace ClusterObjects.MergePatch

open Json (Members)

/-- The old members that are gone, each as null. -/
def removed (before after : Members) : Members :=
  (before.filter fun (key, _) ↦ !Members.contains after key).map fun (key, _) ↦ (key, .null)

mutual

/-- The patch that turns `before` into `after`. -/
def diff (before after : Json) : Json :=
  match before, after with
  | .obj old, .obj new => .obj (changed old new (removed old new))
  | _, after => after

/-- Adds to a patch the members of `after` that differ from the old value's. -/
def changed (before : Members) : (after : Members) → (patch : Members) → Members
  | [], patch => patch
  | (key, new) :: rest, patch =>
    let patch :=
      match Members.get? before key with
      | none => Members.insert key new patch
      | some old => if old.same new then patch else Members.insert key (diff old new) patch
    changed before rest patch

end

mutual

/-- Carries a patch out on a value; whatever is no object counts as an empty one. -/
def apply (target patch : Json) : Json :=
  match patch with
  | .obj changes =>
    let members := match target with
      | .obj members => members
      | _ => []
    .obj (applyMembers members changes)
  | patch => patch

def applyMembers (members : Members) : (changes : Members) → Members
  | [] => members
  | (key, change) :: rest =>
    let members :=
      match change with
      | .null => Members.erase members key
      | change => Members.insert key (apply ((Members.get? members key).getD .null) change) members
    applyMembers members rest

end

end ClusterObjects.MergePatch
