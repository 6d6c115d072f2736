import ClusterObjects.Proofs.Json.Value

/-!
# Places inside objects

A path of keys names a place that is reached through objects alone, never through an array. A null
at such a place is what a merge patch has no word for, so `NullsIn` says which nulls of one value
stand at the same place in another.
-/

namespace ClusterObjects.Json

/-- The value at the end of a path of keys. -/
def at? (value : Json) : (path : List String) → Option Json
  | [] => some value
  | key :: path => (value.get? key).bind (·.at? path)

@[simp] theorem at?_nil (value : Json) : value.at? [] = some value := rfl

theorem at?_cons (value : Json) (key : String) (path : List String) :
    value.at? (key :: path) = (value.get? key).bind (·.at? path) := rfl

theorem at?_null {path : List String} (h : path ≠ []) : null.at? path = none := by
  cases path with
  | nil => exact absurd rfl h
  | cons key path => rfl

theorem at?_cons_getD_null (value : Json) (key : String) {path : List String} (h : path ≠ []) :
    value.at? (key :: path) = ((value.get? key).getD .null).at? path := by
  rw [at?_cons]
  cases value.get? key with
  | none => exact (at?_null h).symm
  | some child => rfl

theorem at?_canonical (value : Json) (path : List String) :
    value.canonical.at? path = (value.at? path).map canonical := by
  induction path generalizing value with
  | nil => rfl
  | cons key path ih =>
    rw [at?_cons, at?_cons, get?_canonical]
    cases value.get? key with
    | none => rfl
    | some child => exact ih child

theorem at?_concat (value : Json) (path : List String) (key : String) :
    value.at? (path ++ [key]) = (value.at? path).bind (·.get? key) := by
  induction path generalizing value with
  | nil =>
    rw [List.nil_append, at?_cons]
    exact Option.bind_fun_some _
  | cons first rest ih =>
    rw [List.cons_append, at?_cons, at?_cons]
    cases value.get? first with
    | none => rfl
    | some child => exact ih child

/-- Values that are the same have the same at every place. -/
theorem at?_of_same {first second : Json} (h : first.same second = true) (path : List String) :
    (first.at? path).map canonical = (second.at? path).map canonical := by
  rw [← at?_canonical, ← at?_canonical, same_iff.1 h]

/-- Every null below the root of a value that a path of keys leads to is one of the other value,
too. -/
def NullsIn (value other : Json) : Prop :=
  ∀ path : List String, path ≠ [] → value.at? path = some .null → other.at? path = some .null

theorem nullsIn_iff (value other : Json) :
    value.NullsIn other ↔ ∀ key child, value.get? key = some child →
      (child = .null → other.get? key = some .null) ∧
        child.NullsIn ((other.get? key).getD .null) := by
  constructor
  · intro h key child hchild
    refine ⟨?_, ?_⟩
    · rintro rfl
      have hpath := h [key] (List.cons_ne_nil _ _) (by simp [at?_cons, hchild])
      simpa [at?_cons] using hpath
    · intro path hpath hnull
      rw [← at?_cons_getD_null other key hpath]
      apply h _ (List.cons_ne_nil _ _)
      rw [at?_cons, hchild]
      exact hnull
  · intro h path hpath hnull
    cases path with
    | nil => exact absurd rfl hpath
    | cons key path =>
      obtain ⟨child, hchild, hnull⟩ := Option.bind_eq_some_iff.1 hnull
      obtain ⟨hroot, hbelow⟩ := h key child hchild
      by_cases hend : path = []
      · subst hend
        rw [at?_cons, hroot (Option.some.inj hnull)]
        rfl
      · rw [at?_cons_getD_null other key hend]
        exact hbelow path hend hnull

theorem nullsIn_of_same {value other : Json} (h : other.same value = true) :
    value.NullsIn other := by
  intro path _ hnull
  have hpath : (other.at? path).map canonical = some .null := by
    rw [← at?_canonical, same_iff.1 h, at?_canonical, hnull]
    rfl
  obtain ⟨child, hchild, hcanonical⟩ := Option.map_eq_some_iff.1 hpath
  rw [hchild, canonical_eq_null_iff.1 hcanonical]

theorem nullsIn_of_get?_eq_none {value : Json} (other : Json) (h : ∀ key, value.get? key = none) :
    value.NullsIn other := by
  refine (nullsIn_iff value other).2 fun key child hchild ↦ ?_
  rw [h key] at hchild
  cases hchild

/-- No null stands below the root. -/
theorem nullsIn_null_iff (value : Json) :
    value.NullsIn .null ↔ ∀ path, path ≠ [] → value.at? path ≠ some .null := by
  constructor
  · intro h path hpath hnull
    have hfound := h path hpath hnull
    rw [at?_null hpath] at hfound
    cases hfound
  · intro h path hpath hnull
    exact absurd hnull (h path hpath)

theorem nullsIn_null_of_members {members : Members}
    (h : ∀ member ∈ members, member.2 ≠ .null ∧ member.2.NullsIn .null) :
    (obj members).NullsIn .null := by
  refine (nullsIn_iff _ _).2 fun key child hchild ↦ ?_
  obtain ⟨hnull, hbelow⟩ := h (key, child) (Members.mem_of_get? hchild)
  exact ⟨fun h ↦ absurd h hnull, hbelow⟩

end ClusterObjects.Json
