import Mathlib.Data.List.Nodup
import Mathlib.Data.List.Pairwise

/-!
# Association lists, seen through their lookups

Lists of keys and values stand for maps. What an operation does to the map is said by the lookups
after it, and lists in which each key stands once hold the same entries when their lookups agree.
-/

namespace ClusterObjects.Lookup

variable {α β γ : Type} [DecidableEq α] [BEq α] [LawfulBEq α]

theorem lookup_cons (key k : α) (value : β) (rest : List (α × β)) :
    ((k, value) :: rest).lookup key = if key = k then some value else rest.lookup key := by
  rw [List.lookup_cons]
  by_cases h : key = k
  · simp [h]
  · simp [h, beq_eq_false_iff_ne.2 h]

omit [DecidableEq α] in
theorem mem_of_lookup {entries : List (α × β)} {key : α} {value : β}
    (h : entries.lookup key = some value) : (key, value) ∈ entries := by
  obtain ⟨before, after, rfl, _⟩ := List.lookup_eq_some_iff.1 h
  simp

theorem lookup_of_mem {entries : List (α × β)} (hkeys : (entries.map Prod.fst).Nodup) {key : α}
    {value : β} (hmem : (key, value) ∈ entries) : entries.lookup key = some value := by
  induction entries with
  | nil => cases hmem
  | cons head rest ih =>
    obtain ⟨k, v⟩ := head
    obtain ⟨hfresh, hrest⟩ := List.nodup_cons.1 hkeys
    rw [lookup_cons]
    rcases List.mem_cons.1 hmem with heq | hbelow
    · cases heq
      exact if_pos rfl
    · have hne : key ≠ k := by
        intro heq
        exact hfresh (List.mem_map.2 ⟨(key, value), hbelow, heq⟩)
      rw [if_neg hne, ih hrest hbelow]

theorem lookup_filter_key (keep : α → Bool) (entries : List (α × β)) (key : α) :
    (entries.filter fun entry ↦ keep entry.1).lookup key =
      if keep key then entries.lookup key else none := by
  induction entries with
  | nil => simp
  | cons head rest ih =>
    obtain ⟨k, v⟩ := head
    rw [List.filter_cons, lookup_cons]
    by_cases hkey : key = k
    · subst hkey
      by_cases hkeep : keep key = true
      · simp [hkeep]
      · simp [hkeep, ih]
    · by_cases hkeep : keep k = true <;> simp [hkeep, hkey, lookup_cons, ih]

theorem lookup_map_value (f : β → γ) (entries : List (α × β)) (key : α) :
    (entries.map fun entry ↦ (entry.1, f entry.2)).lookup key = (entries.lookup key).map f := by
  induction entries with
  | nil => rfl
  | cons head rest ih =>
    obtain ⟨k, v⟩ := head
    rw [List.map_cons, lookup_cons, lookup_cons, ih]
    by_cases h : key = k <;> simp [h]

/-- Lists in which each key stands once are determined by their lookups, but for their order. -/
theorem perm_of_lookup_eq {first second : List (α × β)} (hfirst : (first.map Prod.fst).Nodup)
    (hsecond : (second.map Prod.fst).Nodup) (h : ∀ key, first.lookup key = second.lookup key) :
    first.Perm second := by
  refine (List.perm_ext_iff_of_nodup hfirst.of_map hsecond.of_map).2 fun entry ↦ ?_
  constructor
  · intro hmem
    exact mem_of_lookup (h entry.1 ▸ lookup_of_mem hfirst hmem)
  · intro hmem
    exact mem_of_lookup ((h entry.1).symm ▸ lookup_of_mem hsecond hmem)

end ClusterObjects.Lookup
