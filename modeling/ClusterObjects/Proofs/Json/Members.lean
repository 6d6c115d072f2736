import ClusterObjects.Json.Basic
import ClusterObjects.Proofs.Lookup
import Mathlib.Data.String.Basic

/-!
# Members of an object, seen by their keys

What an insertion or a removal does to a list of members is said by the lookups after it, and so is
what many of them do one after another. Lists that are in the order of their keys are determined by
their lookups.
-/

namespace ClusterObjects.Json

namespace Members

@[simp] theorem get?_nil (key : String) : get? [] key = none := rfl

theorem get?_cons (k : String) (v : Json) (rest : Members) (key : String) :
    get? ((k, v) :: rest) key = if key = k then some v else get? rest key :=
  Lookup.lookup_cons key k v rest

theorem mem_of_get? {members : Members} {key : String} {value : Json}
    (h : get? members key = some value) : (key, value) ∈ members := Lookup.mem_of_lookup h

theorem get?_insert (key : String) (value : Json) (members : Members) (k : String) :
    get? (insert key value members) k = if k = key then some value else get? members k := by
  induction members with
  | nil => rw [insert, get?_cons]
  | cons member rest ih =>
    obtain ⟨l, v⟩ := member
    rw [insert]
    by_cases hlt : key < l
    · rw [if_pos hlt, get?_cons]
    rw [if_neg hlt]
    by_cases heq : key = l
    · subst heq
      rw [if_pos rfl, get?_cons, get?_cons]
      by_cases h : k = key <;> simp [h]
    · rw [if_neg heq, get?_cons, get?_cons, ih]
      by_cases h : k = l
      · subst h
        simp [Ne.symm heq]
      · simp [h]

theorem insert_insert (key : String) (value old : Json) (members : Members) :
    insert key value (insert key old members) = insert key value members := by
  induction members with
  | nil => simp [insert]
  | cons member rest ih =>
    obtain ⟨l, v⟩ := member
    simp only [insert]
    split_ifs with hlt heq <;> simp [insert, *]

theorem insert_comm {first second : String} (h : first < second) (value other : Json)
    (members : Members) :
    insert first value (insert second other members) =
      insert second other (insert first value members) := by
  have hne : second ≠ first := h.ne'
  have hle : ¬ second < first := h.not_gt
  induction members with
  | nil => simp [insert, h, hne, hle]
  | cons member rest ih =>
    obtain ⟨l, v⟩ := member
    rcases lt_trichotomy first l with hfirst | rfl | hfirst
    · rcases lt_trichotomy second l with hsecond | rfl | hsecond <;>
        simp [insert, *, ne_of_gt, not_lt_of_gt]
    · simp [insert, *]
    · have hsecond := hfirst.trans h
      simp [insert, *, ne_of_gt, not_lt_of_gt]

theorem insertNew_of_get?_eq_none {key : String} {members : Members}
    (h : get? members key = none) (value : Json) :
    insertNew key value members = insert key value members := by
  unfold insertNew contains
  rw [h]
  rfl

theorem get?_insertNew (key : String) (value : Json) (members : Members) (k : String) :
    get? (insertNew key value members) k =
      if k = key then some ((get? members key).getD value) else get? members k := by
  unfold insertNew contains
  cases hold : get? members key with
  | none =>
    rw [Option.isSome_none, if_neg Bool.false_ne_true, get?_insert]
    rfl
  | some old =>
    rw [Option.isSome_some, if_pos rfl]
    by_cases h : k = key
    · rw [if_pos h, h, hold]
      rfl
    · rw [if_neg h]

theorem insertNew_insert {first second : String} (h : first < second) (value other : Json)
    (members : Members) :
    insertNew first value (insert second other members) =
      insert second other (insertNew first value members) := by
  unfold insertNew contains
  rw [get?_insert, if_neg h.ne, insert_comm h]
  split <;> rfl

theorem get?_filter_key (keep : String → Bool) (members : Members) (key : String) :
    get? (members.filter fun member ↦ keep member.1) key =
      if keep key then get? members key else none :=
  Lookup.lookup_filter_key keep members key

theorem get?_erase (members : Members) (key k : String) :
    get? (erase members key) k = if k = key then none else get? members k := by
  unfold erase
  rw [get?_filter_key (· != key)]
  by_cases h : k = key <;> simp [h]

theorem get?_map_value (f : Json → Json) (members : Members) (key : String) :
    get? (members.map fun member ↦ (member.1, f member.2)) key = (get? members key).map f :=
  Lookup.lookup_map_value f members key

theorem mem_insert {key : String} {value : Json} {members : Members} {member : String × Json}
    (h : member ∈ insert key value members) : member = (key, value) ∨ member ∈ members := by
  induction members with
  | nil => simpa [insert] using h
  | cons head rest ih =>
    obtain ⟨l, v⟩ := head
    unfold insert at h
    split_ifs at h with hlt heq
    · simpa using h
    · rcases List.mem_cons.1 h with h | h
      · exact .inl h
      · exact .inr (List.mem_cons_of_mem _ h)
    · rcases List.mem_cons.1 h with h | h
      · exact .inr (h ▸ List.mem_cons_self)
      · exact (ih h).imp_right (List.mem_cons_of_mem _)

theorem Sorted.insert {members : Members} (h : Sorted members) (key : String) (value : Json) :
    Sorted (Members.insert key value members) := by
  induction members with
  | nil => exact List.pairwise_singleton _ _
  | cons head rest ih =>
    obtain ⟨l, v⟩ := head
    obtain ⟨hhead, hrest⟩ := List.pairwise_cons.1 h
    unfold Members.insert
    split_ifs with hlt heq
    · refine List.pairwise_cons.2 ⟨?_, h⟩
      intro member hmember
      rcases List.mem_cons.1 hmember with rfl | hmember
      · exact hlt
      · exact hlt.trans (hhead member hmember)
    · subst heq
      exact List.pairwise_cons.2 ⟨hhead, hrest⟩
    · refine List.pairwise_cons.2 ⟨?_, ih hrest⟩
      intro member hmember
      rcases mem_insert hmember with rfl | hmember
      · exact lt_of_le_of_ne (not_lt.1 hlt) (Ne.symm heq)
      · exact hhead member hmember

theorem Sorted.insertNew {members : Members} (h : Sorted members) (key : String) (value : Json) :
    Sorted (Members.insertNew key value members) := by
  unfold Members.insertNew
  split
  · exact h
  · exact h.insert key value

theorem Sorted.filter {members : Members} (h : Sorted members) (keep : String × Json → Bool) :
    Sorted (members.filter keep) := List.Pairwise.filter keep h

theorem Sorted.erase {members : Members} (h : Sorted members) (key : String) :
    Sorted (Members.erase members key) := h.filter _

theorem Sorted.map_value {members : Members} (h : Sorted members) (f : Json → Json) :
    Sorted (members.map fun member ↦ (member.1, f member.2)) :=
  List.pairwise_map.2 h

theorem Sorted.nodup_keys {members : Members} (h : Sorted members) :
    (members.map Prod.fst).Nodup := by
  unfold Sorted at h
  exact List.pairwise_map.2 (h.imp fun hlt ↦ hlt.ne)

theorem Sorted.get?_tail {k : String} {v : Json} {rest : Members} (h : Sorted ((k, v) :: rest)) :
    get? rest k = none := by
  unfold get?
  rw [List.lookup_eq_none_iff]
  intro member hmember
  exact bne_iff_ne.2 ((List.pairwise_cons.1 h).1 member hmember).ne

/-- Members in order are determined by their lookups. -/
theorem Sorted.ext {first second : Members} (hfirst : Sorted first) (hsecond : Sorted second)
    (h : ∀ key, get? first key = get? second key) : first = second := by
  have hperm : first.Perm second :=
    Lookup.perm_of_lookup_eq hfirst.nodup_keys hsecond.nodup_keys h
  unfold Sorted at hfirst hsecond
  refine List.Perm.eq_of_pairwise ?_ hfirst hsecond hperm
  intro a b _ _ hab hba
  exact absurd (hab.trans hba) (lt_irrefl _)

/-- Carries changes of members out, one after another. Null removes a member; what any other change
makes of the member there is given by a function. -/
def carryOut (result : Option Json → Json → Json) (members : Members) :
    (changes : Members) → Members
  | [] => members
  | (key, change) :: rest =>
    carryOut result
      (if change = .null then erase members key
        else insert key (result (get? members key) change) members) rest

/-- What becomes of a member when the change at its key is carried out. -/
def carried (result : Option Json → Json → Json) (old : Option Json) :
    (change : Option Json) → Option Json
  | none => old
  | some change => if change = .null then none else some (result old change)

theorem Sorted.carryOut {members : Members} (h : Sorted members)
    (result : Option Json → Json → Json) (changes : Members) :
    Sorted (Members.carryOut result members changes) := by
  induction changes generalizing members with
  | nil => exact h
  | cons head rest ih =>
    obtain ⟨key, change⟩ := head
    refine ih ?_
    split
    · exact h.erase key
    · exact h.insert key _

theorem get?_carryOut (result : Option Json → Json → Json) (members : Members)
    {changes : Members} (h : Sorted changes) (key : String) :
    get? (carryOut result members changes) key =
      carried result (get? members key) (get? changes key) := by
  induction changes generalizing members with
  | nil => rfl
  | cons head rest ih =>
    obtain ⟨k, change⟩ := head
    have hrest : Sorted rest := (List.pairwise_cons.1 h).2
    rw [carryOut, ih _ hrest, get?_cons]
    by_cases hkey : key = k
    · subst hkey
      rw [h.get?_tail, if_pos rfl]
      change get? (if change = .null then _ else _) key = if change = .null then _ else _
      by_cases hnull : change = .null
      · rw [if_pos hnull, if_pos hnull, get?_erase, if_pos rfl]
      · rw [if_neg hnull, if_neg hnull, get?_insert, if_pos rfl]
    · rw [if_neg hkey]
      congr 1
      by_cases hnull : change = .null
      · rw [if_pos hnull, get?_erase, if_neg hkey]
      · rw [if_neg hnull, get?_insert, if_neg hkey]

/-! ## Members from a list -/

theorem sorted_ofList (entries : List (String × Json)) : Sorted (ofList entries) := by
  have hfold (built : Members) (h : Sorted built) :
      Sorted (entries.foldl (fun built entry ↦ built.insert entry.1 entry.2) built) := by
    induction entries generalizing built with
    | nil => exact h
    | cons entry rest ih => exact ih _ (h.insert entry.1 entry.2)
  exact hfold [] List.Pairwise.nil

theorem mem_ofList {entries : List (String × Json)} {member : String × Json}
    (h : member ∈ ofList entries) : member ∈ entries := by
  have hfold (entries : List (String × Json)) (built : Members)
      (h : member ∈ entries.foldl (fun built entry ↦ built.insert entry.1 entry.2) built) :
      member ∈ entries ∨ member ∈ built := by
    induction entries generalizing built with
    | nil => exact .inr h
    | cons entry rest ih =>
      rcases ih _ h with hrest | hbuilt
      · exact .inl (List.mem_cons_of_mem _ hrest)
      · rcases mem_insert hbuilt with rfl | hbuilt
        · exact .inl List.mem_cons_self
        · exact .inr hbuilt
  exact (hfold entries [] h).resolve_right List.not_mem_nil

/-- A list that names each key once is read by its keys. -/
theorem get?_ofList {entries : List (String × Json)} (h : (entries.map Prod.fst).Nodup)
    (key : String) : get? (ofList entries) key = entries.lookup key := by
  have hfold (built : Members) :
      get? (entries.foldl (fun built entry ↦ built.insert entry.1 entry.2) built) key =
        (entries.lookup key).or (get? built key) := by
    induction entries generalizing built with
    | nil => rfl
    | cons entry rest ih =>
      obtain ⟨k, value⟩ := entry
      obtain ⟨hfresh, hrest⟩ := List.nodup_cons.1 h
      rw [List.foldl_cons, ih hrest, get?_insert, Lookup.lookup_cons]
      by_cases hkey : key = k
      · subst hkey
        have hnone : rest.lookup key = none := by
          rw [List.lookup_eq_none_iff]
          intro other hother
          exact bne_iff_ne.2 fun heq ↦ hfresh (List.mem_map.2 ⟨other, hother, heq.symm⟩)
        simp [hnone]
      · simp [hkey]
  exact (hfold []).trans Option.or_none

/-- Members in order are the list of themselves. -/
theorem Sorted.ofList_eq {members : Members} (h : Sorted members) : ofList members = members :=
  (sorted_ofList members).ext h (get?_ofList h.nodup_keys)

end Members

end ClusterObjects.Json
