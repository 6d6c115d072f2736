import ClusterObjects.Patch.Pointer
import ClusterObjects.Proofs.Json.Value
import Mathlib.Data.List.Basic

/-!
# Places that pointers lead to

A token names a member of an object by its key, or an item of an array by its index in decimal. What
stands at the end of a pointer can be looked up and be replaced, and the two obey the laws of a
place: what was put there is found there, the last replacement counts, and a pointer can be followed
in two parts. The text of a pointer is read back as the pointer, whatever its tokens hold.
-/

namespace ClusterObjects

open Json (Members)

/-! ## Texts of pointers -/

namespace Pointer

theorem parseFrom_escape (token : List Char) (cs rest : List Char) :
    parseFrom token (cs.flatMap escapeChar ++ rest) = parseFrom (cs.reverse ++ token) rest := by
  induction cs generalizing token with
  | nil => rfl
  | cons c cs ih =>
    rw [List.flatMap_cons, List.append_assoc, List.reverse_cons, List.append_assoc,
      List.singleton_append, ← ih]
    unfold escapeChar
    by_cases htilde : c = '~'
    · subst htilde
      rfl
    rw [if_neg htilde]
    by_cases hslash : c = '/'
    · subst hslash
      rfl
    rw [if_neg hslash]
    simp [parseFrom, htilde]

theorem parseFrom_text (token : List Char) (pointer : Pointer) :
    parseFrom token (pointer.flatMap writeToken) =
      some (String.ofList token.reverse :: pointer) := by
  induction pointer generalizing token with
  | nil => rfl
  | cons first rest ih =>
    have hfirst : parseFrom [] (first.toList.flatMap escapeChar ++ rest.flatMap writeToken) =
        some (first :: rest) := by
      rw [parseFrom_escape, ih]
      simp
    rw [List.flatMap_cons, writeToken, List.cons_append, parseFrom, hfirst]
    rfl

/-- A pointer is read back from its text. -/
theorem parse?_text (pointer : Pointer) : parse? pointer.text = some pointer := by
  unfold parse? text
  rw [String.toList_ofList]
  cases pointer with
  | nil => rfl
  | cons first rest =>
    rw [List.flatMap_cons, writeToken, List.cons_append]
    change parseFrom [] _ = _
    rw [parseFrom_escape, parseFrom_text]
    simp

/-- What is read into tokens is the text of the tokens: nothing but escapes was taken apart. -/
theorem text_of_parseFrom {token cs : List Char} {pointer : Pointer}
    (h : parseFrom token cs = some pointer) :
    '/' :: (token.reverse.flatMap escapeChar ++ cs) = pointer.flatMap writeToken := by
  fun_induction parseFrom token cs generalizing pointer with
  | case1 token =>
    obtain rfl := Option.some.inj h
    simp [writeToken]
  | case2 token cs ih =>
    obtain ⟨rest, hrest, rfl⟩ := Option.map_eq_some_iff.1 h
    rw [List.flatMap_cons, ← ih hrest]
    simp [writeToken]
  | case3 token cs ih => simpa [escapeChar] using ih h
  | case4 token cs ih => simpa [escapeChar] using ih h
  | case5 => cases h
  | case6 token c cs hslash _ _ htilde ih =>
    have hplain : escapeChar c = [c] := by
      rw [escapeChar, if_neg htilde, if_neg hslash]
    simpa [hplain] using ih h

/-- The texts that are read as pointers are those that pointers have. -/
theorem parse?_eq_some_iff {text : String} {pointer : Pointer} :
    parse? text = some pointer ↔ text = pointer.text := by
  refine ⟨fun h ↦ ?_, fun h ↦ h ▸ parse?_text pointer⟩
  unfold parse? at h
  rw [← String.toList_inj, Pointer.text, String.toList_ofList]
  split at h
  · next hempty =>
    obtain rfl := Option.some.inj h
    exact hempty
  · next cs htext =>
    rw [htext]
    exact text_of_parseFrom h
  · cases h

/-- The index that a token stands for: a decimal without needless zeros. -/
def index? (token : String) : Option Nat :=
  let index := Nat.ofDigitChars 10 token.toList 0
  if toString index = token then some index else none

@[simp] theorem index?_repr (index : Nat) : index? index.repr = some index := by
  have hvalue : Nat.ofDigitChars 10 index.repr.toList 0 = index := by
    rw [Nat.toList_repr]
    exact Nat.ofDigitChars_ten_toDigits
  unfold index?
  rw [hvalue]
  exact if_pos rfl

end Pointer

/-! ## Parts of a collection -/

namespace Json

/-- The part of a collection that a token names. -/
def child? : Json → (token : String) → Option Json
  | obj members, token => Members.get? members token
  | arr items, token => (Pointer.index? token).bind fun index ↦ items[index]?
  | _, _ => none

/-- The collection with another part in place of the one that a token names. -/
def withChild (value : Json) (token : String) (child : Json) : Json :=
  match value with
  | obj members => obj (Members.insert token child members)
  | arr items => arr (((Pointer.index? token).map fun index ↦ items.set index child).getD items)
  | value => value

variable {value old : Json} {token : String}

theorem exists_index_of_child? {items : List Json} (h : (arr items).child? token = some old) :
    ∃ index, Pointer.index? token = some index ∧ items[index]? = some old :=
  Option.bind_eq_some_iff.1 h

theorem child?_withChild (h : value.child? token = some old) (new : Json) :
    (value.withChild token new).child? token = some new := by
  cases value with
  | obj members =>
    change Members.get? (Members.insert token new members) token = some new
    rw [Members.get?_insert, if_pos rfl]
  | arr items =>
    obtain ⟨index, hindex, hitem⟩ := exists_index_of_child? h
    obtain ⟨hlt, -⟩ := List.getElem?_eq_some_iff.1 hitem
    simp [withChild, child?, hindex, hlt]
  | null | bool _ | num _ | str _ => cases h

theorem withChild_withChild (value : Json) (token : String) (first second : Json) :
    (value.withChild token first).withChild token second = value.withChild token second := by
  cases value with
  | obj members => exact congrArg obj (Members.insert_insert token second first members)
  | arr items => cases hindex : Pointer.index? token <;> simp [withChild, hindex]
  | null | bool _ | num _ | str _ => rfl

theorem withChild_self (hvalue : value.WellFormed) (h : value.child? token = some old) :
    value.withChild token old = value := by
  cases value with
  | obj members =>
    refine congrArg obj ((hvalue.sorted.insert token old).ext hvalue.sorted fun key ↦ ?_)
    rw [Members.get?_insert]
    split_ifs with hkey
    · rw [hkey]
      exact h.symm
    · rfl
  | arr items =>
    obtain ⟨index, hindex, hitem⟩ := exists_index_of_child? h
    obtain ⟨hlt, rfl⟩ := List.getElem?_eq_some_iff.1 hitem
    simp [withChild, hindex]
  | null | bool _ | num _ | str _ => rfl

theorem itemsWellFormed_iff (items : List Json) :
    itemsWellFormed items ↔ ∀ item ∈ items, item.WellFormed := by
  induction items with
  | nil => simp [itemsWellFormed]
  | cons head rest ih => simp [itemsWellFormed, ih]

theorem WellFormed.child? (hvalue : value.WellFormed) (h : value.child? token = some old) :
    old.WellFormed := by
  cases value with
  | obj members => exact hvalue.get? h
  | arr items =>
    obtain ⟨index, -, hitem⟩ := exists_index_of_child? h
    exact (itemsWellFormed_iff items).1 hvalue old (List.mem_of_getElem? hitem)
  | null | bool _ | num _ | str _ => cases h

theorem WellFormed.insert {members : Members} (h : (obj members).WellFormed) (key : String)
    {new : Json} (hnew : new.WellFormed) : (obj (Members.insert key new members)).WellFormed := by
  refine ⟨h.sorted.insert key new, (membersWellFormed_iff _).2 fun member hmember ↦ ?_⟩
  rcases Members.mem_insert hmember with rfl | hold
  · exact hnew
  · exact (membersWellFormed_iff members).1 h.2 member hold

theorem WellFormed.erase {members : Members} (h : (obj members).WellFormed) (key : String) :
    (obj (Members.erase members key)).WellFormed := by
  refine ⟨h.sorted.erase key, (membersWellFormed_iff _).2 fun member hmember ↦ ?_⟩
  exact (membersWellFormed_iff members).1 h.2 member (List.mem_of_mem_filter hmember)

theorem WellFormed.withChild (hvalue : value.WellFormed) (token : String) {new : Json}
    (hnew : new.WellFormed) : (value.withChild token new).WellFormed := by
  cases value with
  | obj members => exact hvalue.insert token hnew
  | arr items =>
    refine (itemsWellFormed_iff _).2 fun item hitem ↦ ?_
    have hitems := (itemsWellFormed_iff items).1 hvalue
    cases hindex : Pointer.index? token with
    | none => exact hitems item (by simpa [hindex] using hitem)
    | some index =>
      have hset : item ∈ items.set index new := by simpa [hindex] using hitem
      rcases List.mem_or_eq_of_mem_set hset with hold | rfl
      · exact hitems item hold
      · exact hnew
  | null | bool _ | num _ | str _ => trivial

/-! ## What stands at the end of a pointer -/

/-- The value at the end of a pointer. -/
def resolve? (value : Json) : Pointer → Option Json
  | [] => some value
  | token :: rest => (value.child? token).bind (·.resolve? rest)

/-- The value with another one at the end of a pointer, where there is one. -/
def replaceAt (value : Json) (pointer : Pointer) (new : Json) : Json :=
  match pointer with
  | [] => new
  | token :: rest =>
    match value.child? token with
    | some child => value.withChild token (child.replaceAt rest new)
    | none => value

theorem resolve?_append (value : Json) (front back : Pointer) :
    value.resolve? (front ++ back) = (value.resolve? front).bind (·.resolve? back) := by
  induction front generalizing value with
  | nil => rfl
  | cons token rest ih =>
    rw [List.cons_append, resolve?, resolve?]
    cases value.child? token with
    | none => rfl
    | some child => exact ih child

theorem replaceAt_cons {child : Json} (h : value.child? token = some child) (rest : Pointer)
    (new : Json) :
    value.replaceAt (token :: rest) new = value.withChild token (child.replaceAt rest new) := by
  rw [replaceAt, h]

/-- A pointer can be followed in two parts. -/
theorem replaceAt_append {front : Pointer} (h : value.resolve? front = some old) (back : Pointer)
    (new : Json) :
    value.replaceAt (front ++ back) new = value.replaceAt front (old.replaceAt back new) := by
  induction front generalizing value with
  | nil =>
    obtain rfl := Option.some.inj h
    rfl
  | cons token rest ih =>
    obtain ⟨child, hchild, hbelow⟩ := Option.bind_eq_some_iff.1 h
    rw [List.cons_append, replaceAt_cons hchild, replaceAt_cons hchild, ih hbelow]

/-- What was put at a place is found there. -/
theorem resolve?_replaceAt {pointer : Pointer} (h : value.resolve? pointer = some old)
    (new : Json) : (value.replaceAt pointer new).resolve? pointer = some new := by
  induction pointer generalizing value with
  | nil => rfl
  | cons token rest ih =>
    obtain ⟨child, hchild, hbelow⟩ := Option.bind_eq_some_iff.1 h
    rw [replaceAt_cons hchild, resolve?, child?_withChild hchild]
    exact ih hbelow

/-- Of two replacements at a place the second counts. -/
theorem replaceAt_replaceAt {pointer : Pointer} (h : value.resolve? pointer = some old)
    (first second : Json) :
    (value.replaceAt pointer first).replaceAt pointer second = value.replaceAt pointer second := by
  induction pointer generalizing value with
  | nil => rfl
  | cons token rest ih =>
    obtain ⟨child, hchild, hbelow⟩ := Option.bind_eq_some_iff.1 h
    rw [replaceAt_cons hchild, replaceAt_cons (child?_withChild hchild _), replaceAt_cons hchild,
      withChild_withChild, ih hbelow]

/-- To put what is there already changes nothing. -/
theorem replaceAt_self {pointer : Pointer} (hvalue : value.WellFormed)
    (h : value.resolve? pointer = some old) : value.replaceAt pointer old = value := by
  induction pointer generalizing value with
  | nil => exact (Option.some.inj h).symm
  | cons token rest ih =>
    obtain ⟨child, hchild, hbelow⟩ := Option.bind_eq_some_iff.1 h
    rw [replaceAt_cons hchild, ih (hvalue.child? hchild) hbelow, withChild_self hvalue hchild]

theorem WellFormed.replaceAt {pointer : Pointer} (hvalue : value.WellFormed)
    (h : value.resolve? pointer = some old) {new : Json} (hnew : new.WellFormed) :
    (value.replaceAt pointer new).WellFormed := by
  induction pointer generalizing value with
  | nil => exact hnew
  | cons token rest ih =>
    obtain ⟨child, hchild, hbelow⟩ := Option.bind_eq_some_iff.1 h
    rw [replaceAt_cons hchild]
    exact hvalue.withChild token (ih (hvalue.child? hchild) hbelow)

end Json

end ClusterObjects
