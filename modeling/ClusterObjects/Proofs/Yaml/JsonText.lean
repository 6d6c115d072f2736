import ClusterObjects.Proofs.Yaml.FlowNode

/-!
# JSON texts as documents

The document that the compact text of an object makes is the object with its texts folded. It is
the object itself just when every text and every key is kept: their characters are allowed, no line
break without an escape changes a text, and every key is on one line and short.
-/

namespace ClusterObjects.Yaml

open Lexer Node

/-! ## Characters -/

/-- Whether a text in quotes has allowed characters only. -/
def isCarried (s : String) : Bool := s.toList.all fun c ↦ c.toNat < 32 || isAllowed c

theorem isAllowed_of_isWordPart {c : Char} (h : isWordPart c) : isAllowed c := by
  simp only [isWordPart, Bool.or_eq_true, beq_iff_eq] at h
  rcases h with ((h | rfl) | rfl) | rfl
  · exact isAllowed_of_isPrintable (isPrintable_of_isAlphanum h)
  all_goals rfl

theorem isAllowed_escape_iff (c : Char) :
    (∀ d ∈ Json.escape c, isAllowed d) ↔ c.toNat < 32 ∨ isAllowed c := by
  by_cases hcontrol : c.toNat < 32
  · -- Control characters are escaped with letters and digits.
    have hall : ∀ n < 32, (Json.escape (Char.ofNat n)).all isAllowed := by decide
    have hescape := hall c.toNat hcontrol
    rw [Char.ofNat_toNat, List.all_eq_true] at hescape
    exact iff_of_true hescape (.inl hcontrol)
  · rw [or_iff_right hcontrol]
    by_cases hquote : c = '"' ∨ c = '\\'
    · obtain rfl | rfl := hquote <;> exact iff_of_true (List.all_eq_true.mp rfl) rfl
    · have hself : Json.escape c = [c] := by
        have hne (d : Char) (hd : d.toNat < 32) : c ≠ d := fun heq ↦ hcontrol (heq ▸ hd)
        simp only [not_or] at hquote
        simp [Json.escape, hquote, hcontrol, hne]
      simp [hself]

theorem isAllowed_quoted_iff (s : String) : (∀ c ∈ Json.quoted s, isAllowed c) ↔ isCarried s := by
  have hquote : isAllowed '"' := rfl
  have hescaped : (∀ c ∈ s.toList.flatMap Json.escape, isAllowed c) ↔ isCarried s := by
    simp only [List.forall_mem_flatMap, isAllowed_escape_iff, isCarried, List.all_eq_true,
      Bool.or_eq_true, decide_eq_true_eq]
  rw [Json.quoted, List.forall_mem_cons, List.forall_mem_append, hescaped]
  simp [hquote]

mutual

/-- A text is refused for the characters in it that JSON does not escape. -/
theorem isAllowed_write_iff : (value : Json) →
    ((∀ c ∈ Json.write value, isAllowed c) ↔ value.EveryString isCarried isCarried)
  | .null => iff_of_true (List.all_eq_true.mp rfl) ⟨nofun, nofun⟩
  | .bool true | .bool false => iff_of_true (List.all_eq_true.mp rfl) ⟨nofun, nofun⟩
  | .num n => iff_of_true (fun c hc ↦ isAllowed_of_isWordPart ((isFlowWord_text n).parts c hc))
      ⟨nofun, nofun⟩
  | .str s => (isAllowed_quoted_iff s).trans Json.everyString_str.symm
  | .arr items => by
    have hbrackets : isAllowed '[' ∧ isAllowed ']' := ⟨rfl, rfl⟩
    rw [Json.write, writeItems_eq, List.forall_mem_cons, List.forall_mem_append,
      isAllowed_items_iff items true]
    simp [hbrackets]
  | .obj members => by
    have hbrackets : isAllowed '\x7b' ∧ isAllowed '\x7d' := ⟨rfl, rfl⟩
    rw [Json.write, writeMembers_eq, List.forall_mem_cons, List.forall_mem_append,
      isAllowed_members_iff members true]
    simp [hbrackets]

theorem isAllowed_items_iff : (items : List Json) → (first : Bool) →
    ((∀ c ∈ itemsText first items, isAllowed c) ↔
      (Json.arr items).EveryString isCarried isCarried)
  | [], _ => iff_of_true nofun ⟨nofun, nofun⟩
  | item :: rest, first => by
    rw [itemsText, List.forall_mem_append, List.forall_mem_append, isAllowed_write_iff item,
      isAllowed_items_iff rest false, Json.everyString_arr_cons, and_iff_right]
    cases first <;> exact List.all_eq_true.mp rfl

theorem isAllowed_members_iff : (members : Json.Members) → (first : Bool) →
    ((∀ c ∈ membersText first members, isAllowed c) ↔
      (Json.obj members).EveryString isCarried isCarried)
  | [], _ => iff_of_true nofun ⟨nofun, nofun⟩
  | (key, value) :: rest, first => by
    have hcolon : ∀ c ∈ [':'], isAllowed c := List.all_eq_true.mp rfl
    rw [membersText, List.forall_mem_append, List.forall_mem_append, List.forall_mem_append,
      List.forall_mem_append, isAllowed_quoted_iff, isAllowed_write_iff value,
      isAllowed_members_iff rest false, Json.everyString_obj_cons, and_iff_right,
      and_iff_left hcolon]
    cases first <;> exact List.all_eq_true.mp rfl

end

/-! ## What is kept -/

mutual

/-- What a value is read as is the value itself when its texts and its keys are left alone. -/
theorem folded?_eq_some_iff : (value : Json) → (folded? value = some value ↔
    value.EveryString (fun s ↦ isKept s.toList) fitsKey)
  | .null | .bool _ | .num _ => iff_of_true rfl ⟨nofun, nofun⟩
  | .str s => by
    rw [Json.everyString_str, ← fold_eq_some_iff, folded?]
    cases hfold : fold s.toList with
    | none => simp
    | some text =>
      have htext : String.ofList text = s ↔ text = s.toList :=
        ⟨fun h ↦ by rw [← h, String.toList_ofList], fun h ↦ by rw [h, String.ofList_toList]⟩
      simp [htext]
  | .arr items => by
    rw [folded?, ← itemsFolded?_eq_some_iff items]
    simp
  | .obj members => by
    rw [folded?, ← membersFolded?_eq_some_iff members]
    simp

theorem itemsFolded?_eq_some_iff : (items : List Json) → (itemsFolded? items = some items ↔
    (Json.arr items).EveryString (fun s ↦ isKept s.toList) fitsKey)
  | [] => iff_of_true rfl ⟨nofun, nofun⟩
  | item :: rest => by
    rw [Json.everyString_arr_cons, ← folded?_eq_some_iff item, ← itemsFolded?_eq_some_iff rest,
      itemsFolded?]
    simp [Option.bind_eq_some_iff]

theorem membersFolded?_eq_some_iff : (members : Json.Members) →
    (membersFolded? members = some members ↔
      (Json.obj members).EveryString (fun s ↦ isKept s.toList) fitsKey)
  | [] => iff_of_true rfl ⟨nofun, nofun⟩
  | (key, value) :: rest => by
    rw [Json.everyString_obj_cons, ← folded?_eq_some_iff value, ← membersFolded?_eq_some_iff rest,
      membersFolded?]
    cases fitsKey key <;> simp [Option.bind_eq_some_iff]

end

/-! ## Documents -/

theorem isSome_both {read? read?' : Option (List Token)} :
    (both read? read?').isSome ↔ read?.isSome ∧ read?'.isSome := by
  cases read? <;> cases read?' <;> simp [both]

mutual

/-- A value that is read has tokens. -/
theorem isSome_valueTokens? : (value : Json) → (folded? value).isSome → (valueTokens? value).isSome
  | .null, _ | .bool _, _ | .num _, _ => rfl
  | .str s, h => by
    rw [folded?, Option.isSome_map] at h
    rwa [valueTokens?, textTokens?, Option.isSome_map]
  | .arr items, h => by
    rw [folded?, Option.isSome_map] at h
    rw [valueTokens?, isSome_both, isSome_both]
    exact ⟨rfl, isSome_itemTokens? items true h, rfl⟩
  | .obj members, h => by
    rw [folded?, Option.isSome_map] at h
    rw [valueTokens?, isSome_both, isSome_both]
    exact ⟨rfl, isSome_memberTokens? members true h, rfl⟩

theorem isSome_itemTokens? : (items : List Json) → (first : Bool) →
    (itemsFolded? items).isSome → (itemTokens? first items).isSome
  | [], _, _ => rfl
  | item :: rest, first, h => by
    obtain ⟨_, h⟩ := Option.isSome_iff_exists.mp h
    obtain ⟨_, hitem, h⟩ := Option.bind_eq_some_iff.mp h
    obtain ⟨_, hrest, -⟩ := Option.bind_eq_some_iff.mp h
    rw [itemTokens?, isSome_both, isSome_both]
    exact ⟨rfl, isSome_valueTokens? item (Option.isSome_of_eq_some hitem),
      isSome_itemTokens? rest false (Option.isSome_of_eq_some hrest)⟩

theorem isSome_memberTokens? : (members : Json.Members) → (first : Bool) →
    (membersFolded? members).isSome → (memberTokens? first members).isSome
  | [], _, _ => rfl
  | (key, value) :: rest, first, h => by
    rw [membersFolded?] at h
    split at h
    · rename_i hfits
      obtain ⟨_, h⟩ := Option.isSome_iff_exists.mp h
      obtain ⟨_, hvalue, h⟩ := Option.bind_eq_some_iff.mp h
      obtain ⟨_, hrest, -⟩ := Option.bind_eq_some_iff.mp h
      rw [memberTokens?, isSome_both, isSome_both, isSome_both, keyTokens?, fold_of_fitsKey hfits]
      exact ⟨rfl, rfl, isSome_valueTokens? value (Option.isSome_of_eq_some hvalue),
        isSome_memberTokens? rest false (Option.isSome_of_eq_some hrest)⟩
    · exact nomatch h

end

theorem toList_loop (bytes : ByteArray) (i : Nat) (seen : List UInt8) :
    ByteArray.toList.loop bytes i seen = seen.reverse ++ bytes.data.toList.drop i := by
  fun_induction ByteArray.toList.loop bytes i seen with
  | case1 i seen hi ih =>
    have hsize : i < bytes.data.toList.length := hi
    have hget : bytes.get! i = bytes.data.toList[i] := by
      change bytes.data[i]! = _
      rw [getElem!_pos bytes.data i hi, Array.getElem_toList]
    rw [ih, hget, List.reverse_cons, List.append_assoc, List.singleton_append,
      List.getElem_cons_drop]
  | case2 i seen hi =>
    have hsize : bytes.data.toList.length ≤ i := Nat.le_of_not_lt hi
    rw [List.drop_of_length_le hsize, List.append_nil]

/-- The text of an object is not blank. -/
theorem not_all_isAsciiBlank (members : Json.Members) :
    ((Json.obj members).text.toUTF8.toList.all isAsciiBlank) = false := by
  rw [ByteArray.toList, toList_loop, List.drop_zero, String.toUTF8_eq_toByteArray, Json.text,
    String.toByteArray_ofList, List.utf8Encode, List.toList_data_toByteArray, Json.write]
  rfl

/-- The tree that an object's text makes. -/
theorem nodes?_text (members : Json.Members) : nodes? (Json.obj members).text.toUTF8 =
    if (Json.write (.obj members)).all isAllowed then
      (folded? (.obj members)).map fun folded ↦ [flowNode folded]
    else none := by
  simp only [nodes?, fromUTF8?_toUTF8, Option.bind_eq_bind, Option.bind_some, Json.text,
    String.toList_ofList]
  by_cases hallowed : (Json.write (.obj members)).all isAllowed
  · rw [if_pos hallowed, ofText?_write members hallowed]
    cases htokens : valueTokens? (.obj members) with
    | none =>
      have hnone : folded? (.obj members) = none := by
        by_contra hsome
        have htokens' := isSome_valueTokens? _ (Option.isSome_iff_ne_none.mpr hsome)
        rw [htokens] at htokens'
        exact absurd htokens' Bool.false_ne_true
      rw [hnone]
      rfl
    | some tokens =>
      have hboth : both (some tokens) (some [.streamEnd]) = some (tokens ++ [.streamEnd]) := rfl
      rw [hboth, Option.bind_some, documents?_object htokens]
  · rw [if_neg hallowed, Token.ofText?, if_neg hallowed]
    rfl

/-- The document that an object's text makes. -/
theorem document?_text {members : Json.Members} (h : Readable maxNesting (.obj members)) :
    document? (Json.obj members).text.toUTF8 =
      if (Json.write (.obj members)).all isAllowed then folded? (.obj members) else none := by
  rw [document?, not_all_isAsciiBlank, if_neg Bool.false_ne_true, node?, nodes?_text]
  split
  · cases hfolded : folded? (.obj members) with
    | none => rfl
    | some folded =>
      change (flowNode folded).toJson? = some folded
      rw [Node.toJson?, valueOf_flowNode _ _ hfolded _ _ h]
      rfl
  · rfl

/-- Whether a text is read as itself: its characters are allowed, and folding leaves it alone. -/
def keepsText (s : String) : Bool := isCarried s && isKept s.toList

/-- Whether a key is read as itself: it is a text on one line, of at most 1024 characters with its
quotes and escapes. -/
def keepsKey (key : String) : Bool := isCarried key && fitsKey key

/-- An object is read as itself when its texts and its keys are. -/
theorem document?_text_eq_some_iff {members : Json.Members}
    (h : Readable maxNesting (.obj members)) :
    document? (Json.obj members).text.toUTF8 = some (.obj members) ↔
      (Json.obj members).EveryString keepsText keepsKey := by
  rw [document?_text h, Option.ite_none_right_eq_some, folded?_eq_some_iff, List.all_eq_true,
    isAllowed_write_iff]
  exact Json.everyString_and.symm

end ClusterObjects.Yaml
