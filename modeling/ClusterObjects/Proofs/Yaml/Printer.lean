import ClusterObjects.Proofs.Yaml.Allowed
import ClusterObjects.Proofs.Yaml.Lexer
import ClusterObjects.Proofs.Yaml.Node
import ClusterObjects.Yaml.Value

/-!
# Printed mappings are read back

Settings are written as mappings whose keys are plain words and whose values are texts, truth
values, numbers and mappings again. What is printed of them is cut into tokens entry by entry, and
the tokens make the tree of the same entries, so nothing of a text is lost, whatever characters it
has.
-/

namespace ClusterObjects.Yaml

open Lexer Node
open Style (isGap isPrintable isSpace spaces)

/-- Values that settings are kept as. -/
inductive Settings : Json → Prop
  | text (s : String) : Settings (.str s)
  | bool (b : Bool) : Settings (.bool b)
  | number (n : Nat) : Settings (.int n)
  | mapping {members : Json.Members} (hne : members ≠ [])
    (hkeys : ∀ member ∈ members, IsWord member.1)
    (hvalues : ∀ member ∈ members, Settings member.2) : Settings (.obj members)

mutual

/-- The node that a value is written as. -/
def nodeOf : Json → Node
  | .null => scalar {} true "null"
  | .bool b => scalar {} true (toString b)
  | .num n => scalar {} true n.text
  | .str s => scalar {} (Style.ofText s == .plain) s
  | .arr items => sequence {} (itemNodes items)
  | .obj members => mapping {} (memberNodes members)

def itemNodes : List Json → List Node
  | [] => []
  | item :: rest => nodeOf item :: itemNodes rest

def memberNodes : Json.Members → List (Node × Node)
  | [] => []
  | (key, value) :: rest => (scalar {} true key, nodeOf value) :: memberNodes rest

end

/-! ## Plain words -/

theorem hasPair_of_not {p q : Char → Bool} {text : List Char} (h : ∀ c ∈ text, p c = false) :
    Style.hasPair p q text = false := by
  refine List.any_eq_false.mpr fun ⟨c, d⟩ hpair ↦ ?_
  simp [h c (List.of_mem_zip hpair).1]

/-- Letters and digits may always be written plainly. -/
theorem allowsPlain_of_isAlphanum {text : List Char} (h : ∀ c ∈ text, c.isAlphanum) :
    Style.allowsPlain text := by
  have hgap : ∀ c ∈ text, isGap c = false := fun c hc ↦ isGap_of_isAlphanum (h c hc)
  have hbreak : ∀ c ∈ text, isBreak c = false := fun c hc ↦ (Bool.or_eq_false_iff.mp (hgap c hc)).2
  have hspace : ∀ c ∈ text, isSpace c = false := fun c hc ↦ by
    simpa [isSpace] using ne_of_isAlphanum (h c hc) (show ' '.isAlphanum = false by rfl)
  have hcolon : ∀ c ∈ text, (c == ':') = false := fun c hc ↦ by
    simpa using ne_of_isAlphanum (h c hc) (show ':'.isAlphanum = false by rfl)
  have hprintable : text.all isPrintable :=
    List.all_eq_true.mpr fun c hc ↦ isPrintable_of_isAlphanum (h c hc)
  have hlines : text.any isBreak = false := List.any_eq_false.mpr fun c hc ↦ by simp [hbreak c hc]
  have hfirst : text.head?.any isSpace = false := by
    cases hhead : text.head? with
    | none => rfl
    | some c => exact hspace c (List.mem_of_mem_head? hhead)
  have hlast : text.getLast?.any isSpace = false ∧ (text.getLast? == some ':') = false := by
    cases hlast : text.getLast? with
    | none => exact ⟨rfl, rfl⟩
    | some c =>
      have hc := List.mem_of_getLast? hlast
      exact ⟨hspace c hc, by simpa using hcolon c hc⟩
  have hopens : Style.opensStructure text = false := by
    rcases text with _ | ⟨c, rest⟩
    · rfl
    · have hc := h c List.mem_cons_self
      have hne (d : Char) (hd : d.isAlphanum = false) : c ≠ d := ne_of_isAlphanum hc hd
      simp [Style.opensStructure, isMark_of_isAlphanum hc, hne '-' rfl, hne '?' rfl, hne ':' rfl,
        hne '.' rfl]
  simp [Style.allowsPlain, Style.allowsSingle, Style.needsEscape, Style.holdsStructure, hprintable,
    hlines, hfirst, hlast, hopens, hasPair_of_not hspace, hasPair_of_not hbreak,
    hasPair_of_not hcolon, hasPair_of_not hgap]

theorem toList_text (n : Nat) : (Number.int n).text.toList = Nat.toDigits 10 n := by
  simp [Number.text, Int.repr]

theorem isAlphanum_of_mem_text {n : Nat} {c : Char} (h : c ∈ (Number.int n).text.toList) :
    c.isAlphanum := by
  rw [toList_text] at h
  simp [Char.isAlphanum, Nat.isDigit_of_mem_toDigits (by decide) (by decide) h]

/-! ## Entries -/

section Entries

variable {column : Nat} {key : String} {value : Json} {rest : Json.Members}

theorem memberValue_begins (column : Nat) (value : Json) :
    ∃ d more, memberValue column value = d :: more ∧ isGap d := by
  cases value with
  | null => exact ⟨' ', "null".toList, rfl, rfl⟩
  | bool b => exact ⟨' ', (toString b).toList, rfl, rfl⟩
  | num n => exact ⟨' ', n.text.toList, rfl, rfl⟩
  | str s => exact ⟨' ', Style.write (column + 2) s, rfl, rfl⟩
  | arr items =>
    cases items with
    | nil => exact ⟨' ', "[]".toList, rfl, rfl⟩
    | cons item items => exact ⟨'\n', _, rfl, rfl⟩
  | obj members =>
    cases members with
    | nil => exact ⟨' ', "\x7b\x7d".toList, rfl, rfl⟩
    | cons member members => exact ⟨'\n', _, rfl, rfl⟩

theorem blockMembers_singleton (hkey : IsWord key) :
    blockMembers column [(key, value)] = key.toList ++ ':' :: memberValue column value := by
  rw [blockMembers, Style.write, hkey.plain, if_pos hkey.simple]

theorem blockMembers_cons {member : String × Json} (hkey : IsWord key) :
    blockMembers column ((key, value) :: member :: rest) =
      key.toList ++ ':' :: (memberValue column value ++ lineEnd (memberValue column value) ++
        spaces column ++ blockMembers column (member :: rest)) := by
  obtain ⟨d, more, hvalue, -⟩ := memberValue_begins column value
  have hline : lineEnd (key.toList ++ ':' :: memberValue column value) =
      lineEnd (memberValue column value) := by
    rw [lineEnd_append _ (List.cons_ne_nil _ _), lineEnd_cons _ (by simp [hvalue])]
  rw [blockMembers, Style.write, hkey.plain, if_pos hkey.simple, nextEntry]
  change key.toList ++ ':' :: memberValue column value ++
    (lineEnd (key.toList ++ ':' :: memberValue column value) ++ spaces column) ++ _ = _
  rw [hline]
  simp

theorem exists_blockMembers_eq (column : Nat) (value : Json) (rest : Json.Members)
    (hkey : IsWord key) :
    ∃ d more, blockMembers column ((key, value) :: rest) = d :: more ∧ d.isAlphanum := by
  obtain ⟨d, word, hword⟩ := List.exists_cons_of_ne_nil hkey.nonempty
  have hd : d.isAlphanum := hkey.alphanumeric d (by simp [hword])
  cases rest with
  | nil => exact ⟨d, _, by rw [blockMembers_singleton hkey, hword, List.cons_append], hd⟩
  | cons member rest => exact ⟨d, _, by rw [blockMembers_cons hkey, hword, List.cons_append], hd⟩

theorem blockMembers_ne_nil (column : Nat) (value : Json) (rest : Json.Members)
    (hkey : IsWord key) : blockMembers column ((key, value) :: rest) ≠ [] := by
  obtain ⟨d, more, hbegins, -⟩ := exists_blockMembers_eq column value rest hkey
  exact hbegins ▸ List.cons_ne_nil d more

theorem fresh_blockMembers (column : Nat) (value : Json) (rest : Json.Members) (hkey : IsWord key)
    (text : List Char) : Fresh (blockMembers column ((key, value) :: rest) ++ text) := by
  obtain ⟨d, more, hbegins, hd⟩ := exists_blockMembers_eq column value rest hkey
  rw [hbegins]
  exact fresh_of_isAlphanum hd _

/-- The entries of a mapping in a column are read as tokens, up to what begins in the column or left
of it, and the mapping is open from the first of them on. -/
def ReadsMembers (column : Nat) (members : Json.Members) (entries : List Token) : Prop :=
  ∀ (c : Cursor) (n : Nat) (indent : Int) (outer outer' : List Int) (tokens tokens' : List Token)
    (tail : List Char), Opened column indent outer tokens outer' tokens' → n ≤ column → Fresh tail →
    c.column = column →
    c.rest =
      blockMembers column members ++ lineEnd (blockMembers column members) ++ spaces n ++ tail →
    ∃ next, next.rest = tail ∧ next.column = n ∧
      Reads (entry c indent outer tokens) (entry next column outer' (entries.reverse ++ tokens'))

/-- One entry is read, up to whatever stands behind it. -/
theorem reads_member {valueTokens : List Token} (hkey : IsWord key)
    (hvalue : ReadsValue column (memberValue column value) valueTokens)
    {c : Cursor} {n : Nat} {indent : Int} {outer outer' : List Int} {tokens tokens' : List Token}
    {tail : List Char} (hopened : Opened column indent outer tokens outer' tokens')
    (hn : n ≤ column) (htail : Fresh tail) (hcolumn : c.column = column)
    (hrest : c.rest = key.toList ++ ':' :: (memberValue column value ++
      lineEnd (memberValue column value) ++ spaces n ++ tail)) :
    ∃ next, next.rest = tail ∧ next.column = n ∧ Reads (entry c indent outer tokens)
      (entry next column outer'
        (valueTokens.reverse ++ .value :: .scalar true key :: .key :: tokens')) := by
  obtain ⟨d, more, hbegins, hgap⟩ := memberValue_begins column value
  have hmore : (memberValue column value ++ lineEnd (memberValue column value) ++ spaces n ++
      tail).head?.all isGap := by
    simp [hbegins, hgap]
  have hkeyRead := reads_key hkey (hcolumn.symm ▸ hopened) hmore hrest
  rw [hcolumn] at hkeyRead
  have hskip : (c.skip (key.toList.length + 1)).rest = memberValue column value ++
      lineEnd (memberValue column value) ++ spaces n ++ tail := Cursor.rest_skip_append_cons hrest
  obtain ⟨next, hnext, hnextColumn, hread⟩ := hvalue _ n outer' _ tail hn htail
    (by simp only [Cursor.skip]; omega) hskip
  exact ⟨next, hnext, hnextColumn, hkeyRead.trans hread⟩

theorem readsMembers_singleton {valueTokens : List Token} (hkey : IsWord key)
    (hvalue : ReadsValue column (memberValue column value) valueTokens) :
    ReadsMembers column [(key, value)] (.key :: .scalar true key :: .value :: valueTokens) := by
  intro c n indent outer outer' tokens tokens' tail hopened hn htail hcolumn hrest
  obtain ⟨d, more, hbegins, -⟩ := memberValue_begins column value
  rw [blockMembers_singleton hkey, lineEnd_append _ (List.cons_ne_nil _ _),
    lineEnd_cons _ (by simp [hbegins])] at hrest
  obtain ⟨next, hnext, hnextColumn, hread⟩ := reads_member hkey hvalue hopened hn htail hcolumn
    (by simpa using hrest)
  exact ⟨next, hnext, hnextColumn, by simpa using hread⟩

theorem ReadsMembers.cons {member : String × Json} {valueTokens entries : List Token}
    (hkey : IsWord key) (hnextKey : IsWord member.1)
    (hvalue : ReadsValue column (memberValue column value) valueTokens)
    (hmembers : ReadsMembers column (member :: rest) entries) :
    ReadsMembers column ((key, value) :: member :: rest)
      (.key :: .scalar true key :: .value :: valueTokens ++ entries) := by
  intro c n indent outer outer' tokens tokens' tail hopened hn htail hcolumn hrest
  have hline : lineEnd (blockMembers column ((key, value) :: member :: rest)) =
      lineEnd (blockMembers column (member :: rest)) := by
    rw [blockMembers_cons hkey, lineEnd_append _ (List.cons_ne_nil _ _), ← List.cons_append,
      lineEnd_append _ (blockMembers_ne_nil column member.2 rest hnextKey)]
  rw [hline, blockMembers_cons hkey] at hrest
  obtain ⟨next, hnext, hnextColumn, hread⟩ := reads_member hkey hvalue hopened (Nat.le_refl column)
    (fresh_blockMembers column member.2 rest hnextKey _) hcolumn (by simpa using hrest)
  obtain ⟨last, hlast, hlastColumn, hreads⟩ := hmembers next n column outer' outer' _ _ tail .before
    hn htail hnextColumn (by simpa using hnext)
  exact ⟨last, hlast, hlastColumn, by simpa using hread.trans hreads⟩

/-- A mapping below its key is read as the tokens of its entries. -/
theorem ReadsMembers.readsValue {members : Json.Members} {entries : List Token}
    (h : ReadsMembers (column + 2) members entries) (hne : members ≠ [])
    (hkeys : ∀ member ∈ members, IsWord member.1) :
    ReadsValue column (memberValue column (.obj members))
      (.blockMapping :: entries ++ [.blockEnd]) := by
  intro c n outer tokens tail hn htail hcolumn hrest
  obtain ⟨⟨key, value⟩, rest, rfl⟩ := List.exists_cons_of_ne_nil hne
  have hkey := hkeys (key, value) List.mem_cons_self
  have hvalue : memberValue column (.obj ((key, value) :: rest)) =
      '\n' :: spaces (column + 2) ++ blockMembers (column + 2) ((key, value) :: rest) := rfl
  rw [hvalue, lineEnd_append _ (blockMembers_ne_nil (column + 2) value rest hkey)] at hrest
  obtain ⟨first, hfirst, hfirstColumn, hread⟩ := reads_line column outer tokens
    (fresh_blockMembers (column + 2) value rest hkey _) (by simpa using hrest)
  obtain ⟨next, hnext, hnextColumn, hreads⟩ := h first n column outer _ tokens _ tail
    (.now (by omega)) (by omega) htail hfirstColumn (by simpa using hfirst)
  have hclosed : Reads (entry next (column + 2 : Nat) (column :: outer)
      (entries.reverse ++ .blockMapping :: tokens))
      (entry next column outer (.blockEnd :: (entries.reverse ++ .blockMapping :: tokens))) := by
    have hnextFresh : Fresh next.rest := hnext ▸ htail
    refine .of_settle_eq ?_ (Nat.le_refl _)
    rw [settle_entry hnextFresh, settle_entry hnextFresh, unindent_entry (by omega)]
  exact ⟨next, hnext, hnextColumn, by simpa using (hread.trans hreads).trans hclosed⟩

end Entries

/-! ## Whole documents -/

/-- A value is written so that its tokens make its node, in whatever column it stands. -/
def RoundTrips (value : Json) : Prop :=
  ∃ tokens, (∀ column, ReadsValue column (memberValue column value) tokens) ∧
    Parses tokens (nodeOf value)

theorem roundTrips_plain {value : Json} (text : List Char)
    (hvalue : ∀ column, memberValue column value = ' ' :: text)
    (hnode : nodeOf value = scalar {} true (String.ofList text)) (hne : text ≠ [])
    (hallows : Style.allowsPlain text) : RoundTrips value := by
  refine ⟨[.scalar true (String.ofList text)], fun column ↦ ?_, ?_⟩
  · rw [hvalue]
    exact readsValue_plain column hne hallows
  · rw [hnode]
    exact parses_scalar true _

/-- The entries of a mapping are read back when their values are. -/
theorem exists_entries {members : Json.Members} (hne : members ≠ [])
    (hkeys : ∀ member ∈ members, IsWord member.1)
    (hvalues : ∀ member ∈ members, RoundTrips member.2) :
    ∃ entries, (∀ column, ReadsMembers column members entries) ∧
      ParsesEntries entries (memberNodes members) := by
  induction members with
  | nil => exact absurd rfl hne
  | cons member rest ih =>
    obtain ⟨key, value⟩ := member
    obtain ⟨hkey, hrestKeys⟩ := List.forall_mem_cons.mp hkeys
    obtain ⟨⟨tokens, hreads, hparses⟩, hrestValues⟩ := List.forall_mem_cons.mp hvalues
    cases rest with
    | nil =>
      refine ⟨_, fun column ↦ readsMembers_singleton hkey (hreads column), ?_⟩
      simpa [memberNodes] using ParsesEntries.cons key hparses parsesEntries_nil
    | cons next rest =>
      obtain ⟨entries, hreadsRest, hparsesRest⟩ := ih (List.cons_ne_nil _ _) hrestKeys hrestValues
      exact ⟨_, fun column ↦ .cons hkey (hrestKeys next List.mem_cons_self) (hreads column)
        (hreadsRest column), .cons key hparses hparsesRest⟩

theorem Settings.roundTrips {value : Json} (h : Settings value) : RoundTrips value := by
  induction h with
  | text s =>
    exact ⟨[textToken s], fun column ↦ readsValue_text column s, parses_scalar _ _⟩
  | bool b =>
    refine roundTrips_plain (toString b).toList (fun _ ↦ rfl) ?_ ?_ ?_
    · rw [String.ofList_toList]
      rfl
    · cases b <;> decide
    · cases b <;> decide
  | number n =>
    refine roundTrips_plain (Number.int n).text.toList (fun _ ↦ rfl) ?_ ?_ ?_
    · rw [String.ofList_toList]
      rfl
    · rw [toList_text]
      exact Nat.toDigits_ne_nil
    · exact allowsPlain_of_isAlphanum fun c hc ↦ isAlphanum_of_mem_text hc
  | mapping hne hkeys _ ih =>
    obtain ⟨entries, hreads, hparses⟩ := exists_entries hne hkeys ih
    exact ⟨_, fun column ↦ (hreads (column + 2)).readsValue hne hkeys,
      Parses.mapping hparses⟩

/-! ## Characters -/

theorem isAllowed_blockMembers {column : Nat} {members : Json.Members}
    (hkeys : ∀ member ∈ members, IsWord member.1)
    (hvalues : ∀ member ∈ members, ∀ c ∈ memberValue column member.2, isAllowed c) :
    ∀ c ∈ blockMembers column members, isAllowed c := by
  induction members with
  | nil => nofun
  | cons member rest ih =>
    obtain ⟨key, value⟩ := member
    obtain ⟨hkey, hrestKeys⟩ := List.forall_mem_cons.mp hkeys
    obtain ⟨hvalue, hrestValues⟩ := List.forall_mem_cons.mp hvalues
    have hname : ∀ c ∈ key.toList, isAllowed c := fun c hc ↦
      isAllowed_of_isPrintable (isPrintable_of_isAlphanum (hkey.alphanumeric c hc))
    have hcolon : isAllowed ':' := by decide
    cases rest with
    | nil =>
      rw [blockMembers_singleton hkey]
      simpa [or_imp, forall_and] using ⟨hname, hcolon, hvalue⟩
    | cons next rest =>
      rw [blockMembers_cons hkey]
      simpa [or_imp, forall_and] using ⟨hname, hcolon, hvalue, isAllowed_lineEnd _,
        isAllowed_spaces column, ih hrestKeys hrestValues⟩

theorem Settings.allowed {value : Json} (h : Settings value) (column : Nat) :
    ∀ c ∈ memberValue column value, isAllowed c := by
  induction h generalizing column with
  | text s => exact List.forall_mem_cons.mpr ⟨by decide, isAllowed_write _ s⟩
  | bool b =>
    have hword : ∀ b : Bool, (' ' :: (toString b).toList).all isAllowed := by decide
    exact List.all_eq_true.mp (hword b)
  | number n =>
    exact List.forall_mem_cons.mpr ⟨by decide, fun c hc ↦
      isAllowed_of_isPrintable (isPrintable_of_isAlphanum (isAlphanum_of_mem_text hc))⟩
  | @mapping members hne hkeys _ ih =>
    obtain ⟨member, rest, rfl⟩ := List.exists_cons_of_ne_nil hne
    have hmembers := isAllowed_blockMembers hkeys fun member hmember ↦
      ih member hmember (column + 2)
    have hbreak : isAllowed '\n' := by decide
    change ∀ c ∈ '\n' :: spaces (column + 2) ++ blockMembers (column + 2) (member :: rest), _
    simpa [or_imp, forall_and] using ⟨hbreak, isAllowed_spaces (column + 2), hmembers⟩

/-- The tokens of a printed mapping. -/
theorem ofText?_print {members : Json.Members} {entries : List Token} (hne : members ≠ [])
    (hentries : ReadsMembers 0 members entries)
    (hallowed : ∀ c ∈ blockMembers 0 members, isAllowed c) :
    Token.ofText? (print (.obj members)).toList =
      some (.blockMapping :: (entries ++ [.blockEnd, .streamEnd])) := by
  have hprint : (print (.obj members)).toList =
      blockMembers 0 members ++ lineEnd (blockMembers 0 members) ++ spaces 0 ++ [] := by
    obtain ⟨member, rest, rfl⟩ := List.exists_cons_of_ne_nil hne
    rw [List.append_nil, List.append_assoc]
    exact String.toList_ofList
  have hfresh : Fresh [] := nofun
  rw [hprint, Token.ofText?, if_pos]
  · obtain ⟨next, hnext, hcolumn, hreads⟩ := hentries (Cursor.ofText _) 0 (-1) [] [-1] []
      [.blockMapping] [] (.now (by decide)) (Nat.le_refl 0) hfresh rfl rfl
    obtain ⟨left, hleft, hrun⟩ := hreads _ (Nat.lt_succ_self _)
    obtain ⟨left, rfl⟩ := Nat.exists_eq_add_of_lt hleft
    have hend : run (next.rest.length + left + 1)
        (entry next 0 [-1] (entries.reverse ++ [.blockMapping])) =
          some { entry next (-1) [] (.streamEnd :: .blockEnd :: (entries.reverse ++
            [.blockMapping])) with keyAllowed := false } := by
      have hsettle : (entry next 0 [-1] (entries.reverse ++ [.blockMapping])).settle =
          some (entry next 0 [-1] (entries.reverse ++ [.blockMapping])) := by
        rw [settle_entry (hnext ▸ hfresh), unindent_of_le (by simp [entry])]
      have hpeek : next.peek = none := by rw [Cursor.peek, hnext]; rfl
      rw [run_succ, hsettle, Option.bind_some]
      simp only [entry, hpeek]
      rfl
    change (run _ (entry (Cursor.ofText _) (-1) [] [])).map _ = _
    refine (congrArg _ (hrun.trans hend)).trans ?_
    simp [entry]
  · have hline := isAllowed_lineEnd (blockMembers 0 members)
    simpa [spaces, or_imp, forall_and] using ⟨hallowed, hline⟩

theorem fromUTF8?_toUTF8 (text : String) : String.fromUTF8? text.toUTF8 = some text := by
  unfold String.fromUTF8?
  rw [String.toUTF8_eq_toByteArray, dif_pos text.isValidUTF8]
  rfl

/-- What is printed of settings is read back as their node. -/
theorem node?_print {members : Json.Members} (h : Settings (.obj members)) :
    node? (print (.obj members)).toUTF8 = some (nodeOf (.obj members)) := by
  cases h with
  | mapping hne hkeys hvalues =>
    obtain ⟨entries, hreads, hparses⟩ := exists_entries hne hkeys fun member hmember ↦
      (hvalues member hmember).roundTrips
    have htokens := ofText?_print hne (hreads 0) (isAllowed_blockMembers hkeys fun member hmember ↦
      (hvalues member hmember).allowed 0)
    have hdocuments := documents?_mapping hparses
    simp only [node?, nodes?, fromUTF8?_toUTF8, Option.bind_eq_bind, Option.bind_some, htokens,
      hdocuments]
    rfl

end ClusterObjects.Yaml
