import ClusterObjects.Proofs.Yaml.Block
import ClusterObjects.Proofs.Yaml.Quoted
import ClusterObjects.Yaml.Printer
import ClusterObjects.Yaml.Token.Lexer

/-!
# Tokens of printed mappings

A printed mapping is cut into the tokens that it was made of. One state of the lexer leads to
another when it reads on from there, and the states that matter are two: at the start of an entry,
where a key may begin, and behind the colon of a key. What stands behind a colon is a text in the
style that was chosen for it, and is read as the scalar of that text.
-/

namespace ClusterObjects.Yaml

open Style (isGap isPrintable isSpace spaces)

namespace Lexer

/-! ## From state to state -/

/-- Skips to the next token, and closes the collections that end before it. -/
def settle (lexer : Lexer) : Option Lexer :=
  ((lexer.skipToToken (lexer.cursor.rest.length + 1)).dropStaleKeys).map fun lexer ↦
    lexer.unindent lexer.cursor.column

theorem run_succ (fuel : Nat) (lexer : Lexer) :
    run (fuel + 1) lexer = lexer.settle.bind fun lexer ↦
      match lexer.cursor.peek with
      | none => lexer.readEnd
      | some d => (lexer.readToken d).bind (run fuel) := by
  rw [run, settle]
  cases (lexer.skipToToken (lexer.cursor.rest.length + 1)).dropStaleKeys <;> rfl

/-- The lexer comes to a later state, from where it reads on. -/
def Reads (lexer later : Lexer) : Prop :=
  ∀ fuel, lexer.cursor.rest.length < fuel →
    ∃ left, later.cursor.rest.length < left ∧ run fuel lexer = run left later

namespace Reads

variable {lexer later last : Lexer}

theorem trans (h : Reads lexer later) (h' : Reads later last) : Reads lexer last := by
  intro fuel hfuel
  obtain ⟨left, hleft, hrun⟩ := h fuel hfuel
  obtain ⟨left', hleft', hrun'⟩ := h' left hleft
  exact ⟨left', hleft', hrun.trans hrun'⟩

/-- States from where the same token is read next are one to the lexer. -/
theorem of_settle_eq (h : lexer.settle = later.settle)
    (hrest : later.cursor.rest.length ≤ lexer.cursor.rest.length) : Reads lexer later := by
  intro fuel hfuel
  obtain ⟨fuel, rfl⟩ := Nat.exists_eq_add_of_le' (show 1 ≤ fuel by omega)
  exact ⟨fuel + 1, by omega, by rw [run_succ, run_succ, h]⟩

theorem of_token {settled : Lexer} {d : Char} (hsettle : lexer.settle = some settled)
    (hpeek : settled.cursor.peek = some d) (htoken : settled.readToken d = some later)
    (hrest : later.cursor.rest.length < lexer.cursor.rest.length) : Reads lexer later := by
  intro fuel hfuel
  obtain ⟨fuel, rfl⟩ := Nat.exists_eq_add_of_le' (show 1 ≤ fuel by omega)
  refine ⟨fuel, by omega, ?_⟩
  rw [run_succ, hsettle, Option.bind_some, hpeek]
  simp only [htoken, Option.bind_some]

end Reads

/-! ## Blanks between tokens -/

end Lexer

theorem Cursor.skipWhile_eq {p : Char → Bool} {front more : List Char} {c : Cursor}
    (hfront : ∀ d ∈ front, (p d && !isBreak d) = true)
    (hmore : ∀ d ∈ more.head?, (p d && !isBreak d) = false) (hrest : c.rest = front ++ more) :
    c.skipWhile p = c.skip front.length := by
  have htake : (front ++ more).takeWhile (fun d ↦ p d && !isBreak d) = front := by
    rw [List.takeWhile_append_of_pos hfront]
    rcases more with _ | ⟨d, more⟩
    · simp
    · rw [List.takeWhile_cons_of_neg (by simp [hmore d rfl]), List.append_nil]
  rw [skipWhile, span, hrest, htake]

namespace Lexer

variable {lexer : Lexer}

theorem skipToToken_fresh (fuel : Nat) {k : Nat} {more : List Char} (hmore : Fresh more)
    (hrest : lexer.cursor.rest = spaces k ++ more) :
    lexer.skipToToken (fuel + 1) = { lexer with cursor := lexer.cursor.skip k } := by
  have hmark : lexer.cursor.is byteOrderMark = false := by
    rw [Cursor.is_eq, hrest, beq_eq_false_iff_ne]
    cases k with
    | zero => exact fun h ↦ (hmore _ h).2.2 rfl
    | succ k => exact fun h ↦ absurd (Option.some.inj h) (by decide)
  have hskip := Cursor.rest_skip_spaces hrest
  have hcomment : (lexer.cursor.skip k).is '#' = false := by
    rw [Cursor.is_eq, hskip, beq_eq_false_iff_ne]
    exact fun h ↦ (hmore _ h).2.1 rfl
  have hgap (d : Char) (hd : d ∈ more.head?) : isBlank d = false ∧ isBreak d = false :=
    Bool.or_eq_false_iff.mp (hmore d hd).1
  have hbreak : (lexer.cursor.skip k).sees isBreak = false :=
    sees_eq_false fun d hd ↦ (hgap d (hskip ▸ hd)).2
  have hblanks (tabs : Bool) : lexer.cursor.skipWhile (fun d ↦ d == ' ' || (tabs && d == '\t')) =
      lexer.cursor.skip k := by
    have hspaces : ∀ d ∈ spaces k, ((d == ' ' || (tabs && d == '\t')) && !isBreak d) = true := by
      intro d hd
      rw [List.eq_of_mem_replicate hd]
      rfl
    rw [Cursor.skipWhile_eq hspaces (fun d hd ↦ ?_) hrest, spaces, List.length_replicate]
    have hblank := (hgap d hd).1
    simp only [isBlank, Bool.or_eq_false_iff] at hblank
    simp [hblank]
  rw [skipToToken]
  simp only [hmark, Bool.and_false, Bool.false_eq_true, if_false, hblanks, hcomment, hbreak]

theorem skipToToken_break (fuel : Nat) {more : List Char}
    (hrest : lexer.cursor.rest = '\n' :: more) (hflow : lexer.flow = 0) :
    lexer.skipToToken (fuel + 1) =
      { lexer with cursor := lexer.cursor.nextLine, keyAllowed := true }.skipToToken fuel := by
  have hmark : lexer.cursor.is byteOrderMark = false := by
    rw [Cursor.is_eq, hrest]
    rfl
  have hblanks (tabs : Bool) : lexer.cursor.skipWhile (fun d ↦ d == ' ' || (tabs && d == '\t')) =
      lexer.cursor := by
    rw [Cursor.skipWhile_eq (List.forall_mem_nil _) ?_ (show _ = [] ++ '\n' :: more from hrest)]
    · rw [List.length_nil, Cursor.skip_zero]
    · rintro d ⟨⟩
      simp [isBreak]
  have hcomment : lexer.cursor.is '#' = false := by
    rw [Cursor.is_eq, hrest]
    rfl
  have hbreak : lexer.cursor.sees isBreak = true := by
    rw [Cursor.sees_eq, hrest]
    rfl
  rw [skipToToken]
  simp only [hmark, Bool.and_false, Bool.false_eq_true, if_false, hblanks, hcomment, hbreak,
    if_true, hflow]
  simp

/-! ## The states between tokens -/

/-- The state at the start of an entry, where a key may begin. -/
def entry (cursor : Cursor) (indent : Int) (outer : List Int) (tokens : List Token) : Lexer :=
  { cursor, indent, outer, tokens, count := tokens.length }

/-- The state behind the colon of a key. -/
def afterColon (cursor : Cursor) (indent : Int) (outer : List Int) (tokens : List Token) : Lexer :=
  { cursor, indent, outer, tokens, count := tokens.length, keyAllowed := false }

@[simp] theorem entry_cursor (cursor : Cursor) (indent : Int) (outer : List Int)
    (tokens : List Token) : (entry cursor indent outer tokens).cursor = cursor := rfl

@[simp] theorem afterColon_cursor (cursor : Cursor) (indent : Int) (outer : List Int)
    (tokens : List Token) : (afterColon cursor indent outer tokens).cursor = cursor := rfl

theorem dropStaleKeys_none (h : lexer.keys = [none]) : lexer.dropStaleKeys = some lexer := by
  simp [dropStaleKeys, h]

theorem unindent_of_le {column : Int} (h : lexer.indent ≤ column) :
    lexer.unindent column = lexer := by
  unfold unindent
  cases lexer.outer <;> simp [closeTo, Int.not_lt.mpr h]

/-- A collection that begins further right is closed before the next entry. -/
theorem unindent_entry {cursor : Cursor} {indent parent : Int} {outer : List Int}
    {tokens : List Token} {column : Int} (h : column < indent) :
    (entry cursor indent (parent :: outer) tokens).unindent column =
      (entry cursor parent outer (.blockEnd :: tokens)).unindent column := by
  simp [unindent, entry, closeTo, h, push]

section Settle

variable {cursor : Cursor} {indent : Int} {outer : List Int} {tokens : List Token}
  {more : List Char}

theorem settle_entry (hmore : Fresh cursor.rest) : (entry cursor indent outer tokens).settle =
    some ((entry cursor indent outer tokens).unindent cursor.column) := by
  have hskip : (entry cursor indent outer tokens).skipToToken (cursor.rest.length + 1) =
      entry cursor indent outer tokens := by
    rw [skipToToken_fresh _ (k := 0) hmore rfl]
    simp [entry, Cursor.skip_zero]
  rw [settle, entry_cursor, hskip, dropStaleKeys_none rfl]
  rfl

end Settle

/-! ## Plain scalars -/

/-- Where a plain scalar begins, nothing else does. -/
theorem readToken_plain {d : Char} {rest : List Char} (hrest : lexer.cursor.rest = d :: rest)
    (hflow : lexer.flow = 0) (hmark : Style.isMark d = false) (hgap : isGap d = false)
    (hdash : d = '-' ∨ d = '?' ∨ d = ':' → rest.head?.all isGap = false)
    (hdash' : lexer.cursor.atDocumentMark '-' = false)
    (hdot : lexer.cursor.atDocumentMark '.' = false) :
    lexer.readToken d = lexer.readPlainScalar := by
  have hne (e : Char) (he : Style.isMark e = true) : (d == e) = false := by
    rw [beq_eq_false_iff_ne]
    rintro rfl
    simp [he] at hmark
  have hgapAt : lexer.cursor.gapAt 1 = rest.head?.all isGap := by
    rw [Cursor.gapAt, Cursor.peekAt, hrest]
    rfl
  have hstructure (e : Char) (he : e = '-' ∨ e = '?' ∨ e = ':') :
      (d == e && lexer.cursor.gapAt 1) = false := by
    rw [Bool.and_eq_false_imp, beq_iff_eq]
    rintro rfl
    rw [hgapAt]
    exact hdash he
  have hbegins : lexer.plainBegins lexer.cursor d = true := by
    obtain ⟨hblank, hbreak⟩ := Bool.or_eq_false_iff.mp hgap
    by_cases hd : d = '-' ∨ d = '?' ∨ d = ':'
    · have hnext := hdash hd
      rw [← hgapAt] at hnext
      have hnotBlank : (lexer.cursor.peekAt 1).any isBlank = false := by
        unfold Cursor.gapAt at hnext
        cases hpeek : lexer.cursor.peekAt 1 with
        | none => rfl
        | some e =>
          simp only [hpeek, Option.all_some, Bool.or_eq_false_iff] at hnext
          exact hnext.1
      rcases hd with rfl | rfl | rfl <;> simp [plainBegins, hnotBlank, hnext, hflow]
    · simp only [not_or] at hd
      have hindicator : isIndicator d = false := by simpa [Style.isMark, hd] using hmark
      simp [plainBegins, hindicator, hblank, hbreak]
  rw [readToken]
  simp only [hne '%' rfl, hne '[' rfl, hne ']' rfl, hne '\x7b' rfl, hne '\x7d' rfl, hne ',' rfl,
    hne '*' rfl, hne '&' rfl, hne '!' rfl, hne '|' rfl, hne '>' rfl, hne '\'' rfl, hne '"' rfl,
    hdash', hdot, hflow, hbegins, hstructure '-' (by simp), Bool.and_false, Bool.false_and,
    Bool.false_eq_true, if_false, if_true]
  simp [hstructure '?' (by simp), hstructure ':' (by simp)]

theorem ne_of_isAlphanum {c d : Char} (hc : c.isAlphanum) (hd : d.isAlphanum = false) : c ≠ d := by
  rintro rfl
  simp [hc] at hd

theorem isGap_of_isAlphanum {c : Char} (h : c.isAlphanum) : isGap c = false := by
  simp [isGap, isBlank, isBreak, ne_of_isAlphanum h]

theorem isMark_of_isAlphanum {c : Char} (h : c.isAlphanum) : Style.isMark c = false := by
  simp [Style.isMark, isIndicator, isFlowMark, ne_of_isAlphanum h]

theorem fresh_of_isAlphanum {c : Char} (h : c.isAlphanum) (rest : List Char) :
    Fresh (c :: rest) := by
  rintro d ⟨⟩
  exact ⟨isGap_of_isAlphanum h, ne_of_isAlphanum h rfl, ne_of_isAlphanum h (by decide)⟩

/-- Keys that are single words, which need no quotes and fit on a line. -/
structure IsWord (key : String) : Prop where
  nonempty : key.toList ≠ []
  alphanumeric : ∀ c ∈ key.toList, c.isAlphanum
  plain : Style.ofText key = .plain
  simple : isSimpleKey key
  short : key.toList.length ≤ maxKeyLength

instance (key : String) : Decidable (IsWord key) :=
  decidable_of_iff (key.toList ≠ [] ∧ key.toList.all Char.isAlphanum ∧
      Style.ofText key = .plain ∧ isSimpleKey key ∧ key.toList.length ≤ maxKeyLength)
    ⟨fun ⟨nonempty, alphanumeric, plain, simple, short⟩ ↦
      ⟨nonempty, List.all_eq_true.mp alphanumeric, plain, simple, short⟩,
    fun h ↦ ⟨h.nonempty, List.all_eq_true.mpr h.alphanumeric, h.plain, h.simple, h.short⟩⟩

/-- The key that may begin at a cursor. -/
def possibleKey (cursor : Cursor) (indent : Int) (number : Nat) : PossibleKey :=
  { required := indent == (cursor.column : Int), number, index := cursor.index
    line := cursor.line, column := cursor.column }

section Keys

variable {cursor : Cursor} {indent : Int} {outer : List Int} {tokens : List Token}
  {word more : List Char}

theorem atDocumentMark_of_head {d e : Char} {rest : List Char} (hrest : cursor.rest = d :: rest)
    (hne : d ≠ e) : cursor.atDocumentMark e = false := by
  simp [Cursor.atDocumentMark, Cursor.is_eq, hrest, hne]

/-- The state behind a word that may be a key. -/
def afterWord (cursor : Cursor) (indent : Int) (outer : List Int) (tokens : List Token)
    (word : List Char) : Lexer :=
  { cursor := cursor.skip word.length, indent, outer, keyAllowed := false
    keys := [some (possibleKey cursor indent tokens.length)]
    tokens := .scalar true (String.ofList word) :: tokens, count := tokens.length + 1 }

@[simp] theorem afterWord_cursor (cursor : Cursor) (indent : Int) (outer : List Int)
    (tokens : List Token) (word : List Char) :
    (afterWord cursor indent outer tokens word).cursor = cursor.skip word.length := rfl

theorem readToken_word {d : Char} (hword : ∀ c ∈ d :: word, c.isAlphanum)
    (hmore : more.head?.all isGap) (hrest : cursor.rest = d :: word ++ ':' :: more) :
    (entry cursor indent outer tokens).readToken d =
      some (afterWord cursor indent outer tokens (d :: word)) := by
  have hd := hword d List.mem_cons_self
  have hne (e : Char) (he : e.isAlphanum = false) : d ≠ e := ne_of_isAlphanum hd he
  have hdash := atDocumentMark_of_head hrest (hne '-' rfl)
  have hdot := atDocumentMark_of_head hrest (hne '.' rfl)
  have hboundary : cursor.atDocumentBoundary = false := by
    simp [Cursor.atDocumentBoundary, hdash, hdot]
  have hfound := plainWord_eq (fun c hc ↦ isGap_of_isAlphanum (hword c hc)) (fun _ ↦ rfl)
    (.inr ⟨rfl, hmore⟩ : (':' :: more).head?.all isGap ∨ (':' :: more).head? = some ':' ∧ _)
  have hread : readPlain false (indent + 1) (cursor.rest.length + 1) Gap.empty [] cursor =
      some (d :: word, cursor.skip (d :: word).length, false) := by
    rw [readPlain_word hboundary (List.cons_ne_nil d word) ?_ hrest hfound]
    · rfl
    · simpa using hne '#' rfl
  rw [readToken_plain hrest rfl (isMark_of_isAlphanum hd) (isGap_of_isAlphanum hd) ?_ hdash hdot]
  · have hnote : (entry cursor indent outer tokens).noteKey =
        some { entry cursor indent outer tokens with
          keys := [some (possibleKey cursor indent tokens.length)] } := rfl
    rw [readPlainScalar, hnote]
    simp only [Option.bind_eq_bind, Option.bind_some]
    change (readPlain false (indent + 1) (cursor.rest.length + 1) Gap.empty [] cursor).bind _ = _
    rw [hread]
    rfl
  · rintro (rfl | rfl | rfl) <;> exact absurd hd (by decide)

/-- What is open, and what has been read, once the mapping of a column has begun. -/
inductive Opened (column : Nat) : Int → List Int → List Token → List Int → List Token → Prop
  | now {indent : Int} {outer : List Int} {tokens : List Token} (h : indent < column) :
    Opened column indent outer tokens (indent :: outer) (.blockMapping :: tokens)
  | before {outer : List Int} {tokens : List Token} :
    Opened column column outer tokens outer tokens

theorem readValue_afterWord {outer' : List Int} {tokens' : List Token}
    (hopened : Opened cursor.column indent outer tokens outer' tokens') :
    (afterWord cursor indent outer tokens word).readValue =
      some (afterColon (cursor.skip (word.length + 1)) cursor.column outer'
        (.value :: .scalar true (String.ofList word) :: .key :: tokens')) := by
  have hone : tokens.length + 1 - tokens.length = 1 := by omega
  have htwo : tokens.length + 1 + 1 - tokens.length = 2 := by omega
  cases hopened with
  | now h =>
    simp [readValue, afterWord, possibleKey, insertAt, openAt, skip, push, afterColon, h, hone,
      htwo, Cursor.skip_skip]
  | before =>
    simp [readValue, afterWord, possibleKey, insertAt, openAt, skip, push, afterColon, hone,
      Cursor.skip_skip]

theorem Opened.le {outer' : List Int} {tokens' : List Token} {column : Nat}
    (h : Opened column indent outer tokens outer' tokens') : indent ≤ column := by
  cases h with
  | now h => exact Int.le_of_lt h
  | before => exact Int.le_refl _

/-- A word that no longer can be a key would have to be longer. -/
theorem settle_afterWord (hlength : word.length ≤ maxKeyLength) (hindent : indent ≤ cursor.column)
    (hrest : cursor.rest = word ++ ':' :: more) :
    (afterWord cursor indent outer tokens word).settle =
      some (afterWord cursor indent outer tokens word) := by
  have hskip := Cursor.rest_skip_append hrest
  have hfresh : Fresh (':' :: more) := by
    rintro c ⟨⟩
    decide
  have hskipped : (afterWord cursor indent outer tokens word).skipToToken
      ((afterWord cursor indent outer tokens word).cursor.rest.length + 1) =
        afterWord cursor indent outer tokens word := by
    rw [skipToToken_fresh _ hfresh (show _ = spaces 0 ++ ':' :: more from hskip), Cursor.skip_zero]
  have hkeys : (afterWord cursor indent outer tokens word).dropStaleKeys =
      some (afterWord cursor indent outer tokens word) := by
    refine if_neg ?_
    simp [afterWord, possibleKey, isStale, Cursor.skip, hlength]
  rw [settle, hskipped, hkeys, Option.map_some, unindent_of_le]
  simp only [afterWord, Cursor.skip]
  omega

theorem readToken_colon (hrest : lexer.cursor.rest = ':' :: more) (hmore : more.head?.all isGap) :
    lexer.readToken ':' = lexer.readValue := by
  have hdash := atDocumentMark_of_head hrest (show ':' ≠ '-' by decide)
  have hdot := atDocumentMark_of_head hrest (show ':' ≠ '.' by decide)
  have hgap : lexer.cursor.gapAt 1 = true := by
    rw [Cursor.gapAt, Cursor.peekAt, hrest]
    exact hmore
  rw [readToken]
  simp [hdash, hdot, hgap]

/-- A word with a colon behind it is a key, and the mapping of its column is open from there. -/
theorem reads_key {key : String} (hkey : IsWord key) {outer' : List Int} {tokens' : List Token}
    (hopened : Opened cursor.column indent outer tokens outer' tokens')
    (hmore : more.head?.all isGap) (hrest : cursor.rest = key.toList ++ ':' :: more) :
    Reads (entry cursor indent outer tokens)
      (afterColon (cursor.skip (key.toList.length + 1)) cursor.column outer'
        (.value :: .scalar true key :: .key :: tokens')) := by
  obtain ⟨d, word, hword⟩ := List.exists_cons_of_ne_nil hkey.nonempty
  have hchars := hkey.alphanumeric
  have hlength := hkey.short
  rw [← String.ofList_toList (s := key)]
  rw [hword] at hrest hchars hlength ⊢
  rw [String.toList_ofList]
  have hfresh : Fresh cursor.rest := by
    rw [hrest]
    exact fresh_of_isAlphanum (hchars d List.mem_cons_self) _
  have hcolon : (cursor.skip (d :: word).length).rest = ':' :: more := Cursor.rest_skip_append hrest
  have hwordRead : Reads (entry cursor indent outer tokens)
      (afterWord cursor indent outer tokens (d :: word)) := by
    refine .of_token (d := d) (settle_entry hfresh) ?_ ?_ ?_
    · rw [unindent_of_le hopened.le, Cursor.peek, entry_cursor, hrest]
      rfl
    · rw [unindent_of_le hopened.le]
      exact readToken_word hchars hmore hrest
    · rw [afterWord_cursor, hcolon, entry_cursor, hrest]
      simp only [List.length_append, List.length_cons]
      omega
  refine hwordRead.trans (.of_token (d := ':') (settle_afterWord hlength hopened.le hrest) ?_ ?_ ?_)
  · rw [Cursor.peek, afterWord_cursor, hcolon]
    rfl
  · rw [readToken_colon hcolon hmore, readValue_afterWord hopened]
  · rw [afterWord_cursor, hcolon]
    simp [Cursor.skip, hrest]

end Keys

/-! ## Scalars as values -/

section Values

variable {column n : Nat} {c : Cursor} {outer : List Int} {tokens : List Token}
  {text tail : List Char}

theorem settle_afterColon (htext : Fresh text) (hrest : c.rest = ' ' :: text)
    (hcolumn : column < c.column) : (afterColon c column outer tokens).settle =
      some (afterColon (c.skip 1) column outer tokens) := by
  rw [settle, skipToToken_fresh _ htext (show _ = spaces 1 ++ text from hrest),
    dropStaleKeys_none rfl, Option.map_some, unindent_of_le]
  · rfl
  · simp only [afterColon, Cursor.skip]
    omega

/-- Behind a line break that ends a value stands the next entry. -/
theorem reads_line (column : Nat) (outer : List Int) (tokens : List Token) (htail : Fresh tail)
    (hrest : c.rest = '\n' :: spaces n ++ tail) :
    ∃ next, next.rest = tail ∧ next.column = n ∧
      Reads (afterColon c column outer tokens) (entry next column outer tokens) := by
  have hline : c.nextLine.rest = spaces n ++ tail := Cursor.rest_nextLine hrest rfl
  have hnext := Cursor.rest_skip_spaces hline
  refine ⟨c.nextLine.skip n, hnext, by simp [Cursor.skip, Cursor.nextLine], .of_settle_eq ?_ ?_⟩
  · obtain ⟨fuel, hfuel⟩ := Nat.exists_eq_add_of_le' (show 1 ≤ c.rest.length by simp [hrest])
    have hskip : (afterColon c column outer tokens).skipToToken (c.rest.length + 1) =
        entry (c.nextLine.skip n) column outer tokens := by
      rw [skipToToken_break _ hrest rfl, hfuel]
      exact skipToToken_fresh fuel htail hline
    rw [settle_entry (hnext ▸ htail), settle, afterColon_cursor, hskip, dropStaleKeys_none rfl]
    rfl
  · rw [entry_cursor, afterColon_cursor, hnext, hrest]
    simp only [List.cons_append, List.length_cons, List.length_append]
    omega

/-- The text of a value behind a colon is read as tokens, up to an entry that begins in the column
or left of it. -/
def ReadsValue (column : Nat) (text : List Char) (value : List Token) : Prop :=
  ∀ (c : Cursor) (n : Nat) (outer : List Int) (tokens : List Token) (tail : List Char),
    n ≤ column → Fresh tail → column < c.column →
    c.rest = text ++ lineEnd text ++ spaces n ++ tail →
    ∃ next, next.rest = tail ∧ next.column = n ∧
      Reads (afterColon c column outer tokens) (entry next column outer (value.reverse ++ tokens))

theorem reads_scalar {d : Char} {rest : List Char} {later : Lexer} (htext : Fresh (d :: rest))
    (hrest : c.rest = ' ' :: d :: rest) (hcolumn : column < c.column)
    (htoken : (afterColon (c.skip 1) column outer tokens).readToken d = some later)
    (hlater : later.cursor.rest.length ≤ rest.length) :
    Reads (afterColon c column outer tokens) later := by
  refine .of_token (settle_afterColon htext hrest hcolumn) ?_ htoken ?_
  · simp [Cursor.peek, afterColon, Cursor.skip, hrest]
  · rw [afterColon_cursor, hrest]
    simp only [List.length_cons]
    omega

/-- A plain text that begins like none of the other tokens is read as one. -/
theorem readToken_plainText {d : Char} {rest : List Char}
    (hopens : Style.opensStructure (d :: text) = false) (hgap : isGap d = false)
    (hcolumn : 0 < c.column) (hrest : c.rest = d :: text ++ rest) :
    (afterColon c column outer tokens).readToken d =
      (afterColon c column outer tokens).readPlainScalar := by
  simp only [Style.opensStructure, Bool.or_eq_false_iff] at hopens
  obtain ⟨⟨⟨hmark, hstructure⟩, -⟩, -⟩ := hopens
  refine readToken_plain (show _ = d :: (text ++ rest) from hrest) rfl hmark hgap (fun hd ↦ ?_)
    (Cursor.atDocumentMark_of_column _ hcolumn) (Cursor.atDocumentMark_of_column _ hcolumn)
  have hhead : text.head?.all isGap = false := by
    rcases hd with rfl | rfl | rfl <;> simpa using hstructure
  cases text with
  | nil => simp at hhead
  | cons e text => simpa using hhead

theorem lineEnd_cons (d : Char) (hne : text ≠ []) : lineEnd (d :: text) = lineEnd text :=
  lineEnd_append [d] hne

theorem readsValue_plain (column : Nat) (hne : text ≠ []) (h : Style.allowsPlain text) :
    ReadsValue column (' ' :: text) [.scalar true (String.ofList text)] := by
  intro c n outer tokens tail hn htail hcolumn hrest
  have hplain := plainText_of_allowsPlain hne h
  simp only [Style.allowsPlain, Bool.and_eq_true, Bool.not_eq_true'] at h
  obtain ⟨⟨⟨⟨⟨hsingle, -⟩, -⟩, -⟩, hopens⟩, -⟩ := h
  have hprintable := (allowsSingle_iff.mp hsingle).1
  rw [lineEnd_cons ' ' hne, lineEnd_of_not_isBreak hplain.not_isBreak] at hrest
  have hrest' : c.rest = ' ' :: (text ++ '\n' :: spaces n ++ tail) := by simpa using hrest
  have hskip : (c.skip 1).rest = text ++ '\n' :: spaces n ++ tail := by
    rw [Cursor.skip, hrest']
    rfl
  obtain ⟨next, hnext, hnextRest, hnextColumn⟩ := readPlain_text hplain
    (show (n : Int) < (column : Int) + 1 by omega) htail (c.skip 1).rest.length Gap.empty []
    (c.skip 1) (by simp [Cursor.skip]) (by simp only [Cursor.skip]; omega) hskip
    (by simp [hskip])
  obtain ⟨d, hd, hgap, hhash⟩ := hplain.head
  obtain ⟨rest, rfl⟩ := List.head?_eq_some_iff.mp hd
  have hfresh : Fresh (d :: (rest ++ '\n' :: spaces n ++ tail)) := by
    rintro e ⟨⟩
    refine ⟨hgap, hhash, ?_⟩
    rintro rfl
    exact absurd (hprintable _ List.mem_cons_self) (by decide)
  refine ⟨next, hnextRest, hnextColumn, reads_scalar hfresh hrest' hcolumn ?_ ?_⟩
  · rw [readToken_plainText hopens hgap (by simp [Cursor.skip]) (by simpa using hskip),
      readPlainScalar, show (afterColon (c.skip 1) column outer tokens).noteKey =
        some (afterColon (c.skip 1) column outer tokens) from rfl]
    change (readPlain false (column + 1) ((c.skip 1).rest.length + 1) Gap.empty [] (c.skip 1)).bind
      _ = some (entry next column outer (.scalar true (String.ofList (d :: rest)) :: tokens))
    rw [hnext]
    rfl
  · rw [entry_cursor, hnextRest]
    simp only [List.length_append, List.length_cons]
    omega

/-- A scalar in quotes is a value, and its line ends behind it. -/
theorem readsValue_quoted (column : Nat) (single : Bool) (text value : List Char)
    (hread : ∀ (c : Cursor) (rest : List Char), 0 < c.column → c.rest = text ++ '\n' :: rest →
      ∃ next, readQuoted single (c.rest.length + 2) [] c = some (value, next) ∧
        next.rest = '\n' :: rest)
    (hclosed : text.getLast? = some (quote single)) :
    ReadsValue column (' ' :: quote single :: text) [.scalar false (String.ofList value)] := by
  intro c n outer tokens tail hn htail hcolumn hrest
  have hbreak : isBreak (quote single) = false := by cases single <;> rfl
  have hline : lineEnd (' ' :: quote single :: text) = ['\n'] := by
    rw [lineEnd, List.getLast?_cons, List.getLast?_cons, hclosed]
    simp [hbreak]
  rw [hline] at hrest
  have hrest' : c.rest = ' ' :: quote single :: (text ++ '\n' :: (spaces n ++ tail)) := by
    simpa using hrest
  obtain ⟨next, hnext, hnextRest⟩ := hread (c.skip 2) (spaces n ++ tail) (by simp [Cursor.skip])
    (by simp [Cursor.skip, hrest'])
  have hlength : (c.skip 2).rest.length + 2 = (c.skip 1).rest.length + 1 := by
    simp [Cursor.skip, hrest']
  have hscalar : readQuotedScalar single (c.skip 1) =
      some (.scalar false (String.ofList value), next) := by
    rw [readQuotedScalar, Cursor.skip_skip, ← hlength, hnext]
    rfl
  have htoken : (afterColon (c.skip 1) column outer tokens).readToken (quote single) =
      (afterColon (c.skip 1) column outer tokens).readNode (readQuotedScalar single) := by
    have hmark (d : Char) : (c.skip 1).atDocumentMark d = false :=
      Cursor.atDocumentMark_of_column d (by simp [Cursor.skip])
    cases single <;> simp [readToken, quote, afterColon, hmark]
  have hfresh : Fresh (quote single :: (text ++ '\n' :: (spaces n ++ tail))) := by
    rintro d ⟨⟩
    cases single <;> decide
  have hquoted : Reads (afterColon c column outer tokens)
      (afterColon next column outer (.scalar false (String.ofList value) :: tokens)) := by
    refine reads_scalar hfresh hrest' hcolumn ?_ (by simp [hnextRest])
    rw [htoken, readNode, show (afterColon (c.skip 1) column outer tokens).noteKey =
      some (afterColon (c.skip 1) column outer tokens) from rfl]
    change (readQuotedScalar single (c.skip 1)).bind _ = _
    rw [hscalar]
    rfl
  obtain ⟨last, hlastRest, hlastColumn, hlast⟩ := reads_line column outer
    (.scalar false (String.ofList value) :: tokens) htail hnextRest
  exact ⟨last, hlastRest, hlastColumn, hquoted.trans hlast⟩

theorem getLast?_indented (indent : Nat) (lineStarts : Bool) (text : List Char) :
    (Style.indented indent (fun c ↦ [c]) lineStarts text).getLast? = text.getLast? := by
  induction text generalizing lineStarts with
  | nil => rfl
  | cons c text ih =>
    rw [Style.indented]
    split
    · rw [List.getLast?_cons, List.getLast?_cons, ih]
    · simp only [List.getLast?_append, List.getLast?_cons, ih]
      cases text.getLast? <;> rfl

theorem lineEnd_literalBlock (indent : Nat) (hne : text ≠ []) :
    lineEnd (' ' :: Style.literalBlock indent text) = lineEnd text := by
  rw [lineEnd, lineEnd, Style.literalBlock, List.getLast?_cons, List.getLast?_append,
    List.getLast?_cons, getLast?_indented, List.getLast?_eq_some_getLast hne]
  rfl

theorem readsValue_literal (column : Nat) (hne : text ≠ [])
    (hprintable : ∀ c ∈ text, isPrintable c) :
    ReadsValue column (' ' :: Style.literalBlock (column + 2) text)
      [.scalar false (String.ofList text)] := by
  intro c n outer tokens tail hn htail hcolumn hrest
  rw [lineEnd_literalBlock _ hne, Style.literalBlock] at hrest
  have hrest' : c.rest = ' ' :: '|' :: (Style.indentation text ++ Style.chomping text ++
      '\n' :: (Style.indented (column + 2) (fun c ↦ [c]) true text ++ lineEnd text ++ spaces n ++
        tail)) := by
    simpa using hrest
  obtain ⟨next, hnext, hnextRest, hnextColumn⟩ := readBlock_literal hn htail hne hprintable
    (c.skip 2) (by simp [Cursor.skip, hrest'])
  refine ⟨next, hnextRest, hnextColumn, reads_scalar (d := '|') ?_ hrest' hcolumn ?_ ?_⟩
  · rintro d ⟨⟩
    decide
  · have htoken : (afterColon (c.skip 1) column outer tokens).readToken '|' =
        (afterColon (c.skip 1) column outer tokens).readBlockScalar true := by
      have hmark (d : Char) : (c.skip 1).atDocumentMark d = false :=
        Cursor.atDocumentMark_of_column d (by simp [Cursor.skip])
      simp [readToken, afterColon, hmark]
    rw [htoken, readBlockScalar, show (afterColon (c.skip 1) column outer tokens).dropKey =
      some (afterColon (c.skip 1) column outer tokens) from rfl]
    change (readBlock true column ((c.skip 1).skip 1)).bind _ = _
    rw [Cursor.skip_skip, hnext]
    rfl
  · rw [entry_cursor, hnextRest]
    simp only [List.length_append, List.length_cons]
    omega

/-- The scalar of a text, in the style in which it is written. -/
def textToken (text : String) : Token := .scalar (Style.ofText text == .plain) text

/-- Every text is read back from the style that was chosen for it. -/
theorem readsValue_text (column : Nat) (text : String) :
    ReadsValue column (' ' :: Style.write (column + 2) text) [textToken text] := by
  have hallows := allows_ofText text
  rw [textToken, Style.write]
  cases hstyle : Style.ofText text with
  | plain =>
    obtain ⟨hmeans, hallows⟩ := hstyle ▸ hallows
    have h := readsValue_plain column (nonempty_of_meansText hmeans) hallows
    rwa [String.ofList_toList] at h
  | single =>
    rw [hstyle] at hallows
    have hwrite (c : Char) : Style.doubleQuote c ≠ [] := by
      unfold Style.doubleQuote
      split <;> exact List.cons_ne_nil _ _
    have hlength := length_le_indented (column + 2) hwrite false text.toList
    have h := readsValue_quoted column true (singleTail (column + 2) text.toList) text.toList
      (fun c rest hcolumn hrest ↦ ?_) ?_
    · rwa [String.ofList_toList] at h
    · refine readQuoted_single (by omega) _ [] text.toList hallows c hcolumn hrest (by simp) ?_
      simp only [hrest, singleTail, List.length_append]
      omega
    · simp [singleTail, quote]
  | double =>
    have hlength := length_le_flatMap fun c (_ : c ∈ text.toList) ↦ (escaped_escape c).ne_nil
    have h := readsValue_quoted column false (text.toList.flatMap Style.escape ++ ['"']) text.toList
      (fun c rest hcolumn hrest ↦ ?_) ?_
    · rwa [String.ofList_toList] at h
    · refine readQuoted_double _ [] text.toList c hcolumn ?_ ?_
      · rw [hrest, List.append_assoc]
        rfl
      · simp only [hrest, List.length_append]
        omega
    · simp [quote]
  | literal =>
    obtain ⟨hne, hprintable⟩ := hstyle ▸ hallows
    have h := readsValue_literal column hne hprintable
    rwa [String.ofList_toList] at h

end Values

end Lexer

end ClusterObjects.Yaml
