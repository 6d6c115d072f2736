import ClusterObjects.Proofs.Json.Contents
import ClusterObjects.Proofs.Yaml.Folding
import ClusterObjects.Proofs.Yaml.Lexer
import ClusterObjects.Proofs.Yaml.Number

/-!
# Tokens in flow collections

Between two tokens in brackets the lexer has little to remember: how many brackets are open, and
whether a key may begin. A piece of text leads from one such place to another and adds its tokens,
or stops the lexer for good, so the tokens of a text are put together from those of its pieces. A
key is found at its colon when it stands on one line and is not too long; otherwise its mark is
missing among the tokens.
-/

namespace ClusterObjects.Yaml

open Style (isGap)

namespace Lexer

/-! ## Between two tokens -/

/-- The lexer never comes to the end of its text. -/
def Fails (lexer : Lexer) : Prop :=
  ∀ fuel, lexer.cursor.rest.length < fuel → run fuel lexer = none

/-- No possible key has to be one. -/
def Loose (keys : List (Option PossibleKey)) : Prop :=
  ∀ key ∈ keys, key.any (·.required) = false

/-- A place between tokens: the number of open brackets, and whether a key is sure to be allowed. -/
structure Place where
  flow : Nat
  keyed : Bool

theorem Place.not_keyed {flow : Nat} {p : Prop} (h : (Place.mk flow false).keyed = true) : p :=
  absurd h Bool.false_ne_true

/-- The lexer stands at a place, with tokens read and a text to read. -/
structure Flowing (place : Place) (seen : List Token) (text : List Char) (lexer : Lexer) :
    Prop where
  rest : lexer.cursor.rest = text
  boundary : lexer.cursor.atDocumentBoundary = false
  flow : lexer.flow = place.flow
  keyed : place.keyed = true → lexer.keyAllowed = true
  indent : lexer.indent = -1
  outer : lexer.outer = []
  tokens : lexer.tokens = seen
  count : lexer.count = seen.length
  loose : Loose lexer.keys

/-- What comes of reading a piece of text: its tokens and the next place, or nothing ever. -/
def Comes (lexer : Lexer) (place : Place) (tokens : List Token) (rest : List Char) :
    Option (List Token) → Prop
  | some read => ∃ later, Flowing place (read.reverse ++ tokens) rest later ∧ Reads lexer later
  | none => Fails lexer

/-- A piece of text leads from place to place, whatever stands behind it within limits. -/
def Lexes (start : Place) (text : List Char) (read? : Option (List Token)) (next : Place)
    (follows : List Char → Prop) : Prop :=
  ∀ (lexer : Lexer) (tokens : List Token) (rest : List Char), follows rest →
    Flowing start tokens (text ++ rest) lexer → Comes lexer next tokens rest read?

/-- The tokens of two pieces of text, when both have tokens. -/
def both (read? read?' : Option (List Token)) : Option (List Token) :=
  do return (← read?) ++ (← read?')

section Places

variable {lexer later settled : Lexer} {start place next : Place} {tokens : List Token}
  {rest text more : List Char} {read? read?' : Option (List Token)}
  {follows follows' : List Char → Prop}

theorem Fails.of_reads (h : Fails later) (hreads : Reads lexer later) : Fails lexer := by
  intro fuel hfuel
  obtain ⟨left, hleft, hrun⟩ := hreads fuel hfuel
  exact hrun.trans (h left hleft)

theorem Fails.of_token {d : Char} (hsettle : lexer.settle = some settled)
    (hpeek : settled.cursor.peek = some d) (htoken : settled.readToken d = none) : Fails lexer := by
  intro fuel hfuel
  obtain ⟨fuel, rfl⟩ := Nat.exists_eq_add_of_le' (show 1 ≤ fuel by omega)
  rw [run_succ, hsettle, Option.bind_some, hpeek]
  simp only [htoken, Option.bind_none]

theorem Reads.refl (lexer : Lexer) : Reads lexer lexer := fun fuel hfuel ↦ ⟨fuel, hfuel, rfl⟩

theorem Lexes.nil (place : Place) (follows : List Char → Prop) :
    Lexes place [] (some []) place follows :=
  fun lexer _ _ _ h ↦ ⟨lexer, h, .refl lexer⟩

/-- Two pieces of text, one behind the other. -/
theorem Lexes.append (h : Lexes start text read? place follows)
    (h' : Lexes place more read?' next follows')
    (hfollows : ∀ rest, follows' rest → follows (more ++ rest)) :
    Lexes start (text ++ more) (both read? read?') next follows' := by
  intro lexer tokens rest hrest hlexer
  rw [List.append_assoc] at hlexer
  have hcomes := h lexer tokens (more ++ rest) (hfollows rest hrest) hlexer
  cases read? with
  | none => exact hcomes
  | some read =>
    obtain ⟨middle, hmiddle, hreads⟩ := hcomes
    have hcomes' := h' middle _ rest hrest hmiddle
    cases read?' with
    | none => exact hcomes'.of_reads hreads
    | some read' =>
      obtain ⟨last, hlast, hreads'⟩ := hcomes'
      refine ⟨last, ?_, hreads.trans hreads'⟩
      rwa [List.reverse_append, List.append_assoc]

theorem Lexes.mono (h : Lexes start text read? next follows)
    (hfollows : ∀ rest, follows' rest → follows rest) : Lexes start text read? next follows' :=
  fun lexer tokens rest hrest hlexer ↦ h lexer tokens rest (hfollows rest hrest) hlexer

/-! ## Possible keys -/

/-- The lexer without the possible keys that can no longer be keys. -/
def refreshed (lexer : Lexer) : Lexer :=
  { lexer with
    keys := lexer.keys.map fun key ↦ if key.any (isStale lexer.cursor) then none else key }

theorem dropStaleKeys_eq (h : Loose lexer.keys) : lexer.dropStaleKeys = some lexer.refreshed := by
  have hrequired : (lexer.keys.any fun key ↦
      key.any (isStale lexer.cursor) && key.any (·.required)) = false :=
    List.any_eq_false.mpr fun key hkey ↦ by simp [h key hkey]
  unfold dropStaleKeys
  dsimp only
  rw [hrequired]
  split
  · rfl
  · rename_i hstale
    have hmap : (lexer.keys.map fun key ↦ if key.any (isStale lexer.cursor) then none else key) =
        lexer.keys := by
      refine (List.map_inj_left.mpr fun key hkey ↦ ?_).trans (List.map_id _)
      exact if_neg fun hany ↦ hstale (List.any_eq_true.mpr ⟨key, hkey, hany⟩)
    rw [refreshed, hmap]

theorem Loose.refreshed (h : Loose lexer.keys) : Loose lexer.refreshed.keys := by
  intro key hkey
  obtain ⟨key, hmem, rfl⟩ := List.mem_map.mp hkey
  split
  · rfl
  · exact h key hmem

theorem Loose.none_cons {keys : List (Option PossibleKey)} (h : Loose keys) :
    Loose (none :: keys) :=
  List.forall_mem_cons.mpr ⟨rfl, h⟩

theorem Loose.tail {keys : List (Option PossibleKey)} (h : Loose keys) : Loose keys.tail :=
  fun key hkey ↦ h key (List.mem_of_mem_tail hkey)

theorem dropKey_eq (h : Loose lexer.keys) :
    ∃ keys, lexer.dropKey = some { lexer with keys } ∧ Loose keys ∧
      keys.tail = lexer.keys.tail := by
  unfold dropKey
  rcases hkeys : lexer.keys with _ | ⟨_ | key, rest⟩
  · exact ⟨lexer.keys, by simp, h, by rw [hkeys]⟩
  · exact ⟨lexer.keys, by simp, h, by rw [hkeys]⟩
  · rw [hkeys] at h
    have hrequired : key.required = false := h (some key) List.mem_cons_self
    refine ⟨none :: rest, ?_, h.tail.none_cons, rfl⟩
    simp [hrequired]

/-- The possible key that a place in brackets gives. -/
def keyAt (lexer : Lexer) : PossibleKey :=
  { required := false, number := lexer.count, index := lexer.cursor.index
    line := lexer.cursor.line, column := lexer.cursor.column }

theorem noteKey_of_allowed (hloose : Loose lexer.keys) (hindent : lexer.indent = -1)
    (hallowed : lexer.keyAllowed = true) :
    lexer.noteKey = some { lexer with keys := some lexer.keyAt :: lexer.keys.tail } := by
  obtain ⟨keys, hdrop, -, htail⟩ := dropKey_eq hloose
  have hrequired : (lexer.flow == 0 && lexer.indent == (lexer.cursor.column : Int)) = false := by
    rw [hindent, Bool.and_eq_false_iff]
    exact .inr (beq_eq_false_iff_ne.mpr (by omega))
  rw [noteKey, if_pos hallowed, hdrop]
  simp [hrequired, keyAt, htail]

theorem noteKey_eq (hloose : Loose lexer.keys) (hindent : lexer.indent = -1) :
    ∃ keys, lexer.noteKey = some { lexer with keys } ∧ Loose keys := by
  by_cases hallowed : lexer.keyAllowed = true
  · exact ⟨_, noteKey_of_allowed hloose hindent hallowed,
      List.forall_mem_cons.mpr ⟨rfl, hloose.tail⟩⟩
  · exact ⟨lexer.keys, if_neg hallowed, hloose⟩

/-! ## One token -/

theorem Flowing.settle (h : Flowing place tokens text lexer) (hfresh : Fresh text) :
    lexer.settle = some lexer.refreshed := by
  have hskip : lexer.skipToToken (lexer.cursor.rest.length + 1) = lexer := by
    rw [skipToToken_fresh _ (k := 0) hfresh (by rw [h.rest]; rfl), Cursor.skip_zero]
  rw [Lexer.settle, hskip, dropStaleKeys_eq h.loose, Option.map_some, unindent_of_le]
  change lexer.indent ≤ _
  rw [h.indent]
  omega

theorem Flowing.refreshed (h : Flowing place tokens text lexer) :
    Flowing place tokens text lexer.refreshed :=
  ⟨h.rest, h.boundary, h.flow, h.keyed, h.indent, h.outer, h.tokens, h.count, h.loose.refreshed⟩

/-- One token more, and what else the lexer remembers behind it. -/
theorem Flowing.pushed {token : Token} (h : Flowing start tokens text lexer)
    (htokens : later.tokens = token :: lexer.tokens) (hcount : later.count = lexer.count + 1)
    (hindent : later.indent = lexer.indent) (houter : later.outer = lexer.outer)
    (hrest : later.cursor.rest = rest) (hboundary : later.cursor.atDocumentBoundary = false)
    (hflow : later.flow = next.flow) (hkeyed : next.keyed = true → later.keyAllowed = true)
    (hloose : Loose later.keys) : Flowing next (token :: tokens) rest later where
  rest := hrest
  boundary := hboundary
  flow := hflow
  keyed := hkeyed
  indent := hindent.trans h.indent
  outer := houter.trans h.outer
  tokens := by rw [htokens, h.tokens]
  count := by rw [hcount, h.count, List.length_cons]
  loose := hloose

/-- A piece of text that is one token. -/
theorem Lexes.of_token {d : Char} (hd : Fresh [d])
    (h : ∀ (lexer : Lexer) (tokens : List Token) (rest : List Char), follows rest →
      Flowing start tokens (d :: text ++ rest) lexer →
      match read? with
      | some read => ∃ later, lexer.readToken d = some later ∧
          Flowing next (read.reverse ++ tokens) rest later
      | none => lexer.readToken d = none) :
    Lexes start (d :: text) read? next follows := by
  intro lexer tokens rest hrest hlexer
  have hsettle := hlexer.settle fun e he ↦ hd e he
  have htoken := h _ tokens rest hrest hlexer.refreshed
  have hpeek : lexer.refreshed.cursor.peek = some d := by
    rw [Cursor.peek, hlexer.refreshed.rest]
    rfl
  cases read? with
  | none => exact .of_token hsettle hpeek htoken
  | some read =>
    obtain ⟨later, htoken, hlater⟩ := htoken
    refine ⟨later, hlater, .of_token hsettle hpeek htoken ?_⟩
    rw [hlater.rest, hlexer.rest]
    simp only [List.cons_append, List.length_cons, List.length_append]
    omega

/-- No document begins or ends here. -/
theorem Flowing.not_mark (h : Flowing place tokens text lexer) :
    lexer.cursor.atDocumentMark '-' = false ∧ lexer.cursor.atDocumentMark '.' = false :=
  Bool.or_eq_false_iff.mp h.boundary

theorem boundary_skip (c : Cursor) (n : Nat) : (c.skip (n + 1)).atDocumentBoundary = false :=
  Cursor.atDocumentBoundary_of_column (Nat.add_pos_right _ (Nat.succ_pos n))

theorem Flowing.rest_skip {d : Char} (h : Flowing place tokens ([d] ++ rest) lexer) :
    (lexer.cursor.skip 1).rest = rest := by
  rw [Cursor.skip, h.rest]
  rfl

/-- An opening bracket. -/
theorem lexes_open {d : Char} {token : Token} (flow : Nat) (keyed : Bool)
    (hd : d = '[' ∧ token = .flowSequence ∨ d = '\x7b' ∧ token = .flowMapping) :
    Lexes ⟨flow, keyed⟩ [d] (some [token]) ⟨flow + 1, true⟩ fun _ ↦ True := by
  refine .of_token ?_ fun lexer tokens rest _ h ↦ ?_
  · rintro _ ⟨⟩
    obtain ⟨rfl, -⟩ | ⟨rfl, -⟩ := hd <;> decide
  · obtain ⟨hdash, hdot⟩ := h.not_mark
    obtain ⟨keys, hnote, hkeys⟩ := noteKey_eq h.loose h.indent
    have htoken : lexer.readToken d = lexer.openFlow token := by
      obtain ⟨rfl, rfl⟩ | ⟨rfl, rfl⟩ := hd <;> simp [readToken, hdash, hdot]
    have hopen : lexer.openFlow token = some { (lexer.skip 1).push token with
        flow := lexer.flow + 1, keys := none :: keys, keyAllowed := true } := by
      rw [openFlow, hnote]
      rfl
    exact ⟨_, htoken.trans hopen, h.pushed rfl rfl rfl rfl h.rest_skip (boundary_skip _ 0)
      (congrArg (· + 1) h.flow) (fun _ ↦ rfl) hkeys.none_cons⟩

/-- A closing bracket. -/
theorem lexes_close {d : Char} {token : Token} (flow : Nat) (keyed : Bool)
    (hd : d = ']' ∧ token = .flowSequenceEnd ∨ d = '\x7d' ∧ token = .flowMappingEnd) :
    Lexes ⟨flow + 1, keyed⟩ [d] (some [token]) ⟨flow, false⟩ fun _ ↦ True := by
  refine .of_token ?_ fun lexer tokens rest _ h ↦ ?_
  · rintro _ ⟨⟩
    obtain ⟨rfl, -⟩ | ⟨rfl, -⟩ := hd <;> decide
  · obtain ⟨hdash, hdot⟩ := h.not_mark
    obtain ⟨keys, hdrop, hkeys, -⟩ := dropKey_eq h.loose
    have htoken : lexer.readToken d = lexer.closeFlow token := by
      obtain ⟨rfl, rfl⟩ | ⟨rfl, rfl⟩ := hd <;> simp [readToken, hdash, hdot]
    have hclose : lexer.closeFlow token = some { (lexer.skip 1).push token with
        flow := lexer.flow - 1, keys := keys.drop 1, keyAllowed := false } := by
      have hflow : lexer.flow ≠ 0 := h.flow ▸ Nat.succ_ne_zero flow
      simp [closeFlow, hdrop, hflow, skip, push]
    exact ⟨_, htoken.trans hclose, h.pushed rfl rfl rfl rfl h.rest_skip (boundary_skip _ 0)
      (congrArg (· - 1) h.flow) Place.not_keyed (List.drop_one ▸ hkeys.tail)⟩

/-- A comma. -/
theorem lexes_comma (flow : Nat) (keyed : Bool) :
    Lexes ⟨flow, keyed⟩ [','] (some [.flowEntry]) ⟨flow, true⟩ fun _ ↦ True := by
  refine .of_token (by rintro _ ⟨⟩; decide) fun lexer tokens rest _ h ↦ ?_
  obtain ⟨hdash, hdot⟩ := h.not_mark
  obtain ⟨keys, hdrop, hkeys, -⟩ := dropKey_eq h.loose
  have htoken : lexer.readToken ',' = lexer.readFlowEntry := by simp [readToken, hdash, hdot]
  have hentry : lexer.readFlowEntry =
      some { (lexer.skip 1).push .flowEntry with keys, keyAllowed := true } := by
    rw [readFlowEntry, hdrop]
    rfl
  exact ⟨_, htoken.trans hentry, h.pushed rfl rfl rfl rfl h.rest_skip (boundary_skip _ 0) h.flow
    (fun _ ↦ rfl) hkeys⟩

/-! ## Plain words -/

/-- The characters of numbers and of the words for null and the truth values. -/
def isWordPart (c : Char) : Bool := c.isAlphanum || c == '-' || c == '+' || c == '.'

/-- A word that is a plain scalar in brackets. -/
structure IsFlowWord (word : List Char) : Prop where
  parts : ∀ c ∈ word, isWordPart c
  head : ∃ d back, word = d :: back ∧
    (d.isAlphanum ∨ d = '-' ∧ ∃ e ∈ back.head?, e.isAlphanum)

theorem isWordPart_cases {c : Char} (h : isWordPart c) :
    isGap c = false ∧ c ≠ ':' ∧ isFlowMark c = false ∧ c ≠ '#' := by
  simp only [isWordPart, Bool.or_eq_true, beq_iff_eq] at h
  rcases h with ((h | rfl) | rfl) | rfl
  · refine ⟨isGap_of_isAlphanum h, ne_of_isAlphanum h rfl, ?_, ne_of_isAlphanum h rfl⟩
    simp [isFlowMark, ne_of_isAlphanum h]
  all_goals decide

theorem isFlowMark_cases {c : Char} (h : isFlowMark c) :
    isGap c = false ∧ c ≠ ':' ∧ (isBlank c || isBreak c) = false := by
  simp only [isFlowMark, Bool.or_eq_true, beq_iff_eq] at h
  rcases h with (((rfl | rfl) | rfl) | rfl) | rfl <;> decide

/-- What stands behind a value in brackets. -/
def EndsValue (rest : List Char) : Prop := ∃ d ∈ rest.head?, isFlowMark d

theorem plainWord_flow {word : List Char} (hword : ∀ c ∈ word, isWordPart c)
    (hrest : EndsValue rest) : plainWord true (word ++ rest) = some word := by
  induction word with
  | nil =>
    obtain ⟨d, hd, hmark⟩ := hrest
    obtain ⟨rest, rfl⟩ := List.head?_eq_some_iff.mp hd
    obtain ⟨-, hcolon, hgap⟩ := isFlowMark_cases hmark
    simp [plainWord, hgap, hcolon, hmark]
  | cons c word ih =>
    obtain ⟨hc, hword⟩ := List.forall_mem_cons.mp hword
    obtain ⟨hgap, hcolon, hmark, -⟩ := isWordPart_cases hc
    have hgap' : (isBlank c || isBreak c) = false := hgap
    simp [plainWord, hgap', hcolon, hmark, ih hword]

theorem readPlain_flow {word : List Char} {c : Cursor} (indent : Int) (fuel : Nat)
    (hword : IsFlowWord word) (hboundary : c.atDocumentBoundary = false) (hrest : EndsValue rest)
    (hcursor : c.rest = word ++ rest) :
    readPlain true indent (fuel + 1) Gap.empty [] c = some (word, c.skip word.length, false) := by
  obtain ⟨d, back, rfl, -⟩ := hword.head
  have hcomment : c.is '#' = false := by
    rw [Cursor.is_eq, hcursor, beq_eq_false_iff_ne]
    exact fun h ↦ (isWordPart_cases (hword.parts d List.mem_cons_self)).2.2.2 (Option.some.inj h)
  have hskip : (c.skip (back.length + 1)).rest = rest := Cursor.rest_skip_append hcursor
  have hends : (c.skip (back.length + 1)).sees isBlank = false ∧
      (c.skip (back.length + 1)).sees isBreak = false := by
    obtain ⟨e, he, hmark⟩ := hrest
    obtain ⟨hblank, hbreak⟩ := Bool.or_eq_false_iff.mp (isFlowMark_cases hmark).2.2
    rw [Cursor.sees_eq, Cursor.sees_eq, hskip, Option.mem_def.mp he]
    exact ⟨hblank, hbreak⟩
  rw [readPlain, hboundary, hcomment, hcursor, plainWord_flow hword.parts hrest]
  simp [hends, Gap.text, Gap.empty]

/-- Where a word begins, no other token does. -/
theorem readToken_flowWord {word : List Char} {d : Char} (hword : IsFlowWord (d :: word))
    (h : Flowing place tokens (d :: word ++ rest) lexer) :
    lexer.readToken d = lexer.readPlainScalar := by
  obtain ⟨hdash, hdot⟩ := h.not_mark
  obtain ⟨_, _, heq, hhead⟩ := hword.head
  obtain ⟨rfl, rfl⟩ := List.cons.inj heq
  have hnext : lexer.cursor.peekAt 1 = (word ++ rest).head? := by
    rw [Cursor.peekAt, h.rest]
    rfl
  rcases hhead with hd | ⟨rfl, e, he, halphanum⟩
  · have hbegins : lexer.plainBegins lexer.cursor d = true := by
      have hgap := isGap_of_isAlphanum hd
      obtain ⟨hblank, hbreak⟩ := Bool.or_eq_false_iff.mp hgap
      have hindicator : isIndicator d = false := by
        simp [isIndicator, isFlowMark, ne_of_isAlphanum hd]
      simp [plainBegins, hindicator, hblank, hbreak]
    simp [readToken, hdash, hdot, hbegins, ne_of_isAlphanum hd]
  · obtain ⟨word, rfl⟩ := List.head?_eq_some_iff.mp he
    have hgap := isGap_of_isAlphanum halphanum
    have hpeek : lexer.cursor.peekAt 1 = some e := hnext
    have hgapAt : lexer.cursor.gapAt 1 = false := by
      rw [Cursor.gapAt, hpeek]
      exact hgap
    have hbegins : lexer.plainBegins lexer.cursor '-' = true := by
      simp [plainBegins, hpeek, (Bool.or_eq_false_iff.mp hgap).1]
    simp [readToken, hdash, hdot, hbegins, hgapAt]

theorem lexes_word {word : List Char} (hword : IsFlowWord word) (flow : Nat) (keyed : Bool) :
    Lexes ⟨flow + 1, keyed⟩ word (some [.scalar true (String.ofList word)]) ⟨flow + 1, false⟩
      EndsValue := by
  obtain ⟨d, back, rfl, -⟩ := hword.head
  have hd := isWordPart_cases (hword.parts d List.mem_cons_self)
  refine .of_token ?_ fun lexer tokens rest hrest h ↦ ?_
  · rintro _ ⟨⟩
    refine ⟨hd.1, hd.2.2.2, ?_⟩
    rintro rfl
    exact absurd (hword.parts _ List.mem_cons_self) (by decide)
  · obtain ⟨keys, hnote, hkeys⟩ := noteKey_eq h.loose h.indent
    have hflow : (lexer.flow != 0) = true := by simp [h.flow]
    have hread := readPlain_flow (lexer.indent + 1) lexer.cursor.rest.length hword h.boundary hrest
      h.rest
    have hscalar : lexer.readPlainScalar =
        some { lexer.push (.scalar true (String.ofList (d :: back))) with
          cursor := lexer.cursor.skip (d :: back).length
          keys := keys
          keyAllowed := false } := by
      rw [readPlainScalar, hnote]
      simp [hflow, hread, push]
    exact ⟨_, (readToken_flowWord hword h).trans hscalar, h.pushed rfl rfl rfl rfl
      (Cursor.rest_skip_append h.rest) (boundary_skip _ back.length) h.flow Place.not_keyed hkeys⟩

/-! ## Quoted texts -/

/-- Where a reader stands behind a JSON string. -/
structure BehindString (c : Cursor) (s : String) (rest : List Char) (next : Cursor) : Prop where
  rest : next.rest = rest
  index : next.index = c.index + (Json.quoted s).length
  line : next.line = c.line + s.toList.countP isSoftBreak
  column : 0 < next.column

/-- A JSON string is read as the text that it is folded to. -/
theorem readQuotedScalar_quoted {s : String} {c : Cursor}
    (hcursor : c.rest = Json.quoted s ++ rest) :
    match fold s.toList with
    | some folded => ∃ next,
        readQuotedScalar false c = some (.scalar false (String.ofList folded), next) ∧
          BehindString c s rest next
    | none => readQuotedScalar false c = none := by
  have hskip : (c.skip 1).rest = written s.toList rest := by
    simp [Cursor.skip, hcursor, written, Json.quoted]
  have hlength : s.toList.length < c.rest.length + 1 := by
    have hwritten := length_le_flatMap fun d (_ : d ∈ s.toList) ↦ escape_ne_nil d
    rw [hcursor, Json.quoted]
    simp only [List.cons_append, List.length_cons, List.length_append]
    omega
  have hread := readQuoted_written (c.rest.length + 1) [] s.toList (c.skip 1) (boundary_skip c 0)
    hskip hlength
  cases hfold : fold s.toList with
  | none =>
    rw [hfold] at hread
    rw [readQuotedScalar, show readQuoted false (c.rest.length + 1) [] (c.skip 1) = none from hread]
    rfl
  | some folded =>
    rw [hfold] at hread
    obtain ⟨next, hnext, hbehind⟩ := hread
    refine ⟨next, ?_, hbehind.rest, ?_, hbehind.line, hbehind.column⟩
    · rw [readQuotedScalar, hnext]
      rfl
    · rw [hbehind.index, Json.quoted, List.length_cons, List.length_append]
      simp only [Cursor.skip, List.length_cons, List.length_nil]
      omega

theorem readToken_quote (h : Flowing place tokens ('"' :: text) lexer) :
    lexer.readToken '"' = lexer.readNode (readQuotedScalar false) := by
  obtain ⟨hdash, hdot⟩ := h.not_mark
  simp [readToken, hdash, hdot]

/-- Reading a scalar, when it is known where a key may begin. -/
theorem readNode_eq {read : Cursor → Option (Token × Cursor)} {token : Token} {next : Cursor}
    {keys : List (Option PossibleKey)} (hnote : lexer.noteKey = some { lexer with keys })
    (hread : read lexer.cursor = some (token, next)) :
    lexer.readNode read = some { lexer.push token with
      cursor := next
      keys := keys
      keyAllowed := false } := by
  rw [readNode, hnote]
  simp [hread, push]

/-- The token of a text. -/
def textTokens? (s : String) : Option (List Token) :=
  (fold s.toList).map fun folded ↦ [.scalar false (String.ofList folded)]

/-- Whether a key is found at its colon. -/
def fitsKey (key : String) : Bool :=
  key.toList.countP isSoftBreak == 0 && decide ((Json.quoted key).length ≤ maxKeyLength)

/-- The tokens of a key that is folded, with its mark or without. -/
def keyTokens (key : String) (folded : List Char) : List Token :=
  (if fitsKey key then [.key] else []) ++ [.scalar false (String.ofList folded), .value]

def keyTokens? (key : String) : Option (List Token) := (fold key.toList).map (keyTokens key)

theorem readNode_eq_none {read : Cursor → Option (Token × Cursor)}
    {keys : List (Option PossibleKey)} (hnote : lexer.noteKey = some { lexer with keys })
    (hread : read lexer.cursor = none) : lexer.readNode read = none := by
  rw [readNode, hnote]
  simp [hread]

theorem fresh_quote : Fresh ['"'] := by
  rintro _ ⟨⟩
  decide

theorem lexes_text (s : String) (flow : Nat) (keyed : Bool) :
    Lexes ⟨flow, keyed⟩ (Json.quoted s) (textTokens? s) ⟨flow, false⟩ fun _ ↦ True := by
  refine .of_token fresh_quote fun lexer tokens rest _ h ↦ ?_
  obtain ⟨keys, hnote, hkeys⟩ := noteKey_eq h.loose h.indent
  have hread := readQuotedScalar_quoted (s := s) h.rest
  rw [textTokens?, readToken_quote h]
  cases hfold : fold s.toList with
  | none =>
    rw [hfold] at hread
    exact readNode_eq_none hnote hread
  | some folded =>
    rw [hfold] at hread
    obtain ⟨next, hnext, hbehind⟩ := hread
    exact ⟨_, readNode_eq hnote hnext, h.pushed rfl rfl rfl rfl hbehind.rest
      (Cursor.atDocumentBoundary_of_column hbehind.column) h.flow Place.not_keyed hkeys⟩

theorem fresh_colon (rest : List Char) : Fresh (':' :: rest) := by
  rintro _ ⟨⟩
  decide

theorem readToken_colon_flow {flow : Nat} {keyed : Bool}
    (h : Flowing ⟨flow + 1, keyed⟩ tokens (':' :: rest) lexer) :
    lexer.readToken ':' = lexer.readValue := by
  obtain ⟨hdash, hdot⟩ := h.not_mark
  have hflow : lexer.flow ≠ 0 := h.flow ▸ Nat.succ_ne_zero flow
  simp [readToken, hdash, hdot, hflow]

/-- The colon behind a key that is still possible puts the mark of the key before it. -/
theorem readValue_possible {flow : Nat} {keyed : Bool} {token : Token} {key : PossibleKey}
    {others : List (Option PossibleKey)}
    (h : Flowing ⟨flow + 1, keyed⟩ (token :: tokens) (':' :: rest) lexer)
    (hkeys : lexer.keys = some key :: others) (hnumber : key.number = tokens.length) :
    ∃ later, lexer.readValue = some later ∧
      Flowing ⟨flow + 1, false⟩ (.value :: token :: .key :: tokens) rest later := by
  have hflow : (lexer.flow == 0) = false := by simp [h.flow]
  have hlater : lexer.count - key.number = 1 := by
    rw [h.count, hnumber, List.length_cons]
    omega
  refine ⟨{ lexer with
    cursor := lexer.cursor.skip 1
    keys := none :: others
    keyAllowed := false
    tokens := .value :: token :: .key :: tokens
    count := lexer.count + 2 }, ?_, ?_⟩
  · simp [readValue, hkeys, insertAt, openAt, hflow, hlater, h.tokens, skip, push]
  · refine ⟨h.rest_skip, boundary_skip _ 0, h.flow, Place.not_keyed, h.indent, h.outer, rfl, ?_, ?_⟩
    · exact congrArg (· + 2) h.count
    · exact (show Loose others from (hkeys ▸ h.loose).tail).none_cons

/-- The colon behind a text that is no possible key any more. -/
theorem readValue_impossible {flow : Nat} {keyed : Bool} {others : List (Option PossibleKey)}
    (h : Flowing ⟨flow + 1, keyed⟩ tokens (':' :: rest) lexer)
    (hkeys : lexer.keys = none :: others) :
    ∃ later, lexer.readValue = some later ∧
      Flowing ⟨flow + 1, false⟩ (.value :: tokens) rest later := by
  have hflow : (lexer.flow == 0) = false := by simp [h.flow]
  refine ⟨{ lexer with
    cursor := lexer.cursor.skip 1
    keyAllowed := false
    tokens := .value :: lexer.tokens
    count := lexer.count + 1 }, ?_, h.pushed rfl rfl rfl rfl h.rest_skip (boundary_skip _ 0) h.flow
      Place.not_keyed h.loose⟩
  simp [readValue, hkeys, openHere, hflow, skip, push]

/-- Behind a string, what might be its key is given up when the string does not fit. -/
theorem isStale_keyAt {key : String} {next : Cursor}
    (hbehind : BehindString lexer.cursor key rest next) :
    isStale next lexer.keyAt = !fitsKey key := by
  have hline : decide (lexer.cursor.line < next.line) =
      !(key.toList.countP isSoftBreak == 0) := by
    rw [hbehind.line]
    cases key.toList.countP isSoftBreak <;> simp
  have hindex : decide (lexer.cursor.index + maxKeyLength < next.index) =
      !decide ((Json.quoted key).length ≤ maxKeyLength) := by
    rw [hbehind.index, ← decide_not]
    exact decide_eq_decide.mpr (by omega)
  rw [isStale, fitsKey, Bool.not_and, ← hline, ← hindex]
  rfl

/-- A key that is read, in front of its colon: it is still a possible one when it fits. -/
theorem readToken_key {key : String} {folded : List Char} {flow : Nat}
    (h : Flowing ⟨flow + 1, true⟩ tokens (Json.quoted key ++ ':' :: rest) lexer)
    (hfold : fold key.toList = some folded) :
    ∃ middle, lexer.readToken '"' = some middle ∧
      Flowing ⟨flow + 1, false⟩ (.scalar false (String.ofList folded) :: tokens) (':' :: rest)
        middle ∧
      middle.refreshed.keys.head? = some (if fitsKey key then some lexer.keyAt else none) := by
  have hread := readQuotedScalar_quoted (s := key) h.rest
  rw [hfold] at hread
  obtain ⟨next, hnext, hbehind⟩ := hread
  have hnote := noteKey_of_allowed h.loose h.indent (h.keyed rfl)
  refine ⟨_, (readToken_quote h).trans (readNode_eq hnote hnext), h.pushed rfl rfl rfl rfl
    hbehind.rest (Cursor.atDocumentBoundary_of_column hbehind.column) h.flow Place.not_keyed
    (List.forall_mem_cons.mpr ⟨rfl, h.loose.tail⟩), ?_⟩
  change some (if isStale next lexer.keyAt then none else some lexer.keyAt) = _
  rw [isStale_keyAt hbehind]
  cases fitsKey key <;> rfl

/-- The colon behind a key. -/
theorem readValue_key {key : String} {folded : List Char} {flow : Nat} {possible : PossibleKey}
    (h : Flowing ⟨flow + 1, false⟩ (.scalar false (String.ofList folded) :: tokens) (':' :: rest)
      lexer)
    (hkeys : lexer.keys.head? = some (if fitsKey key then some possible else none))
    (hnumber : possible.number = tokens.length) :
    ∃ later, lexer.readToken ':' = some later ∧
      Flowing ⟨flow + 1, false⟩ ((keyTokens key folded).reverse ++ tokens) rest later := by
  obtain ⟨others, hothers⟩ := List.head?_eq_some_iff.mp hkeys
  rw [readToken_colon_flow h, keyTokens]
  cases hfits : fitsKey key with
  | true =>
    rw [hfits] at hothers
    exact readValue_possible h hothers hnumber
  | false =>
    rw [hfits] at hothers
    exact readValue_impossible h hothers

/-- A key and its colon. -/
theorem lexes_key (key : String) (flow : Nat) :
    Lexes ⟨flow + 1, true⟩ (Json.quoted key ++ [':']) (keyTokens? key) ⟨flow + 1, false⟩
      fun _ ↦ True := by
  intro lexer tokens rest _ hlexer
  rw [List.append_assoc, List.singleton_append] at hlexer
  have hsettle := hlexer.settle fun d hd ↦ fresh_quote d hd
  have hpeek : lexer.refreshed.cursor.peek = some '"' := by
    rw [Cursor.peek, hlexer.refreshed.rest]
    rfl
  rw [keyTokens?]
  cases hfold : fold key.toList with
  | none =>
    have hread := readQuotedScalar_quoted (s := key) hlexer.refreshed.rest
    have hnote := noteKey_of_allowed hlexer.refreshed.loose hlexer.indent (hlexer.keyed rfl)
    rw [hfold] at hread
    refine Fails.of_token hsettle hpeek ((readToken_quote hlexer.refreshed).trans ?_)
    exact readNode_eq_none hnote hread
  | some folded =>
    obtain ⟨middle, hkey, hmiddle, hkeys⟩ := readToken_key hlexer.refreshed hfold
    obtain ⟨last, hcolon, hlast⟩ := readValue_key hmiddle.refreshed hkeys hlexer.count
    have hreads : Reads lexer middle := by
      refine .of_token hsettle hpeek hkey ?_
      rw [hmiddle.rest, hlexer.rest, Json.quoted]
      simp only [List.cons_append, List.length_cons, List.length_append]
      omega
    refine ⟨last, hlast, hreads.trans
      (.of_token (hmiddle.settle (fresh_colon rest)) ?_ hcolon ?_)⟩
    · rw [Cursor.peek, hmiddle.refreshed.rest]
      rfl
    · rw [hlast.rest, hmiddle.rest]
      exact Nat.lt_succ_self _

end Places

end Lexer

end ClusterObjects.Yaml
