import ClusterObjects.Proofs.Lookup
import ClusterObjects.Proofs.Yaml.Scalar
import Mathlib.Tactic.Ring

/-!
# Quoted scalars

Between quotes every character of a word stands for itself, is doubled or is escaped, and is read
back one at a time. Spaces between words are kept as they are. Line breaks stand in single quotes
only, where none of them is folded away, because a text with line feeds is never written so.
-/

namespace ClusterObjects.Yaml

open Style (isGap isPrintable isSpace spaces indented doubleQuote escape)

/-- The mark at both ends of a quoted scalar. -/
def quote (single : Bool) : Char := if single then '\'' else '"'

/-- What stands behind a word: the end of the text, a gap, or the closing quote. -/
def EndsWord (single : Bool) (rest : List Char) : Prop :=
  rest.head?.all isGap ∨
    rest.head? = some (quote single) ∧ (single = true → rest.tail.head? ≠ some '\'')

theorem quotedWord_stop {single : Bool} {c : Cursor} (h : EndsWord single c.rest) (fuel : Nat) :
    quotedWord single fuel c = some ([], c, false) := by
  cases fuel with
  | zero => rfl
  | succ fuel =>
    rw [quotedWord]
    rcases hrest : c.rest with _ | ⟨d, rest⟩
    · rfl
    rw [hrest] at h
    by_cases hgap : isGap d
    · exact if_pos hgap
    obtain ⟨hquote, hsingle⟩ : d = quote single ∧ (single = true → rest.head? ≠ some '\'') := by
      rcases h with h | ⟨h, h'⟩
      · exact absurd (by simpa using h) hgap
      · exact ⟨by simpa using h, h'⟩
    cases single with
    | true =>
      obtain rfl : d = '\'' := hquote
      simp [isBlank, isBreak, hsingle rfl]
    | false =>
      obtain rfl : d = '"' := hquote
      rfl

/-- A character in front of a word that was read. -/
def prepend (c : Char) (result : List Char × Cursor × Bool) : List Char × Cursor × Bool :=
  (c :: result.1, result.2)

/-- A way to write a character is read back as that character. -/
structure ReadsBack (single : Bool) (write : Char → List Char) (c : Char) : Prop where
  written : write c ≠ []
  read : ∀ (fuel : Nat) (cursor : Cursor) (rest : List Char), cursor.rest = write c ++ rest →
    quotedWord single (fuel + 1) cursor =
      (quotedWord single fuel (cursor.skip (write c).length)).map (prepend c)

theorem quotedWord_eq {single : Bool} {write : Char → List Char} {word rest : List Char}
    (hword : ∀ c ∈ word, ReadsBack single write c) (hends : EndsWord single rest) (fuel : Nat)
    (cursor : Cursor) (hrest : cursor.rest = word.flatMap write ++ rest)
    (hfuel : word.length ≤ fuel) :
    quotedWord single fuel cursor =
      some (word, cursor.skip (word.flatMap write).length, false) := by
  induction word generalizing fuel cursor with
  | nil =>
    rw [quotedWord_stop (by rwa [hrest]), List.flatMap_nil, List.length_nil, Cursor.skip_zero]
  | cons c word ih =>
    obtain ⟨hc, hword⟩ := List.forall_mem_cons.mp hword
    obtain ⟨fuel, rfl⟩ := Nat.exists_eq_add_of_le' (show 1 ≤ fuel by simp at hfuel; omega)
    rw [List.flatMap_cons, List.append_assoc] at hrest
    rw [hc.read fuel cursor _ hrest, ih hword fuel (cursor.skip (write c).length)
      (by simp [Cursor.skip, hrest]) (by simpa using hfuel), Cursor.skip_skip, List.flatMap_cons,
      List.length_append]
    rfl

/-! ## One word of a scalar -/

section Words

variable {single : Bool} {fuel : Nat} {seen word rest : List Char} {write : Char → List Char}
  {c : Cursor}

/-- One word and what comes behind it. -/
theorem readQuoted_word (hboundary : c.atDocumentBoundary = false)
    (hword : ∀ d ∈ word, ReadsBack single write d)
    (hrest : c.rest = word.flatMap write ++ rest) (hne : rest ≠ []) (hends : EndsWord single rest) :
    readQuoted single (fuel + 1) seen c =
      if rest.head? = some (quote single) then
        some (seen ++ word, c.skip ((word.flatMap write).length + 1))
      else
        (readGap none rest.length Gap.empty (c.skip (word.flatMap write).length)).bind
          fun (gap, next) ↦ readQuoted single fuel (seen ++ word ++ gap.text) next := by
  have hend : c.atEnd = false := by simp [Cursor.atEnd, hrest, hne]
  have hlength := length_le_flatMap fun c hc ↦ (hword c hc).written
  have hfound := quotedWord_eq hword hends (c.rest.length + 1) c hrest
    (by simp only [hrest, List.length_append]; omega)
  have hskip : (c.skip (word.flatMap write).length).rest = rest := by simp [Cursor.skip, hrest]
  rw [readQuoted, hboundary, hend, hfound]
  simp only [Option.bind_eq_bind, Option.bind_some, Cursor.is_eq, hskip, Cursor.skip_skip,
    beq_iff_eq]
  rfl

/-- The last word, behind which the scalar is closed. -/
theorem readQuoted_last (hboundary : c.atDocumentBoundary = false)
    (hword : ∀ d ∈ word, ReadsBack single write d)
    (hrest : c.rest = word.flatMap write ++ quote single :: rest)
    (hclosed : single = true → rest.head? ≠ some '\'') :
    ∃ next, readQuoted single (fuel + 1) seen c = some (seen ++ word, next) ∧ next.rest = rest := by
  refine ⟨c.skip ((word.flatMap write).length + 1), ?_, Cursor.rest_skip_append_cons hrest⟩
  rw [readQuoted_word hboundary hword hrest (List.cons_ne_nil _ _) (.inr ⟨rfl, hclosed⟩)]
  exact if_pos rfl

theorem not_isGap_quote (single : Bool) : isGap (quote single) = false := by
  cases single <;> rfl

/-- A word, and the gap in front of the next one. -/
theorem readQuoted_gap {gap : Gap} {next : Cursor} (hboundary : c.atDocumentBoundary = false)
    (hword : ∀ d ∈ word, ReadsBack single write d) (hrest : c.rest = word.flatMap write ++ rest)
    (hgap : rest.head?.any isGap)
    (hread : readGap none rest.length Gap.empty (c.skip (word.flatMap write).length) =
      some (gap, next)) :
    readQuoted single (fuel + 1) seen c =
      readQuoted single fuel (seen ++ word ++ gap.text) next := by
  rcases rest with _ | ⟨d, rest⟩
  · cases hgap
  have hquote : (d :: rest).head? ≠ some (quote single) := by
    intro hquote
    obtain rfl : d = quote single := by simpa using hquote
    simp [not_isGap_quote] at hgap
  rw [readQuoted_word hboundary hword hrest (List.cons_ne_nil _ _) (.inl hgap), if_neg hquote,
    hread]
  rfl

end Words

/-! ## Single quotes -/

theorem readsBack_doubleQuote {c : Char} (hgap : isGap c = false) :
    ReadsBack true doubleQuote c := by
  refine ⟨by unfold doubleQuote; split <;> simp, fun fuel cursor rest hrest ↦ ?_⟩
  have hgap' : (isBlank c || isBreak c) = false := hgap
  rw [quotedWord, hrest]
  by_cases hquote : c = '\''
  · subst hquote
    cases hword : quotedWord true fuel (cursor.skip 2) <;>
      simp [doubleQuote, isBlank, isBreak, hword, prepend]
  · cases hword : quotedWord true fuel (cursor.skip 1) <;>
      simp [doubleQuote, hquote, hgap', hword, prepend]

/-! ## Double quotes -/

theorem hexValue?_digit {n : Nat} (h : n < 16) :
    Json.Token.hexValue? (Nat.digitChar n).toUpper = some n := by
  have hall : (List.range 16).all fun n ↦
      Json.Token.hexValue? (Nat.digitChar n).toUpper == some n := by decide
  simpa using List.all_eq_true.mp hall n (List.mem_range.mpr h)

theorem foldlM_hex (width n read : Nat) :
    (Style.hex width n).foldlM (fun n c ↦ (Json.Token.hexValue? c).map (16 * n + ·)) read =
      some (16 ^ width * read + n % 16 ^ width) := by
  induction width generalizing read with
  | zero => simp [Style.hex, Nat.mod_one]
  | succ width ih =>
    have hhex : Style.hex (width + 1) n =
        (Nat.digitChar (n / 16 ^ width % 16)).toUpper :: Style.hex width n := by
      simp [Style.hex, List.range_succ]
    rw [hhex, List.foldlM_cons, hexValue?_digit (Nat.mod_lt _ (by decide))]
    refine (ih _).trans (congrArg some ?_)
    dsimp only
    rw [Nat.mod_pow_succ]
    ring

/-- As many hexadecimal digits as a number needs are read as the number. -/
theorem hexNumber?_hex {width n : Nat} (h : n < 16 ^ width) :
    Json.Token.hexNumber? (Style.hex width n) = some n := by
  rw [Json.Token.hexNumber?, foldlM_hex, Nat.mod_eq_of_lt h]
  simp

theorem charOf?_toNat (c : Char) : charOf? c.toNat = some c := by
  have hvalid : c.toNat.isValidChar := c.valid
  rw [charOf?, if_pos hvalid, Char.ofNat_toNat]

section Escapes

variable {e : Char} {fuel : Nat} {cursor : Cursor} {c : Char}

theorem quotedWord_letter {rest : List Char} (hbreak : isBreak e = false)
    (hcount : escapeDigits e = 0) (hc : escapedChar? e = some c)
    (hrest : cursor.rest = ['\\', e] ++ rest) :
    quotedWord false (fuel + 1) cursor =
      (quotedWord false fuel (cursor.skip 2)).map (prepend c) := by
  rw [quotedWord, hrest]
  simp only [List.cons_append, List.nil_append, hbreak, hcount, hc]
  cases hword : quotedWord false fuel (cursor.skip 2) <;> simp [isBlank, isBreak, prepend]

theorem quotedWord_digits {digits rest : List Char} (hbreak : isBreak e = false)
    (hcount : escapeDigits e = digits.length) (hne : digits ≠ [])
    (hc : Json.Token.hexNumber? digits = some c.toNat)
    (hrest : cursor.rest = '\\' :: e :: digits ++ rest) :
    quotedWord false (fuel + 1) cursor =
      (quotedWord false fuel (cursor.skip (2 + digits.length))).map (prepend c) := by
  obtain ⟨count, hdigits⟩ := Nat.exists_eq_succ_of_ne_zero (mt List.length_eq_zero_iff.mp hne)
  rw [quotedWord, hrest]
  simp only [List.cons_append, hbreak, hcount, hdigits]
  have htake : (digits ++ rest).take (count + 1) = digits := by
    rw [← Nat.succ_eq_add_one, ← hdigits, List.take_left]
  simp only [htake, hdigits, hc]
  cases hword : quotedWord false fuel (cursor.skip (2 + (count + 1))) <;>
    simp [isBlank, isBreak, prepend, charOf?_toNat]

end Escapes

/-- The three ways in which a character stands in double quotes. -/
inductive Escaped (c : Char) : List Char → Prop where
  | self (hprintable : isPrintable c) (hbreak : isBreak c = false) (hquote : c ≠ '"')
    (hbackslash : c ≠ '\\') : Escaped c [c]
  | letter (e : Char) (hallowed : isAllowed e) (hbreak : isBreak e = false)
    (hcount : escapeDigits e = 0) (hc : escapedChar? e = some c) : Escaped c ['\\', e]
  | digits (e : Char) (digits : List Char) (hallowed : ∀ d ∈ e :: digits, isAllowed d)
    (hbreak : isBreak e = false) (hcount : escapeDigits e = digits.length) (hne : digits ≠ [])
    (hc : Json.Token.hexNumber? digits = some c.toNat) : Escaped c ('\\' :: e :: digits)

theorem isAllowed_digit {n : Nat} (h : n < 16) : isAllowed (Nat.digitChar n).toUpper := by
  have hall : (List.range 16).all fun n ↦ isAllowed (Nat.digitChar n).toUpper := by decide
  exact List.all_eq_true.mp hall n (List.mem_range.mpr h)

theorem isAllowed_of_mem_hex {width n : Nat} {d : Char} (h : d ∈ Style.hex width n) :
    isAllowed d := by
  obtain ⟨i, _, rfl⟩ := List.mem_map.mp h
  exact isAllowed_digit (Nat.mod_lt _ (by decide))

theorem escaped_hex {c e : Char} {width : Nat} (hallowed : isAllowed e) (hbreak : isBreak e = false)
    (hcount : escapeDigits e = width) (hwidth : width ≠ 0) (hc : c.toNat < 16 ^ width) :
    Escaped c ('\\' :: e :: Style.hex width c.toNat) := by
  have hlength : (Style.hex width c.toNat).length = width := by simp [Style.hex]
  refine .digits e _ ?_ hbreak (hcount.trans hlength.symm) ?_ (hexNumber?_hex hc)
  · exact List.forall_mem_cons.mpr ⟨hallowed, fun d hd ↦ isAllowed_of_mem_hex hd⟩
  · exact fun h ↦ hwidth (by simpa [h] using hlength.symm)

/-- All characters beyond the first plane may be written as they are. -/
theorem toNat_lt_of_escaped {c : Char} (h : ¬(isPrintable c && !isBreak c) = true) :
    c.toNat < 16 ^ 4 := by
  cases hprintable : isPrintable c with
  | true =>
    have hbreak : isBreak c := by simpa [hprintable] using h
    have hline := isLineEnd_of_isPrintable hprintable hbreak
    simp only [isLineEnd, Bool.or_eq_true, beq_iff_eq] at hline
    rcases hline with (rfl | rfl) | rfl <;> decide
  | false =>
    simp only [isPrintable, Bool.or_eq_false_iff, decide_eq_false_iff_not] at hprintable
    omega

theorem escaped_escape (c : Char) : Escaped c (escape c) := by
  unfold escape
  by_cases hself : (c == '"' || c == '\\') = true
  · rw [if_pos hself]
    simp only [Bool.or_eq_true, beq_iff_eq] at hself
    rcases hself with rfl | rfl <;> exact .letter _ rfl rfl rfl rfl
  rw [if_neg hself]
  simp only [Bool.not_eq_true, Bool.or_eq_false_iff, beq_eq_false_iff_ne] at hself
  by_cases hprintable : (isPrintable c && !isBreak c) = true
  · rw [if_pos hprintable]
    simp only [Bool.and_eq_true, Bool.not_eq_true'] at hprintable
    exact .self hprintable.1 hprintable.2 hself.1 hself.2
  rw [if_neg hprintable]
  split
  · rename_i letter hletter
    have hmem := Lookup.mem_of_lookup hletter
    rw [← Char.ofNat_toNat c]
    simp only [List.mem_cons, List.not_mem_nil, or_false, Prod.mk.injEq] at hmem
    rcases hmem with ⟨hn, rfl⟩ | ⟨hn, rfl⟩ | ⟨hn, rfl⟩ | ⟨hn, rfl⟩ | ⟨hn, rfl⟩ | ⟨hn, rfl⟩ |
      ⟨hn, rfl⟩ | ⟨hn, rfl⟩ | ⟨hn, rfl⟩ | ⟨hn, rfl⟩ | ⟨hn, rfl⟩ | ⟨hn, rfl⟩ <;>
    · rw [hn]
      exact .letter _ rfl rfl rfl rfl
  · rename_i hnone
    split
    · exact escaped_hex rfl rfl rfl (by decide) (by omega)
    · exact escaped_hex rfl rfl rfl (by decide) (toNat_lt_of_escaped hprintable)

theorem Escaped.ne_nil {c : Char} {text : List Char} (h : Escaped c text) : text ≠ [] := by
  cases h <;> exact List.cons_ne_nil _ _

theorem readsBack_escape {c : Char} (hspace : c ≠ ' ') : ReadsBack false escape c := by
  have h := escaped_escape c
  refine ⟨?_, fun fuel cursor rest hrest ↦ ?_⟩
  · generalize escape c = written at h ⊢
    cases h <;> simp
  generalize escape c = written at h hrest ⊢
  cases h with
  | self hprintable hbreak hquote hbackslash =>
    have hblank : isBlank c = false := by
      by_contra hblank
      exact hspace (eq_space_of_isPrintable hprintable (by simpa using hblank))
    rw [quotedWord, hrest]
    cases hword : quotedWord false fuel (cursor.skip 1) <;>
      simp [hblank, hbreak, hquote, hbackslash, hword, prepend]
  | letter e hallowed hbreak hcount hc => exact quotedWord_letter hbreak hcount hc hrest
  | digits e digits hallowed hbreak hcount hne hc =>
    rw [quotedWord_digits hbreak hcount hne hc hrest, Nat.add_comm]
    rfl

/-! ## Whole texts -/

theorem isGap_of_isPrintable {c : Char} (hprintable : isPrintable c) (hbreak : isBreak c = false)
    (hspace : c ≠ ' ') : isGap c = false := by
  by_contra hgap
  have hblank : isBlank c := by simpa [isGap, hbreak] using hgap
  exact hspace (eq_space_of_isPrintable hprintable hblank)

/-- What stands for a character other than a space does not begin with a gap. -/
theorem head_escape {c : Char} (hspace : c ≠ ' ') : ∀ d ∈ (escape c).head?, isGap d = false := by
  intro d hd
  have h := escaped_escape c
  generalize escape c = written at h hd
  cases h with
  | self hprintable hbreak _ _ =>
    obtain rfl : c = d := by simpa using hd
    exact isGap_of_isPrintable hprintable hbreak hspace
  | letter | digits =>
    obtain rfl : '\\' = d := by simpa using hd
    rfl

/-- Spaces at the start of a text, and what comes behind them. -/
theorem exists_spaces (text : List Char) :
    ∃ k more, text = spaces k ++ more ∧ ∀ c ∈ more.head?, c ≠ ' ' := by
  obtain ⟨blank, more, rfl, hblank, hmore⟩ := exists_span isSpace text
  refine ⟨blank.length, more, ?_, by simpa [isSpace] using hmore⟩
  congr 1
  exact List.eq_replicate_iff.mpr ⟨rfl, by simpa [isSpace] using hblank⟩

theorem head_escaped {text : List Char} (h : ∀ c ∈ text.head?, c ≠ ' ') (rest : List Char) :
    ∀ d ∈ (text.flatMap escape ++ '"' :: rest).head?, isGap d = false := by
  cases text with
  | nil =>
    rintro d ⟨⟩
    rfl
  | cons c text =>
    have hc := h c rfl
    intro d hd
    rw [List.flatMap_cons, List.append_assoc,
      List.head?_append_of_ne_nil _ (readsBack_escape hc).written] at hd
    exact head_escape hc d hd

theorem flatMap_spaces {write : Char → List Char} (h : write ' ' = [' ']) (k : Nat) :
    (spaces k).flatMap write = spaces k := by
  induction k with
  | zero => rfl
  | succ k ih => simpa [spaces, List.replicate_succ, h] using ih

/-- A text in double quotes is read back, whatever follows. -/
theorem readQuoted_double (fuel : Nat) (seen text : List Char) {rest : List Char} (c : Cursor)
    (hcolumn : 0 < c.column) (hrest : c.rest = text.flatMap escape ++ '"' :: rest)
    (hfuel : text.length < fuel) :
    ∃ next, readQuoted false fuel seen c = some (seen ++ text, next) ∧ next.rest = rest := by
  induction fuel generalizing text seen c with
  | zero => omega
  | succ fuel ih =>
    have hboundary := Cursor.atDocumentBoundary_of_column hcolumn
    obtain ⟨word, behind, rfl, hword, hbehind⟩ := exists_span (· != ' ') text
    have hword' : ∀ d ∈ word, ReadsBack false escape d := fun d hd ↦
      readsBack_escape (by simpa using hword d hd)
    rw [List.flatMap_append, List.append_assoc] at hrest
    rcases behind with _ | ⟨d, behind⟩
    · rw [List.append_nil word]
      exact readQuoted_last hboundary hword' hrest nofun
    obtain rfl : d = ' ' := by simpa using hbehind
    obtain ⟨k, more, rfl, hmore⟩ := exists_spaces behind
    have hescape : (' ' :: (spaces k ++ more)).flatMap escape ++ '"' :: rest =
        spaces (k + 1) ++ (more.flatMap escape ++ '"' :: rest) := by
      rw [← List.cons_append, List.flatMap_append, List.append_assoc]
      exact congrArg (· ++ _) (flatMap_spaces rfl (k + 1))
    rw [hescape] at hrest
    have hskip := Cursor.rest_skip_append hrest
    have hlength : k + 1 ≤ (spaces (k + 1) ++ (more.flatMap escape ++ '"' :: rest)).length := by
      simp [spaces]
    have hread := readGap_spaces none Gap.empty (head_escaped hmore rest) hskip hlength
    obtain ⟨next, hnext, hnextRest⟩ := ih (seen ++ word ++ spaces (k + 1)) more
      ((c.skip (word.flatMap escape).length).skip (k + 1)) (Nat.add_pos_right _ (Nat.succ_pos k))
      (Cursor.rest_skip_spaces hskip) (by simp [spaces] at hfuel; omega)
    refine ⟨next, ?_, hnextRest⟩
    rw [readQuoted_gap hboundary hword' hrest rfl hread]
    refine hnext.trans ?_
    simp [spaces, List.replicate_succ]

/-- What stands behind the opening quote of a text in single quotes. -/
def singleTail (indent : Nat) (text : List Char) : List Char :=
  indented indent doubleQuote false text
    ++ (if text.getLast?.any isBreak then spaces indent else []) ++ ['\'']

theorem singleTail_append_line {indent : Nat} {line rest : List Char}
    (h : ∀ c ∈ line, isBreak c = false) :
    singleTail indent (line ++ rest) = line.flatMap doubleQuote ++ singleTail indent rest := by
  have hlast : (line ++ rest).getLast?.any isBreak = rest.getLast?.any isBreak := by
    cases hrest : rest.getLast? with
    | none =>
      obtain rfl := List.getLast?_eq_none_iff.mp hrest
      cases hline : line.getLast? with
      | none => simp [hline]
      | some c => simp [hline, h c (List.mem_of_getLast? hline)]
    | some c => simp [List.getLast?_append, hrest]
  simp only [singleTail, indented_append_line h, hlast, List.append_assoc]

theorem singleTail_append_breaks {indent : Nat} {first : Char} {breaks rest : List Char}
    (hfirst : isBreak first) (hbreaks : ∀ c ∈ breaks, isBreak c)
    (hrest : ∀ c ∈ rest.head?, isBreak c = false) :
    singleTail indent (first :: breaks ++ rest) =
      first :: breaks ++ spaces indent ++ singleTail indent rest := by
  cases rest with
  | nil =>
    have hlast : ((first :: breaks ++ []).getLast?.any isBreak) = true := by
      have hall : ∀ c ∈ first :: breaks, isBreak c := List.forall_mem_cons.mpr ⟨hfirst, hbreaks⟩
      rw [List.append_nil, List.getLast?_eq_some_getLast (List.cons_ne_nil _ _)]
      exact hall _ (List.getLast_mem _)
    simp only [singleTail, indented_append_breaks hfirst hbreaks, hlast, if_true]
    simp [indented]
  | cons c rest =>
    have hc := hrest c rfl
    have hlast : (first :: breaks ++ c :: rest).getLast? = (c :: rest).getLast? :=
      List.getLast?_append_of_ne_nil _ (List.cons_ne_nil _ _)
    simp only [singleTail, indented_append_breaks hfirst hbreaks, hlast, indented_start hc,
      List.append_assoc]

/-- Texts that keep their blanks and line breaks in single quotes. -/
structure SingleText (text : List Char) : Prop where
  printable : ∀ c ∈ text, isPrintable c
  blankBreak : text.IsChain fun c d ↦ ¬(isSpace c ∧ isBreak d)
  breakBlank : text.IsChain fun c d ↦ ¬(isBreak c ∧ isSpace d)
  lineFeed : '\n' ∉ text

namespace SingleText

variable {front more : List Char}

theorem of_append (h : SingleText (front ++ more)) : SingleText more where
  printable c hc := h.printable c (List.mem_append_right _ hc)
  blankBreak := (List.isChain_append.mp h.blankBreak).2.1
  breakBlank := (List.isChain_append.mp h.breakBlank).2.1
  lineFeed hc := h.lineFeed (List.mem_append_right _ hc)

/-- Behind spaces comes no other gap. -/
theorem head_of_space (h : SingleText (front ++ more)) (hfront : front.getLast? = some ' ')
    (hmore : ∀ c ∈ more.head?, c ≠ ' ') : ∀ c ∈ more.head?, isGap c = false := by
  intro c hc
  refine isGap_of_isPrintable (h.of_append.printable c (List.mem_of_mem_head? hc)) ?_ (hmore c hc)
  by_contra hbreak
  exact (List.isChain_append.mp h.blankBreak).2.2 ' ' hfront c hc ⟨rfl, by simpa using hbreak⟩

/-- Behind line breaks comes no other gap. -/
theorem head_of_break (h : SingleText (front ++ more)) {last : Char}
    (hfront : front.getLast? = some last) (hlast : isBreak last)
    (hmore : ∀ c ∈ more.head?, isBreak c = false) : ∀ c ∈ more.head?, isGap c = false := by
  intro c hc
  refine isGap_of_isPrintable (h.of_append.printable c (List.mem_of_mem_head? hc)) (hmore c hc) ?_
  rintro rfl
  exact (List.isChain_append.mp h.breakBlank).2.2 last hfront ' ' hc ⟨hlast, rfl⟩

end SingleText

theorem head_singleTail (indent : Nat) {text : List Char} (h : ∀ c ∈ text.head?, isGap c = false)
    (rest : List Char) : ∀ d ∈ (singleTail indent text ++ rest).head?, isGap d = false := by
  cases text with
  | nil =>
    rintro d ⟨⟩
    rfl
  | cons c text =>
    have hc := h c rfl
    have hbreak : isBreak c = false := (Bool.or_eq_false_iff.mp hc).2
    intro d hd
    obtain rfl : c = d := by
      rw [singleTail, indented, if_neg (by simp [hbreak])] at hd
      unfold doubleQuote at hd
      by_cases hquote : (c == '\'') = true
      · rw [if_pos hquote] at hd
        simpa [show c = '\'' by simpa using hquote] using hd
      · rw [if_neg hquote] at hd
        simpa using hd
    exact hc

theorem head_singleTail_gap (indent : Nat) {d : Char} (h : isGap d) (text : List Char) :
    (singleTail indent (d :: text)).head? = some d := by
  rw [singleTail, indented]
  by_cases hbreak : isBreak d
  · rw [if_pos hbreak]
    rfl
  · have hquote : (d == '\'') = false := by
      rw [beq_eq_false_iff_ne]
      rintro rfl
      cases h
    simp [hbreak, doubleQuote, hquote]

section SingleGaps

variable {indent : Nat} {more rest : List Char} {c : Cursor}

/-- The spaces in front of what is left of a text. -/
theorem SingleText.readGap_spaces {k : Nat} (h : SingleText (spaces (k + 1) ++ more))
    (hmore : ∀ c ∈ more.head?, c ≠ ' ')
    (hrest : c.rest = singleTail indent (spaces (k + 1) ++ more) ++ rest) :
    ∃ gap next, readGap none c.rest.length Gap.empty c = some (gap, next) ∧
      gap.text = spaces (k + 1) ∧ next.rest = singleTail indent more ++ rest ∧ 0 < next.column := by
  have hline : ∀ c ∈ spaces (k + 1), isBreak c = false := by
    intro c hc
    rw [List.eq_of_mem_replicate hc]
    rfl
  have hhead := h.head_of_space (by simp [spaces, List.replicate_succ']) hmore
  rw [singleTail_append_line hline, flatMap_spaces rfl, List.append_assoc] at hrest
  refine ⟨{ Gap.empty with blanks := spaces (k + 1) }, c.skip (k + 1), ?_,
    by simp [Gap.text, Gap.empty], Cursor.rest_skip_spaces hrest,
    Nat.add_pos_right _ (Nat.succ_pos k)⟩
  exact Yaml.readGap_spaces none Gap.empty (head_singleTail indent hhead rest) hrest
    (by simp [hrest, spaces])

/-- The line breaks in front of what is left of a text. -/
theorem SingleText.readGap_breaks (hindent : 0 < indent) {first : Char} {breaks : List Char}
    (h : SingleText (first :: breaks ++ more)) (hbreaks : ∀ d ∈ first :: breaks, isBreak d)
    (hmore : ∀ c ∈ more.head?, isBreak c = false)
    (hrest : c.rest = singleTail indent (first :: breaks ++ more) ++ rest) :
    ∃ gap next, readGap none c.rest.length Gap.empty c = some (gap, next) ∧
      gap.text = first :: breaks ∧ next.rest = singleTail indent more ++ rest ∧
      0 < next.column := by
  have hends : ∀ d ∈ first :: breaks, isLineEnd d := fun d hd ↦
    isLineEnd_of_isPrintable (h.printable d (List.mem_append_left _ hd)) (hbreaks d hd)
  obtain ⟨hfirst, hbreaksEnd⟩ := List.forall_mem_cons.mp hends
  have hhead := h.head_of_break (List.getLast?_eq_some_getLast (List.cons_ne_nil first breaks))
    (hbreaks _ (List.getLast_mem _)) hmore
  obtain ⟨hbreak, hbreaks⟩ := List.forall_mem_cons.mp hbreaks
  rw [singleTail_append_breaks hbreak hbreaks hmore, List.append_assoc] at hrest
  obtain ⟨next, hnext, hnextRest, hnextColumn⟩ := readGap_lines none Gap.empty c c.rest.length
    hfirst hbreaksEnd (head_singleTail indent hhead rest) rfl hrest (by
      simp only [hrest, spaces, List.length_append, List.length_cons, List.length_replicate]
      omega)
  refine ⟨_, next, hnext, ?_, hnextRest, hnextColumn ▸ hindent⟩
  have hfeed : first ≠ '\n' := by
    rintro rfl
    exact h.lineFeed (by simp)
  simp [Gap.text, Gap.empty, hfeed]

/-- The gap in front of what is left of a text is either spaces or line breaks. -/
theorem SingleText.exists_readGap (hindent : 0 < indent) {d : Char} {text : List Char}
    (h : SingleText (d :: text)) (hgap : isGap d)
    (hrest : c.rest = singleTail indent (d :: text) ++ rest) :
    ∃ front more gap next, d :: text = front ++ more ∧ front ≠ [] ∧
      readGap none c.rest.length Gap.empty c = some (gap, next) ∧ gap.text = front ∧
      next.rest = singleTail indent more ++ rest ∧ 0 < next.column := by
  by_cases hblank : isBlank d
  · obtain rfl := eq_space_of_isPrintable (h.printable d List.mem_cons_self) hblank
    obtain ⟨k, more, rfl, hmore⟩ := exists_spaces text
    rw [show ' ' :: (spaces k ++ more) = spaces (k + 1) ++ more from rfl] at h hrest
    obtain ⟨gap, next, hread⟩ := h.readGap_spaces hmore hrest
    exact ⟨spaces (k + 1), more, gap, next, rfl, List.cons_ne_nil _ _, hread⟩
  · have hbreak : isBreak d := by simpa [isGap, hblank] using hgap
    obtain ⟨breaks, more, rfl, hbreaks, hmore⟩ := exists_span isBreak text
    obtain ⟨gap, next, hread⟩ := SingleText.readGap_breaks hindent h
      (List.forall_mem_cons.mpr ⟨hbreak, hbreaks⟩) hmore hrest
    exact ⟨d :: breaks, more, gap, next, rfl, List.cons_ne_nil _ _, hread⟩

end SingleGaps

/-- A text in single quotes is read back, when it is not doubled by another one. -/
theorem readQuoted_single {indent : Nat} (hindent : 0 < indent) (fuel : Nat)
    (seen text : List Char) {rest : List Char} (htext : SingleText text) (c : Cursor)
    (hcolumn : 0 < c.column) (hrest : c.rest = singleTail indent text ++ rest)
    (hclosed : rest.head? ≠ some '\'') (hfuel : text.length < fuel) :
    ∃ next, readQuoted true fuel seen c = some (seen ++ text, next) ∧ next.rest = rest := by
  induction fuel generalizing text seen c with
  | zero => omega
  | succ fuel ih =>
    have hboundary := Cursor.atDocumentBoundary_of_column hcolumn
    obtain ⟨word, behind, rfl, hword, hbehind⟩ := exists_span (fun c ↦ !isGap c) text
    have hword' : ∀ d ∈ word, ReadsBack true doubleQuote d := fun d hd ↦
      readsBack_doubleQuote (by simpa using hword d hd)
    have hline : ∀ d ∈ word, isBreak d = false := by
      intro d hd
      have h := hword d hd
      simp only [isGap, Bool.not_eq_true', Bool.or_eq_false_iff] at h
      exact h.2
    rw [singleTail_append_line hline, List.append_assoc] at hrest
    rcases behind with _ | ⟨d, behind⟩
    · rw [List.append_nil word]
      exact readQuoted_last hboundary hword' hrest fun _ ↦ hclosed
    have hgap : isGap d := by simpa using hbehind
    have hskip := Cursor.rest_skip_append hrest
    obtain ⟨front, more, gap, next, hsplit, hfront, hread, hgapText, hnextRest, hnextColumn⟩ :=
      htext.of_append.exists_readGap hindent hgap hskip
    have hlength : 0 < front.length := List.length_pos_iff.mpr hfront
    rw [hsplit, List.length_append, List.length_append] at hfuel
    obtain ⟨last, hlast, hlastRest⟩ := ih (seen ++ word ++ front) more
      (hsplit ▸ htext.of_append).of_append next hnextColumn hnextRest (by omega)
    refine ⟨last, ?_, hlastRest⟩
    have hhead : (singleTail indent (d :: behind) ++ rest).head?.any isGap := by
      rw [List.head?_append, head_singleTail_gap indent hgap]
      exact hgap
    rw [readQuoted_gap hboundary hword' hrest hhead (hskip ▸ hread), hgapText, hlast, hsplit]
    simp

/-! ## The choice of a style -/

/-- What a style asks of a text. -/
def Allows (text : String) : Style → Prop
  | .plain => Style.meansText text ∧ Style.allowsPlain text.toList
  | .single => SingleText text.toList
  | .double => True
  | .literal => text.toList ≠ [] ∧ ∀ c ∈ text.toList, isPrintable c

theorem allows_ofText (text : String) : Allows text (Style.ofText text) := by
  rw [show Style.ofText text = if text.toList.contains '\n' then
    if Style.allowsLiteral text.toList then .literal else .double
    else if Style.meansText text && Style.allowsPlain text.toList then .plain
    else if Style.allowsSingle text.toList then .single else .double from rfl]
  split
  · split
    · rename_i hliteral
      simp only [Style.allowsLiteral, Style.needsEscape, Bool.and_eq_true, Bool.not_eq_true',
        Bool.or_eq_false_iff, List.isEmpty_eq_false_iff] at hliteral
      exact ⟨hliteral.1.1, by simpa using hliteral.1.2.1⟩
    · trivial
  · rename_i hlineFeed
    split
    · rename_i hplain
      exact Bool.and_eq_true_iff.mp hplain
    · split
      · rename_i hsingle
        obtain ⟨hprintable, hblankBreak, hbreakBlank⟩ := allowsSingle_iff.mp hsingle
        exact ⟨hprintable, hblankBreak, hbreakBlank, by simpa using hlineFeed⟩
      · trivial

theorem nonempty_of_meansText {text : String} (h : Style.meansText text) : text.toList ≠ [] := by
  intro hempty
  obtain rfl : text = "" := String.toList_eq_nil_iff.mp hempty
  exact absurd h (by decide)

end ClusterObjects.Yaml
