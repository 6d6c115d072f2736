import ClusterObjects.Yaml.Scalar
import ClusterObjects.Yaml.Style
import Mathlib.Data.List.Chain
import Mathlib.Data.List.TakeWhile

/-!
# Scalars that are read back

A text is read back as it is from each of the styles that it may be written in. The texts are taken
word by word: a plain or quoted scalar is words with gaps between them, and a literal block is lines
with breaks between them. What follows a scalar is the end of its line, and then the indentation of
the next entry.
-/

namespace ClusterObjects.Yaml

open Style (isGap isPrintable isSpace spaces hasPair indented)

/-! ## Characters and cursors -/

/-- Whether a text begins with something to read, if it goes on at all. -/
def Fresh (text : List Char) : Prop :=
  ∀ c ∈ text.head?, isGap c = false ∧ c ≠ '#' ∧ c ≠ byteOrderMark

/-- A text falls into what belongs to a class at its start, and the rest. -/
theorem exists_span (p : Char → Bool) (text : List Char) :
    ∃ word rest, text = word ++ rest ∧ (∀ c ∈ word, p c) ∧ ∀ c ∈ rest.head?, p c = false := by
  refine ⟨text.takeWhile p, text.dropWhile p, List.takeWhile_append_dropWhile.symm,
    fun c hc ↦ List.mem_takeWhile_imp hc, fun c hc ↦ ?_⟩
  have h := List.head?_dropWhile_not p text
  rwa [Option.mem_def.mp hc] at h

/-- The line breaks that may be written as they are. -/
def isLineEnd (c : Char) : Bool := c == '\n' || c == '\u2028' || c == '\u2029'

theorem isLineEnd_of_isPrintable {c : Char} (hprintable : isPrintable c) (hbreak : isBreak c) :
    isLineEnd c := by
  simp only [isBreak, isLineEnd, Bool.or_eq_true, beq_iff_eq] at hbreak ⊢
  rcases hbreak with (((rfl | rfl) | rfl) | rfl) | rfl
  · simp
  · exact absurd hprintable (by decide)
  · exact absurd hprintable (by decide)
  · simp
  · simp

theorem eq_space_of_isPrintable {c : Char} (hprintable : isPrintable c) (hblank : isBlank c) :
    c = ' ' := by
  simp only [isBlank, Bool.or_eq_true, beq_iff_eq] at hblank
  rcases hblank with rfl | rfl
  · rfl
  · exact absurd hprintable (by decide)

namespace Cursor

variable {c : Cursor} {d : Char} {rest : List Char}

theorem skip_skip (c : Cursor) (m n : Nat) : (c.skip m).skip n = c.skip (m + n) := by
  simp [skip, Nat.add_assoc]

theorem skip_zero (c : Cursor) : c.skip 0 = c := by
  simp [skip]

theorem rest_skip_append {front back : List Char} (h : c.rest = front ++ back) :
    (c.skip front.length).rest = back := by
  simp [skip, h]

theorem rest_skip_spaces {k : Nat} {back : List Char} (h : c.rest = spaces k ++ back) :
    (c.skip k).rest = back := by
  simp [skip, h, spaces]

theorem rest_skip_append_cons {front back : List Char} (h : c.rest = front ++ d :: back) :
    (c.skip (front.length + 1)).rest = back := by
  rw [← skip_skip]
  exact @rest_skip_append _ [d] back (rest_skip_append h)

theorem sees_eq (c : Cursor) (p : Char → Bool) : c.sees p = c.rest.head?.any p := rfl

theorem is_eq (c : Cursor) (d : Char) : c.is d = (c.rest.head? == some d) := rfl

/-- No document begins or ends in the middle of a line. -/
theorem atDocumentMark_of_column (d : Char) (h : 0 < c.column) : c.atDocumentMark d = false := by
  simp [atDocumentMark, Nat.ne_of_gt h]

theorem atDocumentBoundary_of_column (h : 0 < c.column) : c.atDocumentBoundary = false := by
  simp [atDocumentBoundary, atDocumentMark_of_column _ h]

theorem rest_nextLine (hrest : c.rest = d :: rest) (hd : isLineEnd d) : c.nextLine.rest = rest := by
  have hreturn : d ≠ '\r' := by
    rintro rfl
    exact absurd hd (by decide)
  unfold nextLine
  rw [hrest]
  split
  · rename_i heq
    exact absurd (List.cons.inj heq).1 hreturn
  · rfl

theorem breakText_eq (hrest : c.rest = d :: rest) (hd : isLineEnd d) : c.breakText = [d] := by
  unfold breakText peek
  rw [hrest]
  simp only [isLineEnd, Bool.or_eq_true, beq_iff_eq] at hd
  rcases hd with (rfl | rfl) | rfl <;> rfl

end Cursor

theorem isBreak_of_isLineEnd {c : Char} (h : isLineEnd c) : isBreak c := by
  simp only [isLineEnd, isBreak, Bool.or_eq_true, beq_iff_eq] at h ⊢
  tauto

theorem not_isBlank {c : Char} (h : isLineEnd c) : isBlank c = false := by
  simp only [isLineEnd, Bool.or_eq_true, beq_iff_eq] at h
  rcases h with (rfl | rfl) | rfl <;> rfl

/-! ## Gaps -/

section Gaps

variable {indent : Option Int} {gap : Gap} {c : Cursor} {fuel : Nat} {more : List Char}

theorem sees_eq_false {p : Char → Bool} (h : ∀ d ∈ c.rest.head?, p d = false) :
    c.sees p = false := by
  rw [Cursor.sees_eq]
  rcases hhead : c.rest.head? with _ | d
  · rfl
  · simpa using h d hhead

theorem readGap_stop (h : ∀ d ∈ c.rest.head?, isGap d = false) :
    readGap indent fuel gap c = some (gap, c) := by
  cases fuel with
  | zero => rfl
  | succ fuel =>
    have hgap (d : Char) (hd : d ∈ c.rest.head?) := Bool.or_eq_false_iff.mp (h d hd)
    rw [readGap, sees_eq_false fun d hd ↦ (hgap d hd).1, sees_eq_false fun d hd ↦ (hgap d hd).2]
    rfl

/-- Spaces count as long as the line goes on. -/
theorem readGap_spaces (indent : Option Int) (gap : Gap) {k : Nat}
    (hmore : ∀ d ∈ more.head?, isGap d = false)
    (hrest : c.rest = spaces k ++ more) (hfuel : k ≤ fuel) :
    readGap indent fuel gap c = some
      (if gap.broken then gap else { gap with blanks := gap.blanks ++ spaces k }, c.skip k) := by
  induction k generalizing fuel gap c with
  | zero =>
    rw [readGap_stop (by simpa [hrest, spaces] using hmore), Cursor.skip_zero]
    simp [spaces]
  | succ k ih =>
    obtain ⟨fuel, rfl⟩ := Nat.exists_eq_add_of_le' hfuel
    have hrest' : c.rest = ' ' :: (spaces k ++ more) := hrest
    have hskip : (c.skip 1).rest = spaces k ++ more := by simp [Cursor.skip, hrest']
    rw [Nat.add_succ, readGap, Cursor.sees_eq, Cursor.is_eq, hrest']
    simp only [List.head?_cons, Option.any_some]
    rw [ih _ hskip (by omega), Cursor.skip_skip, Nat.add_comm 1 k]
    cases hbroken : gap.broken <;>
      simp [hbroken, isBlank, spaces, List.replicate_succ]

/-- Line breaks behind the first one are kept, and the indentation of the next line is not. -/
theorem readGap_breaks (indent : Option Int) (gap : Gap) (c : Cursor) (fuel : Nat)
    {breaks : List Char} {k : Nat}
    (hbreaks : ∀ d ∈ breaks, isLineEnd d) (hmore : ∀ d ∈ more.head?, isGap d = false)
    (hbroken : gap.broken = true) (hcolumn : c.column = 0)
    (hrest : c.rest = breaks ++ spaces k ++ more) (hfuel : breaks.length + k ≤ fuel) :
    ∃ next, readGap indent fuel gap c = some ({ gap with more := gap.more ++ breaks }, next) ∧
      next.rest = more ∧ next.column = k := by
  induction breaks generalizing fuel gap c with
  | nil =>
    refine ⟨c.skip k, ?_, ?_, ?_⟩
    · rw [readGap_spaces _ _ hmore hrest (by simpa using hfuel), if_pos hbroken, List.append_nil]
    · simp [Cursor.skip, hrest, spaces]
    · simp [Cursor.skip, hcolumn]
  | cons d breaks ih =>
    obtain ⟨hd, hbreaks⟩ := List.forall_mem_cons.mp hbreaks
    obtain ⟨fuel, rfl⟩ := Nat.exists_eq_add_of_le' (show 1 ≤ fuel by simp at hfuel; omega)
    have hrest' : c.rest = d :: (breaks ++ spaces k ++ more) := by simpa using hrest
    obtain ⟨next, hnext, hmore'⟩ := ih { gap with more := gap.more ++ [d] } c.nextLine fuel hbreaks
      hbroken rfl (Cursor.rest_nextLine hrest' hd) (by simp at hfuel; omega)
    refine ⟨next, ?_, hmore'⟩
    rw [readGap, Cursor.breakText_eq hrest' hd]
    simp only [Cursor.sees_eq, hrest', List.head?_cons, Option.any_some, not_isBlank hd, hbroken,
      isBreak_of_isLineEnd hd, Bool.false_eq_true, if_false, if_true]
    rw [hbroken] at hnext
    simpa using hnext

/-- A gap of several lines, where the first break is told from those behind it. -/
theorem readGap_lines (indent : Option Int) (gap : Gap) (c : Cursor) (fuel : Nat) {first : Char}
    {breaks : List Char}
    {k : Nat} (hfirst : isLineEnd first) (hbreaks : ∀ d ∈ breaks, isLineEnd d)
    (hmore : ∀ d ∈ more.head?, isGap d = false) (hbroken : gap.broken = false)
    (hrest : c.rest = first :: breaks ++ spaces k ++ more) (hfuel : breaks.length + k < fuel) :
    ∃ next, readGap indent fuel gap c = some (⟨[], true, [first], gap.more ++ breaks⟩, next) ∧
      next.rest = more ∧ next.column = k := by
  obtain ⟨fuel, rfl⟩ := Nat.exists_eq_add_of_le' (show 1 ≤ fuel by omega)
  have hrest' : c.rest = first :: (breaks ++ spaces k ++ more) := by simpa using hrest
  obtain ⟨next, hnext, hmore'⟩ := readGap_breaks indent ⟨[], true, [first], gap.more⟩ c.nextLine
    fuel hbreaks hmore rfl rfl (Cursor.rest_nextLine hrest' hfirst) (by omega)
  refine ⟨next, ?_, hmore'⟩
  rw [readGap, Cursor.breakText_eq hrest' hfirst]
  simp only [Cursor.sees_eq, hrest', List.head?_cons, Option.any_some, not_isBlank hfirst, hbroken,
    isBreak_of_isLineEnd hfirst, Bool.false_eq_true, if_false, if_true]
  exact hnext

end Gaps

/-! ## Plain scalars -/

theorem plainWord_cons (d : Char) (rest : List Char) :
    plainWord false (d :: rest) =
      if isGap d || (d == ':' && rest.head?.all isGap) then some []
      else (plainWord false rest).map (d :: ·) := by
  rw [plainWord]
  cases hgap : isGap d
  · cases hcolon : (d == ':' && rest.head?.all isGap)
    · have h : (d == ':' && rest.head?.all fun e ↦ isBlank e || isBreak e) = false := hcolon
      have h' : (isBlank d || isBreak d) = false := hgap
      simp [h, h']
    · have h : (d == ':' && rest.head?.all fun e ↦ isBlank e || isBreak e) = true := hcolon
      have h' : (isBlank d || isBreak d) = false := hgap
      simp [h, h']
  · have h' : (isBlank d || isBreak d) = true := hgap
    simp [h']

/-- A word ends where a gap begins, or where a colon stands before one. -/
theorem plainWord_eq {word rest : List Char} (hword : ∀ c ∈ word, isGap c = false)
    (hcolon : word.getLast? = some ':' → rest.head?.all isGap = false)
    (hrest : rest.head?.all isGap ∨ rest.head? = some ':' ∧ rest.tail.head?.all isGap) :
    plainWord false (word ++ rest) = some word := by
  induction word with
  | nil =>
    rcases rest with _ | ⟨d, rest⟩
    · rfl
    · rw [List.nil_append, plainWord_cons, if_pos]
      rcases hrest with h | ⟨h, h'⟩
      · simpa using Or.inl h
      · obtain rfl : d = ':' := by simpa using h
        simpa using Or.inr h'
  | cons c word ih =>
    obtain ⟨hc, hword⟩ := List.forall_mem_cons.mp hword
    have hstop : (c == ':' && (word ++ rest).head?.all isGap) = false := by
      rcases word with _ | ⟨d, word⟩
      · rw [Bool.and_eq_false_imp, beq_iff_eq]
        rintro rfl
        exact hcolon rfl
      · simp [hword d (by simp)]
    rw [List.cons_append, plainWord_cons, hc, hstop, ih hword]
    · rfl
    · intro hlast
      refine hcolon ?_
      rw [List.getLast?_cons, hlast]
      rfl

/-- One word of a plain scalar. What stands behind it is a gap, or ends the scalar. -/
theorem readPlain_word {indent : Int} {fuel : Nat} {gap : Gap} {seen word rest : List Char}
    {c : Cursor} (hboundary : c.atDocumentBoundary = false) (hne : word ≠ [])
    (hhash : word.head? ≠ some '#') (hrest : c.rest = word ++ rest)
    (hword : plainWord false (word ++ rest) = some word) :
    readPlain false indent (fuel + 1) gap seen c =
      if rest.head?.any isGap then do
        let (gap', next) ←
          readGap (some indent) (c.skip word.length).rest.length Gap.empty (c.skip word.length)
        if (next.column : Int) < indent then some (seen ++ gap.text ++ word, next, gap'.broken)
        else readPlain false indent fuel gap' (seen ++ gap.text ++ word) next
      else some (seen ++ gap.text ++ word, c.skip word.length, false) := by
  have hhead : c.is '#' = false := by
    rw [Cursor.is_eq, hrest, List.head?_append_of_ne_nil _ hne, beq_eq_false_iff_ne]
    exact hhash
  have hskip : (c.skip word.length).rest = rest := by simp [Cursor.skip, hrest]
  have hsees : ((c.skip word.length).sees isBlank || (c.skip word.length).sees isBreak) =
      rest.head?.any isGap := by
    rw [Cursor.sees_eq, Cursor.sees_eq, hskip]
    cases rest.head? <;> rfl
  rw [readPlain, hboundary, hhead]
  simp only [Bool.or_self, Bool.false_eq_true, if_false]
  rw [hrest, hword]
  simp only [Option.bind_eq_bind, Option.bind_some, hsees, List.isEmpty_eq_false_iff.mpr hne,
    Bool.false_eq_true, if_false, Bool.not_false, Bool.true_and, decide_eq_true_eq]
  rfl

/-- What a word of a plain scalar is like that is followed by a gap. -/
structure PlainWord (word : List Char) : Prop where
  nonempty : word ≠ []
  solid : ∀ c ∈ word, isGap c = false
  comment : word.head? ≠ some '#'
  colon : word.getLast? ≠ some ':'

namespace PlainWord

variable {indent : Int} {fuel : Nat} {gap : Gap} {seen word rest : List Char} {c : Cursor}

/-- One word of a plain scalar, and the gap behind it. -/
theorem readPlain_gap {gap' : Gap} {next : Cursor} (h : PlainWord word) (hcolumn : 0 < c.column)
    (hrest : c.rest = word ++ rest) (hgap : rest.head?.any isGap)
    (hread : readGap (some indent) rest.length Gap.empty (c.skip word.length) =
      some (gap', next)) :
    readPlain false indent (fuel + 1) gap seen c =
      if (next.column : Int) < indent then some (seen ++ gap.text ++ word, next, gap'.broken)
      else readPlain false indent fuel gap' (seen ++ gap.text ++ word) next := by
  have hends : rest.head?.all isGap := by
    cases hhead : rest.head? with
    | none => rfl
    | some d => simpa [hhead] using hgap
  have hword := plainWord_eq h.solid (absurd · h.colon) (.inl hends)
  rw [readPlain_word (Cursor.atDocumentBoundary_of_column hcolumn) h.nonempty h.comment hrest hword,
    if_pos hgap, Cursor.rest_skip_append hrest, hread]
  rfl

/-- The last word of a line, which the next line does not go on with. -/
theorem readPlain_last (h : PlainWord word) {n : Nat} {tail : List Char} (hn : (n : Int) < indent)
    (htail : Fresh tail) (hcolumn : 0 < c.column)
    (hrest : c.rest = word ++ '\n' :: spaces n ++ tail) :
    ∃ next, readPlain false indent (fuel + 1) gap seen c =
        some (seen ++ gap.text ++ word, next, true) ∧
      next.rest = tail ∧ next.column = n := by
  have hrest' : c.rest = word ++ ('\n' :: [] ++ spaces n ++ tail) := by simpa using hrest
  obtain ⟨next, hnext, hnextRest, hnextColumn⟩ := readGap_lines (some indent) Gap.empty
    (c.skip word.length) ('\n' :: [] ++ spaces n ++ tail).length rfl (List.forall_mem_nil _)
    (fun d hd ↦ (htail d hd).1) rfl (Cursor.rest_skip_append hrest') (by
      simp only [spaces, List.length_append, List.length_cons, List.length_replicate]
      omega)
  refine ⟨next, ?_, hnextRest, hnextColumn⟩
  rw [h.readPlain_gap hcolumn hrest' rfl hnext, if_pos (hnextColumn ▸ hn)]

/-- A word, and the spaces in front of the next one. -/
theorem readPlain_spaces (h : PlainWord word) {k : Nat} {more : List Char}
    (hcolumn : 0 < c.column) (hindent : indent ≤ c.column)
    (hmore : ∀ d ∈ more.head?, isGap d = false)
    (hrest : c.rest = word ++ (spaces (k + 1) ++ more)) :
    readPlain false indent (fuel + 1) gap seen c =
      readPlain false indent fuel { Gap.empty with blanks := spaces (k + 1) }
        (seen ++ gap.text ++ word) (c.skip (word.length + (k + 1))) := by
  have hread : readGap (some indent) (spaces (k + 1) ++ more).length Gap.empty
      (c.skip word.length) =
        some ({ Gap.empty with blanks := spaces (k + 1) }, c.skip (word.length + (k + 1))) := by
    rw [readGap_spaces _ _ hmore (Cursor.rest_skip_append hrest) (by simp [spaces]),
      Cursor.skip_skip]
    rfl
  have hcolumn' : (c.skip (word.length + (k + 1))).column = c.column + (word.length + (k + 1)) :=
    rfl
  rw [h.readPlain_gap hcolumn hrest rfl hread, if_neg (by omega)]

end PlainWord

/-- What a text has to be like to be read back word by word. -/
structure PlainText (text : List Char) : Prop where
  head : ∃ c ∈ text.head?, isGap c = false ∧ c ≠ '#'
  last : ∀ c ∈ text.getLast?, c ≠ ' ' ∧ c ≠ ':'
  gaps : ∀ c ∈ text, isGap c → c = ' '
  colons : text.IsChain fun c d ↦ ¬(c = ':' ∧ isGap d)
  comments : text.IsChain fun c d ↦ ¬(isGap c ∧ d = '#')

namespace PlainText

variable {text front more : List Char}

theorem not_isBreak (h : PlainText text) : ∀ c ∈ text, isBreak c = false := by
  intro c hc
  by_contra hbreak
  have hspace := h.gaps c hc (by simp [isGap, hbreak])
  simp [hspace, isBreak] at hbreak

/-- What stands behind a gap is again such a text. -/
theorem of_append (h : PlainText (front ++ more)) (hfront : front.getLast? = some ' ')
    (hmore : more ≠ []) (hhead : more.head? ≠ some ' ') : PlainText more := by
  obtain ⟨c, more, rfl⟩ := List.exists_cons_of_ne_nil hmore
  have hlast := (List.isChain_append.mp h.comments).2.2 ' ' hfront c rfl
  refine ⟨⟨c, rfl, ?_, fun hhash ↦ hlast ⟨rfl, hhash⟩⟩, fun d hd ↦ h.last d ?_, fun d hd ↦
    h.gaps d (List.mem_append_right _ hd), (List.isChain_append.mp h.colons).2.1,
    (List.isChain_append.mp h.comments).2.1⟩
  · by_contra hgap
    have hspace := h.gaps c (List.mem_append_right _ List.mem_cons_self) (by simpa using hgap)
    exact hhead (congrArg some hspace)
  · rw [List.getLast?_append_of_ne_nil _ (List.cons_ne_nil c more)]
    exact hd

/-- Such a text is one word, or a word and spaces in front of another such text. -/
theorem words (h : PlainText text) :
    ∃ word rest, text = word ++ rest ∧ PlainWord word ∧
      (rest = [] ∨ ∃ k more, rest = spaces (k + 1) ++ more ∧ PlainText more) := by
  obtain ⟨c, hc, hgap, hhash⟩ := h.head
  obtain ⟨word, rest, rfl, hword, hrest⟩ := exists_span (fun c ↦ !isGap c) text
  have hne : word ≠ [] := by
    rintro rfl
    simpa [hgap] using hrest c hc
  rw [List.head?_append_of_ne_nil _ hne] at hc
  refine ⟨word, rest, rfl, ⟨hne, by simpa using hword, by simpa [Option.mem_def.mp hc] using hhash,
    ?_⟩, ?_⟩
  · intro hcolon
    rcases rest with _ | ⟨d, rest⟩
    · exact (h.last ':' (by simpa using hcolon)).2 rfl
    · exact (List.isChain_append.mp h.colons).2.2 ':' hcolon d rfl ⟨rfl, by simpa using hrest⟩
  · rcases hcases : rest with _ | ⟨d, after⟩
    · exact .inl rfl
    rw [← hcases]
    right
    obtain rfl : d = ' ' := h.gaps d (by simp [hcases]) (by simpa [hcases] using hrest)
    obtain ⟨blank, more, rfl, hblank, hmore⟩ := exists_span isSpace rest
    have hspaces : blank = spaces blank.length := by
      rw [spaces, List.eq_replicate_iff]
      exact ⟨rfl, fun c hc ↦ by simpa [isSpace] using hblank c hc⟩
    rcases hlength : blank.length with _ | k
    · obtain rfl := List.eq_nil_of_length_eq_zero hlength
      simp [show more = ' ' :: after from hcases, isSpace] at hmore
    · rw [hlength] at hspaces
      have hlast : (word ++ blank).getLast? = some ' ' := by
        rw [hspaces]
        simp [spaces, List.replicate_succ']
      refine ⟨k, more, by rw [hspaces], ?_⟩
      rw [← List.append_assoc] at h
      refine h.of_append hlast ?_ ?_
      · rintro rfl
        exact (h.last ' ' (by simpa using hlast)).1 rfl
      · intro hhead
        simpa [isSpace] using hmore ' ' hhead

end PlainText

/-- A plain scalar at the end of its line, which the next line does not go on with. -/
theorem readPlain_text {indent : Int} {text tail : List Char} {n : Nat} (h : PlainText text)
    (hn : (n : Int) < indent) (htail : Fresh tail) (fuel : Nat) (gap : Gap) (seen : List Char)
    (c : Cursor) (hcolumn : 0 < c.column) (hindent : indent ≤ c.column)
    (hrest : c.rest = text ++ '\n' :: spaces n ++ tail) (hfuel : text.length ≤ fuel) :
    ∃ next,
      readPlain false indent (fuel + 1) gap seen c = some (seen ++ gap.text ++ text, next, true)
      ∧ next.rest = tail ∧ next.column = n := by
  induction fuel generalizing text gap seen c with
  | zero =>
    obtain rfl := List.eq_nil_of_length_eq_zero (Nat.le_zero.mp hfuel)
    exact absurd h.head (by simp)
  | succ fuel ih =>
    obtain ⟨word, rest, rfl, hword, hends⟩ := h.words
    rcases hends with rfl | ⟨k, more, rfl, hmore⟩
    · rw [List.append_nil] at hrest ⊢
      exact hword.readPlain_last hn htail hcolumn hrest
    have hrest' : c.rest = word ++ (spaces (k + 1) ++ (more ++ '\n' :: spaces n ++ tail)) := by
      simpa using hrest
    have hhead : ∀ d ∈ (more ++ '\n' :: spaces n ++ tail).head?, isGap d = false := by
      obtain ⟨d, hd, hgap, _⟩ := hmore.head
      intro e he
      simp only [List.append_assoc, List.head?_append, Option.mem_def.mp hd, Option.some_or,
        Option.mem_def, Option.some.injEq] at he
      exact he ▸ hgap
    have hcolumn' : (c.skip (word.length + (k + 1))).column = c.column + (word.length + (k + 1)) :=
      rfl
    obtain ⟨next, hnext, hend⟩ := ih hmore { Gap.empty with blanks := spaces (k + 1) }
      (seen ++ gap.text ++ word) (c.skip (word.length + (k + 1))) (by omega) (by omega)
      (by simp [Cursor.skip, hrest', spaces]) (by simp [spaces] at hfuel; omega)
    refine ⟨next, ?_, hend⟩
    rw [hword.readPlain_spaces hcolumn hindent hhead hrest', hnext]
    simp [Gap.text, Gap.empty]

theorem hasPair_eq_false {p q : Char → Bool} {text : List Char} :
    hasPair p q text = false ↔ text.IsChain fun c d ↦ ¬(p c ∧ q d) := by
  induction text with
  | nil => simp [hasPair]
  | cons c text ih =>
    cases text with
    | nil => simp [hasPair]
    | cons d text =>
      rw [List.isChain_cons_cons, ← ih]
      simp [hasPair]

theorem allowsSingle_iff {text : List Char} :
    Style.allowsSingle text ↔ (∀ c ∈ text, isPrintable c) ∧
      (text.IsChain fun c d ↦ ¬(isSpace c ∧ isBreak d)) ∧
      text.IsChain fun c d ↦ ¬(isBreak c ∧ isSpace d) := by
  rw [Style.allowsSingle, Style.needsEscape, ← hasPair_eq_false, ← hasPair_eq_false]
  simp [and_assoc]

/-- What may be written plainly is read back. -/
theorem plainText_of_allowsPlain {text : List Char} (hne : text ≠ [])
    (h : Style.allowsPlain text) : PlainText text := by
  obtain ⟨c, rest, rfl⟩ := List.exists_cons_of_ne_nil hne
  simp only [Style.allowsPlain, Style.holdsStructure, Bool.and_eq_true, Bool.not_eq_true',
    Bool.or_eq_false_iff, hasPair_eq_false, beq_eq_false_iff_ne] at h
  obtain ⟨⟨⟨⟨⟨hsingle, hbreaks⟩, hfirst⟩, hlast⟩, hopens⟩, ⟨hcolons, hcolon⟩, hcomments⟩ := h
  have hprintable := (allowsSingle_iff.mp hsingle).1
  have hgaps (d : Char) (hd : d ∈ c :: rest) (hgap : isGap d) : d = ' ' := by
    have hbreak : isBreak d = false := by simpa using List.any_eq_false.mp hbreaks d hd
    refine eq_space_of_isPrintable (hprintable d hd) ?_
    simpa [isGap, hbreak] using hgap
  refine ⟨⟨c, rfl, ?_, ?_⟩, fun d hd ↦ ⟨?_, ?_⟩, hgaps, by simpa using hcolons,
    by simpa using hcomments⟩
  · by_contra hgap
    have hspace := hgaps c List.mem_cons_self (by simpa using hgap)
    simp [hspace, isSpace] at hfirst
  · rintro rfl
    simp [Style.opensStructure, Style.isMark, isIndicator] at hopens
  · rintro rfl
    simp [Option.mem_def.mp hd, isSpace] at hlast
  · rintro rfl
    exact hcolon hd

/-! ## Texts of several lines -/

section Lines

variable {indent : Nat} {write : Char → List Char} {text rest : List Char}

theorem length_le_flatMap (hwrite : ∀ c ∈ text, write c ≠ []) :
    text.length ≤ (text.flatMap write).length := by
  induction text with
  | nil => exact Nat.le_refl _
  | cons c text ih =>
    obtain ⟨hc, htext⟩ := List.forall_mem_cons.mp hwrite
    have := List.length_pos_iff.mpr hc
    have := ih htext
    simp only [List.flatMap_cons, List.length_append, List.length_cons]
    omega

theorem length_le_indented (indent : Nat) (hwrite : ∀ c, write c ≠ []) (lineStarts : Bool)
    (text : List Char) : text.length ≤ (indented indent write lineStarts text).length := by
  induction text generalizing lineStarts with
  | nil => exact Nat.le_refl _
  | cons c text ih =>
    rw [indented]
    split
    · simpa using ih true
    · have := List.length_pos_iff.mpr (hwrite c)
      have := ih false
      simp only [List.length_append, List.length_cons]
      omega

/-- Characters of one line are written one after another. -/
theorem indented_append_line (h : ∀ c ∈ text, isBreak c = false) :
    indented indent write false (text ++ rest) =
      text.flatMap write ++ indented indent write false rest := by
  induction text with
  | nil => rfl
  | cons c text ih =>
    obtain ⟨hc, htext⟩ := List.forall_mem_cons.mp h
    simp [indented, hc, ih htext]

/-- Line breaks are written as they are. -/
theorem indented_append_breaks {first : Char} {breaks : List Char} (hfirst : isBreak first)
    (hbreaks : ∀ c ∈ breaks, isBreak c) (lineStarts : Bool) :
    indented indent write lineStarts (first :: breaks ++ rest) =
      first :: breaks ++ indented indent write true rest := by
  induction breaks generalizing first lineStarts with
  | nil => simp [indented, hfirst]
  | cons c breaks ih =>
    obtain ⟨hc, hbreaks⟩ := List.forall_mem_cons.mp hbreaks
    rw [List.cons_append, indented, if_pos hfirst, ih hc hbreaks true]
    rfl

/-- A line that is not empty begins with the indentation. -/
theorem indented_start {c : Char} (hc : isBreak c = false) :
    indented indent write true (c :: text) =
      spaces indent ++ indented indent write false (c :: text) := by
  simp [indented, hc]

end Lines

end ClusterObjects.Yaml
