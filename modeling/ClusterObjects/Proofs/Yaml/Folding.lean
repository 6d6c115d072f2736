import ClusterObjects.Json.Text
import ClusterObjects.Proofs.Yaml.Quoted

/-!
# JSON strings as scalars in double quotes

A JSON string escapes the control characters below the space. The next-line character and the two
separators of Unicode stand in its quotes as they are, and a scalar in double quotes folds them as
it folds any line break. `fold` is what becomes of a text in this way, and `isKept` tells the texts
that it leaves alone: without a next-line character, without a space beside a separator, and without
a document mark behind one.
-/

namespace ClusterObjects.Yaml

open Style (isGap)

/-! ## Folding -/

def isSeparator (c : Char) : Bool := c == '\u2028' || c == '\u2029'

/-- The line breaks that a JSON string does not escape. -/
def isSoftBreak (c : Char) : Bool := c == '\u0085' || isSeparator c

/-- The blanks and line breaks that a JSON string does not escape. -/
def isSoft (c : Char) : Bool := c == ' ' || isSoftBreak c

/-- A line break as it is kept in a scalar. -/
def breakChar (c : Char) : Char := if c = '\u0085' then '\n' else c

/-- The gap that is made of the characters read so far. -/
def gapOf (soft : List Char) : Gap :=
  match soft.filter isBreak with
  | [] => { Gap.empty with blanks := soft }
  | first :: more => ⟨[], true, [breakChar first], more.map breakChar⟩

/-- Whether a text begins with a character `count` times and then a gap. -/
def beginsMark (d : Char) : (count : Nat) → List Char → Bool
  | 0, text => text.head?.any isSoft
  | _ + 1, [] => false
  | count + 1, c :: rest => c == d && beginsMark d count rest

/-- Whether a text at the start of a line would begin or end a document. -/
def opensDocument (text : List Char) : Bool := beginsMark '-' 3 text || beginsMark '.' 3 text

/-- Folds a text with the characters `soft` of a gap in front. A document mark at the start of a
line leaves nothing. -/
def foldFrom : (soft text : List Char) → Option (List Char)
  | soft, [] => some (gapOf soft).text
  | soft, c :: rest =>
    if isSoft c then foldFrom (soft ++ [c]) rest
    else if soft.getLast?.any isBreak && opensDocument (c :: rest) then none
    else (foldFrom [] rest).map fun folded ↦ (gapOf soft).text ++ c :: folded

/-- What a text becomes in double quotes. -/
def fold (text : List Char) : Option (List Char) := foldFrom [] text

/-- Whether a text is left alone. -/
def isKept : List Char → Bool
  | [] => true
  | c :: rest =>
    c != '\u0085' && !(c == ' ' && rest.head?.any isSeparator)
      && !(isSeparator c && (rest.head? == some ' ' || opensDocument rest)) && isKept rest

/-! ## What is left alone -/

section Kept

variable {c d : Char} {soft text rest : List Char}

theorem isSoft_cases (h : isSoft c) : c = ' ' ∨ c = '\u0085' ∨ c = '\u2028' ∨ c = '\u2029' := by
  simp only [isSoft, isSoftBreak, isSeparator, Bool.or_eq_true, beq_iff_eq] at h
  tauto

theorem eq_space_of_isSoft (h : isSoft c) (hbreak : isBreak c = false) : c = ' ' := by
  obtain rfl | rfl | rfl | rfl := isSoft_cases h
  · rfl
  all_goals exact absurd hbreak (by decide)

theorem isBlank_of_isSoft (h : isSoft c) (hbreak : isBreak c) : isBlank c = false := by
  obtain rfl | rfl | rfl | rfl := isSoft_cases h
  · exact absurd hbreak (by decide)
  all_goals rfl

theorem isSeparator_eq_false (h : isSoft c = false) : isSeparator c = false := by
  simp only [isSoft, isSoftBreak, Bool.or_eq_false_iff] at h
  exact h.2.2

theorem beginsMark_of_isSoft {count : Nat} (hd : isSoft d = false)
    (h : ∀ c ∈ text.head?, isSoft c) : beginsMark d (count + 1) text = false := by
  cases text with
  | nil => rfl
  | cons c rest =>
    have hne : c ≠ d := by
      rintro rfl
      simp [h c rfl] at hd
    simp [beginsMark, hne]

theorem opensDocument_of_isSoft (h : ∀ c ∈ text.head?, isSoft c) : opensDocument text = false := by
  rw [opensDocument, beginsMark_of_isSoft rfl h, beginsMark_of_isSoft rfl h]
  rfl

/-- A gap is left alone when it is made of spaces or of separators. -/
theorem isKept_soft_iff (h : ∀ c ∈ soft, isSoft c) :
    isKept soft = true ↔ (∀ c ∈ soft, c = ' ') ∨ ∀ c ∈ soft, isSeparator c := by
  induction soft with
  | nil => simp [isKept]
  | cons c soft ih =>
    obtain ⟨hc, hsoft⟩ := List.forall_mem_cons.mp h
    have hopens := opensDocument_of_isSoft fun d hd ↦ hsoft d (List.mem_of_mem_head? hd)
    rw [isKept, hopens]
    simp only [Bool.and_eq_true, ih hsoft, List.forall_mem_cons]
    cases soft with
    | nil => obtain rfl | rfl | rfl | rfl := isSoft_cases hc <;> simp [isSeparator]
    | cons d soft =>
      obtain rfl | rfl | rfl | rfl := isSoft_cases hc <;>
        obtain rfl | rfl | rfl | rfl := isSoft_cases (hsoft d List.mem_cons_self) <;>
        simp [isSeparator]

theorem length_gapOf_le (soft : List Char) : (gapOf soft).text.length ≤ soft.length := by
  have hlength := List.length_filter_le isBreak soft
  unfold gapOf
  cases hbreaks : soft.filter isBreak with
  | nil => exact Nat.le_refl _
  | cons first more =>
    rw [hbreaks, List.length_cons] at hlength
    simp only [Gap.text, if_true]
    split
    · split
      · exact Nat.le_trans (Nat.le_add_left 1 _) hlength
      · rw [List.length_map]
        omega
    · simpa [Nat.add_comm] using hlength

theorem filter_isBreak_of_spaces (h : ∀ c ∈ soft, c = ' ') : soft.filter isBreak = [] :=
  List.filter_eq_nil_iff.mpr fun c hc ↦ by rw [h c hc]; decide

theorem isBreak_of_isSeparator (h : isSeparator c) : isBreak c := by
  simp only [isSeparator, Bool.or_eq_true, beq_iff_eq] at h
  obtain rfl | rfl := h <;> rfl

theorem breakChar_of_isSeparator (h : isSeparator c) : breakChar c = c := by
  simp only [isSeparator, Bool.or_eq_true, beq_iff_eq] at h
  obtain rfl | rfl := h <;> rfl

theorem gapOf_separators (h : ∀ c ∈ soft, isSeparator c) : (gapOf soft).text = soft := by
  have hfilter : soft.filter isBreak = soft :=
    List.filter_eq_self.mpr fun c hc ↦ isBreak_of_isSeparator (h c hc)
  have hmap : soft.map breakChar = soft :=
    (List.map_inj_left.mpr fun c hc ↦ breakChar_of_isSeparator (h c hc)).trans (List.map_id soft)
  unfold gapOf
  rw [hfilter]
  cases soft with
  | nil => rfl
  | cons first more =>
    obtain ⟨hfirst, hmore⟩ := List.cons.inj hmap
    have hfeed : first ≠ '\n' := by
      rintro rfl
      exact absurd (h _ List.mem_cons_self) (by decide)
    simp [Gap.text, hfirst, hmore, hfeed]

/-- A gap becomes itself when nothing of it is dropped or changed. -/
theorem text_gapOf_eq_iff (h : ∀ c ∈ soft, isSoft c) :
    (gapOf soft).text = soft ↔ isKept soft = true := by
  rw [isKept_soft_iff h]
  refine ⟨fun htext ↦ ?_, ?_⟩
  · have hlength := List.length_filter_le isBreak soft
    unfold gapOf at htext
    cases hbreaks : soft.filter isBreak with
    | nil =>
      exact .inl fun c hc ↦ eq_space_of_isSoft (h c hc) (Bool.eq_false_iff.mpr
        (List.filter_eq_nil_iff.mp hbreaks c hc))
    | cons first more =>
      rw [hbreaks] at htext
      rw [hbreaks, List.length_cons] at hlength
      by_cases hfirst : breakChar first = '\n'
      · -- A next-line character in front takes one character at least from the gap.
        simp only [Gap.text, if_true, hfirst, List.isEmpty_iff] at htext
        split at htext
        · rw [← htext] at hbreaks
          exact absurd hbreaks (List.cons_ne_nil first more).symm
        · rw [← htext, List.length_map] at hlength
          omega
      · have hmap : (soft.filter isBreak).map breakChar = soft := by
          rw [hbreaks]
          simpa [Gap.text, hfirst] using htext
        have hall : soft.filter isBreak = soft := by
          rw [List.filter_eq_self, ← List.length_filter_eq_length_iff]
          simpa using congrArg List.length hmap
        rw [hall] at hmap
        have hkept := List.map_inj_left.mp (hmap.trans (List.map_id soft).symm)
        refine .inr fun c hc ↦ ?_
        have hbreak := List.filter_eq_self.mp hall c hc
        have hself := hkept c hc
        obtain rfl | rfl | rfl | rfl := isSoft_cases (h c hc) <;>
          simp [isBreak, breakChar, isSeparator] at hbreak hself ⊢
  · rintro (hspaces | hseparators)
    · unfold gapOf
      rw [filter_isBreak_of_spaces hspaces]
      rfl
    · exact gapOf_separators hseparators

theorem length_le_of_foldFrom {folded : List Char} (h : foldFrom soft text = some folded) :
    folded.length ≤ soft.length + text.length := by
  induction text generalizing soft folded with
  | nil =>
    obtain rfl := Option.some.inj h
    exact length_gapOf_le soft
  | cons c rest ih =>
    rw [foldFrom] at h
    split at h
    · have hlength := ih h
      simp only [List.length_append, List.length_cons, List.length_nil] at hlength ⊢
      omega
    · split at h
      · exact nomatch h
      · obtain ⟨more, hmore, rfl⟩ := Option.map_eq_some_iff.mp h
        have hlength := ih hmore
        have hgap := length_gapOf_le soft
        simp only [List.length_append, List.length_cons, List.length_nil] at hlength ⊢
        omega

theorem isKept_cons (hc : isSoft c = false) : isKept (c :: rest) = isKept rest := by
  have hseparator := isSeparator_eq_false hc
  simp only [isSoft, isSoftBreak, Bool.or_eq_false_iff] at hc
  simp [isKept, hseparator, bne, hc]

/-- A gap, and the text behind it. -/
theorem isKept_append (hsoft : ∀ c ∈ soft, isSoft c) (hc : isSoft c = false) :
    isKept (soft ++ c :: rest) = (isKept soft
      && !(soft.getLast?.any isBreak && opensDocument (c :: rest)) && isKept rest) := by
  induction soft with
  | nil => simpa [isKept] using isKept_cons hc
  | cons d soft ih =>
    obtain ⟨hd, hsoft⟩ := List.forall_mem_cons.mp hsoft
    have hseparator := isSeparator_eq_false hc
    have hspace : (c == ' ') = false := by
      rw [beq_eq_false_iff_ne]
      rintro rfl
      exact absurd hc (by decide)
    cases soft with
    | nil =>
      have hnone : opensDocument [] = false := rfl
      rw [List.singleton_append, isKept, isKept_cons hc]
      obtain rfl | rfl | rfl | rfl := isSoft_cases hd <;>
        simp [isKept, isBreak, hnone, hseparator, hspace, show isSeparator ' ' = false from rfl,
          show isSeparator '\u2028' = true from rfl, show isSeparator '\u2029' = true from rfl]
    | cons e soft =>
      have he := hsoft e List.mem_cons_self
      have hopens (more : List Char) : opensDocument (e :: more) = false :=
        opensDocument_of_isSoft fun x hx ↦ by rwa [← Option.some.inj hx]
      have hstep (more : List Char) : isKept (d :: e :: more) = (d != '\u0085'
          && !(d == ' ' && isSeparator e) && !(isSeparator d && (some e == some ' ' || false))
          && isKept (e :: more)) := by
        rw [isKept, hopens]
        rfl
      rw [List.cons_append, List.cons_append, hstep, hstep, ← List.cons_append, ih hsoft,
        List.getLast?_cons_cons, Bool.and_assoc, Bool.and_assoc, Bool.and_assoc]
      simp only [Bool.and_assoc]

/-- A text with part of a gap in front is left alone when both parts are. -/
theorem foldFrom_eq_some_iff (hsoft : ∀ c ∈ soft, isSoft c) :
    foldFrom soft text = some (soft ++ text) ↔ isKept (soft ++ text) = true := by
  induction text generalizing soft with
  | nil =>
    rw [foldFrom, Option.some.injEq, List.append_nil]
    exact text_gapOf_eq_iff hsoft
  | cons c rest ih =>
    cases hc : isSoft c with
    | true =>
      have hmore : ∀ d ∈ soft ++ [c], isSoft d :=
        List.forall_mem_append.mpr ⟨hsoft, by simpa using hc⟩
      rw [foldFrom, if_pos hc, List.append_cons soft c rest, ih hmore]
    | false =>
      have hrest : foldFrom [] rest = some rest ↔ isKept rest = true := ih (List.forall_mem_nil _)
      rw [foldFrom, if_neg (by simp [hc]), isKept_append hsoft hc]
      cases soft.getLast?.any isBreak && opensDocument (c :: rest) with
      | true => simp
      | false =>
        simp only [Bool.false_eq_true, if_false, Bool.not_false, Bool.and_true, Bool.and_eq_true,
          ← text_gapOf_eq_iff hsoft, ← hrest]
        constructor
        · intro h
          obtain ⟨folded, hfolded, heq⟩ := Option.map_eq_some_iff.mp h
          have hlength := length_le_of_foldFrom hfolded
          have hgap := length_gapOf_le soft
          have htotal := congrArg List.length heq
          simp only [List.length_append, List.length_cons, List.length_nil] at hlength htotal
          obtain ⟨htext, htail⟩ := List.append_inj heq (by omega)
          obtain rfl := (List.cons.inj htail).2
          exact ⟨htext, hfolded⟩
        · rintro ⟨htext, hfolded⟩
          rw [hfolded, Option.map_some, htext]

theorem fold_eq_some_iff : fold text = some text ↔ isKept text = true :=
  foldFrom_eq_some_iff (List.forall_mem_nil _)

/-- A text without line breaks is left alone. -/
theorem fold_of_line (h : ∀ c ∈ text, isSoftBreak c = false) : fold text = some text := by
  rw [fold_eq_some_iff]
  induction text with
  | nil => rfl
  | cons c rest ih =>
    obtain ⟨hc, hrest⟩ := List.forall_mem_cons.mp h
    have hhead : rest.head?.any isSeparator = false := by
      cases rest with
      | nil => rfl
      | cons d rest => exact (Bool.or_eq_false_iff.mp (hrest d List.mem_cons_self)).2
    obtain ⟨hnext, hseparator⟩ := Bool.or_eq_false_iff.mp hc
    simp [isKept, hhead, hseparator, ih hrest, bne, hnext]

end Kept

/-! ## Folding piece by piece -/

section Pieces

variable {word soft text : List Char}

theorem fold_append (hword : ∀ c ∈ word, isSoft c = false) :
    fold (word ++ text) = (fold text).map (word ++ ·) := by
  induction word with
  | nil => exact (Option.map_id_apply).symm
  | cons c word ih =>
    obtain ⟨hc, hword⟩ := List.forall_mem_cons.mp hword
    have hstep (rest : List Char) : fold (c :: rest) = (fold rest).map (c :: ·) := by
      rw [fold, foldFrom, if_neg (by simp [hc])]
      rfl
    rw [List.cons_append, hstep, ih hword, Option.map_map]
    rfl

theorem foldFrom_append {more : List Char} (hmore : ∀ c ∈ more, isSoft c) :
    foldFrom soft (more ++ text) = foldFrom (soft ++ more) text := by
  induction more generalizing soft with
  | nil => rw [List.nil_append, List.append_nil]
  | cons c more ih =>
    obtain ⟨hc, hmore⟩ := List.forall_mem_cons.mp hmore
    rw [List.cons_append, foldFrom, if_pos hc, ih hmore, ← List.append_cons]

/-- A gap is folded when the next word begins. -/
theorem foldFrom_eq (htext : ∀ c ∈ text.head?, isSoft c = false) : foldFrom soft text =
    if soft.getLast?.any isBreak && opensDocument text then none
    else (fold text).map ((gapOf soft).text ++ ·) := by
  cases text with
  | nil =>
    have hopens : opensDocument [] = false := rfl
    rw [hopens, Bool.and_false]
    exact congrArg some (List.append_nil _).symm
  | cons c rest =>
    have hc : ¬ isSoft c = true := by simp [htext c rfl]
    rw [fold, foldFrom, if_neg hc, foldFrom, if_neg hc]
    congr 1
    exact (Option.map_map ..).symm

end Pieces

/-! ## What is written between the quotes -/

section Written

variable {c : Char} {text : List Char}

/-- What a JSON string writes for a text, up to its closing quote and beyond. -/
def written (text rest : List Char) : List Char := text.flatMap Json.escape ++ '"' :: rest

theorem escape_of_isSoft (h : isSoft c) : Json.escape c = [c] := by
  obtain rfl | rfl | rfl | rfl := isSoft_cases h <;> decide

/-- The ways in which a character that is not soft is written. -/
theorem escape_cases (c : Char) :
    Json.escape c = [c] ∧ c ≠ '"' ∧ c ≠ '\\' ∧ 32 ≤ c.toNat ∨
    (∃ e, Json.escape c = ['\\', e] ∧ isBreak e = false ∧ escapeDigits e = 0 ∧
      escapedChar? e = some c) ∨
    Json.escape c = '\\' :: 'u' :: '0' :: '0' :: Json.hexPair c.toNat ∧ c.toNat < 32 := by
  unfold Json.escape
  split_ifs with h₁ h₂ h₃ h₄ h₅ h₆ h₇ h₈
  · exact .inr (.inl ⟨'"', rfl, rfl, rfl, by subst h₁; rfl⟩)
  · exact .inr (.inl ⟨'\\', rfl, rfl, rfl, by subst h₂; rfl⟩)
  · exact .inr (.inl ⟨'n', rfl, rfl, rfl, h₃ ▸ rfl⟩)
  · exact .inr (.inl ⟨'r', rfl, rfl, rfl, h₄ ▸ rfl⟩)
  · exact .inr (.inl ⟨'t', rfl, rfl, rfl, h₅ ▸ rfl⟩)
  · exact .inr (.inl ⟨'b', rfl, rfl, rfl, h₆ ▸ rfl⟩)
  · exact .inr (.inl ⟨'f', rfl, rfl, rfl, h₇ ▸ rfl⟩)
  · exact .inr (.inr ⟨rfl, h₈⟩)
  · exact .inl ⟨rfl, h₁, h₂, Nat.le_of_not_lt h₈⟩

theorem escape_ne_nil (c : Char) : Json.escape c ≠ [] := by
  obtain ⟨h, -⟩ | ⟨e, h, -⟩ | ⟨h, -⟩ := escape_cases c <;> simp [h]

theorem head?_escape (c : Char) :
    (Json.escape c).head? = some '\\' ∨ Json.escape c = [c] ∧ 32 ≤ c.toNat := by
  obtain ⟨h, -, -, hc⟩ | ⟨e, h, -⟩ | ⟨h, -⟩ := escape_cases c
  · exact .inr ⟨h, hc⟩
  · exact .inl (by rw [h]; rfl)
  · exact .inl (by rw [h]; rfl)

/-- A gap that is written as it is. -/
theorem isSoft_of_isGap (hgap : isGap c) (hc : 32 ≤ c.toNat) : isSoft c := by
  simp only [isGap, isBlank, isBreak, Bool.or_eq_true, beq_iff_eq] at hgap
  rcases hgap with (rfl | rfl) | (((rfl | rfl) | rfl) | rfl) | rfl <;>
    first | rfl | exact absurd hc (by decide)

theorem isGap_of_isSoft (h : isSoft c) : isGap c := by
  obtain rfl | rfl | rfl | rfl := isSoft_cases h <;> rfl

theorem not_isGap_head_escape (h : isSoft c = false) :
    ∀ d ∈ (Json.escape c).head?, isGap d = false := by
  intro d hd
  obtain hhead | ⟨hself, hc⟩ := head?_escape c
  · obtain rfl := Option.some.inj (hhead.symm.trans hd)
    rfl
  · rw [hself] at hd
    obtain rfl := Option.some.inj hd
    by_contra hgap
    simp [isSoft_of_isGap (by simpa using hgap) hc] at h

theorem hexNumber?_hexPair {n : Nat} (h : n < 32) :
    Json.Token.hexNumber? ('0' :: '0' :: Json.hexPair n) = some n := by
  have hall : (List.range 32).all fun n ↦
      Json.Token.hexNumber? ('0' :: '0' :: Json.hexPair n) == some n := by decide
  simpa using List.all_eq_true.mp hall n (List.mem_range.mpr h)

/-- Every character that is no part of a gap is read back as it is. -/
theorem readsBack_jsonEscape (h : isSoft c = false) : ReadsBack false Json.escape c := by
  refine ⟨escape_ne_nil c, fun fuel cursor rest hrest ↦ ?_⟩
  obtain ⟨hc, hquote, hbackslash, hprintable⟩ | ⟨e, hc, hbreak, hcount, hletter⟩ | ⟨hc, hcontrol⟩ :=
    escape_cases c
  · have hgap : isGap c = false := by
      by_contra hgap
      simp [isSoft_of_isGap (by simpa using hgap) hprintable] at h
    obtain ⟨hblank, hbreak⟩ := Bool.or_eq_false_iff.mp hgap
    rw [hc] at hrest ⊢
    rw [quotedWord, hrest]
    cases hword : quotedWord false fuel (cursor.skip 1) <;>
      simp [hblank, hbreak, hquote, hbackslash, hword, prepend]
  · rw [hc] at hrest ⊢
    exact quotedWord_letter hbreak hcount hletter hrest
  · rw [hc] at hrest ⊢
    exact quotedWord_digits rfl rfl (List.cons_ne_nil _ _) (hexNumber?_hexPair hcontrol) hrest

end Written

/-! ## Reading the quotes -/

section Reading

variable {c : Cursor} {d : Char} {soft text rest : List Char}

theorem written_cons (e : Char) (text rest : List Char) :
    written (e :: text) rest = Json.escape e ++ written text rest := by
  rw [written, List.flatMap_cons, List.append_assoc]
  rfl

/-- What begins with dashes or dots when it is written began with them before. -/
theorem beginsMark_eq (hd : d = '-' ∨ d = '.') (count : Nat) (text rest : List Char) :
    beginsMark d count text = ((List.replicate count d).isPrefixOf (written text rest) &&
      ((written text rest).drop count).head?.all isGap) := by
  induction count generalizing text with
  | zero =>
    cases text with
    | nil => rfl
    | cons e text =>
      have hgap : (written (e :: text) rest).head?.all isGap = isSoft e := by
        rw [written_cons, List.head?_append_of_ne_nil _ (escape_ne_nil e)]
        cases he : isSoft e with
        | true =>
          rw [escape_of_isSoft he]
          exact isGap_of_isSoft he
        | false =>
          obtain ⟨x, tail, hx⟩ := List.exists_cons_of_ne_nil (escape_ne_nil e)
          have := not_isGap_head_escape he x (by rw [hx]; rfl)
          rwa [hx]
      exact hgap.symm
  | succ count ih =>
    cases text with
    | nil => obtain rfl | rfl := hd <;> rfl
    | cons e text =>
      rw [beginsMark, written_cons, List.replicate_succ]
      by_cases he : e = d
      · have hself : Json.escape e = [e] := by
          obtain rfl | rfl := hd <;> subst he <;> decide
        rw [hself, ih, he]
        simp
      · obtain ⟨x, tail, hx⟩ := List.exists_cons_of_ne_nil (escape_ne_nil e)
        have hne : d ≠ x := by
          obtain hhead | ⟨hself, -⟩ := head?_escape e
          · rw [hx] at hhead
            obtain rfl := Option.some.inj hhead
            obtain rfl | rfl := hd <;> decide
          · obtain rfl := (List.cons.inj (hself.symm.trans hx)).1
            exact Ne.symm he
        rw [hx]
        simp [beq_eq_false_iff_ne.mpr he, hne]

theorem atDocumentMark_eq (c : Cursor) (d : Char) : c.atDocumentMark d = (c.column == 0 &&
    ((List.replicate 3 d).isPrefixOf c.rest && (c.rest.drop 3).head?.all isGap)) := by
  have hgap : c.gapAt 3 = (c.rest.drop 3).head?.all isGap := rfl
  rw [Cursor.atDocumentMark, hgap, Cursor.is_eq, Cursor.isAt, Cursor.isAt, Cursor.peekAt,
    Cursor.peekAt]
  rcases c.rest with _ | ⟨x, _ | ⟨y, _ | ⟨z, rest⟩⟩⟩
  iterate 3 simp [List.replicate, List.isPrefixOf]
  simp [List.replicate, List.isPrefixOf, Bool.and_assoc, BEq.comm (a := d)]

theorem atDocumentBoundary_written (hrest : c.rest = written text rest) :
    c.atDocumentBoundary = (c.column == 0 && opensDocument text) := by
  rw [Cursor.atDocumentBoundary, atDocumentMark_eq, atDocumentMark_eq, hrest,
    ← beginsMark_eq (.inl rfl), ← beginsMark_eq (.inr rfl), ← Bool.and_or_distrib_left]
  rfl

/-- Passes the characters of a gap. -/
def Cursor.passGap : List Char → Cursor → Cursor
  | [], c => c
  | d :: soft, c => passGap soft (if isBreak d then c.nextLine else c.skip 1)

/-- Where a reader stands that has passed a text and its closing quote. -/
structure Behind (c : Cursor) (text rest : List Char) (next : Cursor) : Prop where
  rest : next.rest = rest
  index : next.index = c.index + (text.flatMap Json.escape).length + 1
  line : next.line = c.line + text.countP isSoftBreak
  column : 0 < next.column

theorem isSoftBreak_eq (h : isSoft d) : isSoftBreak d = isBreak d := by
  obtain rfl | rfl | rfl | rfl := isSoft_cases h <;> rfl

theorem nextLine_eq {back : List Char} (hd : isSoft d) (hrest : c.rest = d :: back) :
    c.nextLine = ⟨back, c.index + 1, c.line + 1, 0⟩ := by
  have hreturn : d ≠ '\r' := by
    rintro rfl
    exact absurd hd (by decide)
  unfold Cursor.nextLine
  rw [hrest]
  split
  · rename_i heq
    exact absurd (List.cons.inj heq).1 hreturn
  · rfl

/-- What passing one character of a gap does. -/
theorem step_eq {back : List Char} (hd : isSoft d) (hrest : c.rest = d :: back) :
    (if isBreak d then c.nextLine else c.skip 1) = ⟨back, c.index + 1,
      c.line + if isSoftBreak d then 1 else 0, if isSoftBreak d then 0 else c.column + 1⟩ := by
  rw [isSoftBreak_eq hd, nextLine_eq hd hrest]
  cases isBreak d
  · simp [Cursor.skip, hrest]
  · rfl

/-- Where a gap ends, and that it ends at the start of a line when its last character is a break. -/
theorem passGap_eq {back : List Char} (hsoft : ∀ d ∈ soft, isSoft d)
    (hrest : c.rest = soft ++ back) :
    (c.passGap soft).rest = back ∧ (c.passGap soft).index = c.index + soft.length ∧
      (c.passGap soft).line = c.line + soft.countP isSoftBreak ∧
      (soft ≠ [] → ((c.passGap soft).column == 0) = soft.getLast?.any isBreak) := by
  induction soft generalizing c with
  | nil => exact ⟨hrest, rfl, rfl, absurd rfl⟩
  | cons d soft ih =>
    obtain ⟨hd, hsoft⟩ := List.forall_mem_cons.mp hsoft
    have hstep := step_eq hd hrest
    obtain ⟨hback, hindex, hline, hcolumn⟩ :=
      ih hsoft (congrArg Cursor.rest hstep)
    rw [hstep] at hindex hline
    refine ⟨hback, ?_, ?_, fun _ ↦ ?_⟩
    · rw [Cursor.passGap, hstep, hindex, List.length_cons, Nat.add_assoc, Nat.add_comm 1]
    · rw [Cursor.passGap, hstep, hline, List.countP_cons, Nat.add_assoc, Nat.add_comm (ite _ _ _)]
    · cases soft with
      | nil =>
        rw [Cursor.passGap, Cursor.passGap, hstep, isSoftBreak_eq hd]
        cases hbreak : isBreak d <;> simp [hbreak]
      | cons e soft => exact hcolumn (List.cons_ne_nil e soft)

theorem breakText_of_isSoft {back : List Char} (hd : isSoft d) (hbreak : isBreak d)
    (hrest : c.rest = d :: back) : c.breakText = [breakChar d] := by
  rw [Cursor.breakText, Cursor.peek, hrest]
  obtain rfl | rfl | rfl | rfl := isSoft_cases hd
  · exact absurd hbreak (by decide)
  all_goals rfl

theorem gapOf_space (seen : List Char) : gapOf (seen ++ [' ']) =
    if (gapOf seen).broken then gapOf seen
    else { gapOf seen with blanks := (gapOf seen).blanks ++ [' '] } := by
  have hfilter : (seen ++ [' ']).filter isBreak = seen.filter isBreak := by
    rw [List.filter_append]
    exact List.append_nil _
  unfold gapOf
  rw [hfilter]
  cases seen.filter isBreak <;> rfl

theorem gapOf_break (seen : List Char) (hbreak : isBreak d) : gapOf (seen ++ [d]) =
    if (gapOf seen).broken then { gapOf seen with more := (gapOf seen).more ++ [breakChar d] }
    else { gapOf seen with blanks := [], broken := true, first := [breakChar d] } := by
  have hfilter : (seen ++ [d]).filter isBreak = seen.filter isBreak ++ [d] := by
    rw [List.filter_append, List.filter_singleton, hbreak]
    rfl
  unfold gapOf
  rw [hfilter]
  cases seen.filter isBreak with
  | nil => rfl
  | cons first more => simp

/-- A gap is read one character after another, and nothing else is remembered of it. -/
theorem readGap_soft {fuel : Nat} (seen : List Char) {back : List Char}
    (hsoft : ∀ d ∈ soft, isSoft d)
    (hback : ∀ d ∈ back.head?, isGap d = false) (hrest : c.rest = soft ++ back)
    (hfuel : soft.length ≤ fuel) :
    readGap none fuel (gapOf seen) c = some (gapOf (seen ++ soft), c.passGap soft) := by
  induction soft generalizing fuel seen c with
  | nil => rw [readGap_stop (by simpa [hrest] using hback), List.append_nil, Cursor.passGap]
  | cons d soft ih =>
    obtain ⟨hd, hsoft⟩ := List.forall_mem_cons.mp hsoft
    obtain ⟨fuel, rfl⟩ := Nat.exists_eq_add_of_le' (show 1 ≤ fuel by simp at hfuel; omega)
    have hstep := step_eq hd hrest
    have hnext := ih (seen ++ [d]) hsoft (congrArg Cursor.rest hstep)
      (Nat.le_of_succ_le_succ hfuel)
    rw [List.append_cons, Cursor.passGap, ← hnext, readGap]
    cases hbreak : isBreak d with
    | true =>
      have hblank := isBlank_of_isSoft hd hbreak
      rw [gapOf_break seen hbreak, breakText_of_isSoft hd hbreak hrest]
      simp [Cursor.sees_eq, hrest, hblank, hbreak]
    | false =>
      obtain rfl := eq_space_of_isSoft hd hbreak
      rw [gapOf_space seen]
      simp [Cursor.sees_eq, hrest, isBlank]

theorem countP_isSoftBreak (h : ∀ d ∈ text, isSoft d = false) : text.countP isSoftBreak = 0 :=
  List.countP_eq_zero.mpr fun d hd ↦ by
    have hsoft := h d hd
    simp only [isSoft, Bool.or_eq_false_iff] at hsoft
    simp [hsoft.2]

theorem flatMap_escape_soft (hsoft : ∀ d ∈ soft, isSoft d) : soft.flatMap Json.escape = soft := by
  induction soft with
  | nil => rfl
  | cons d soft ih =>
    obtain ⟨hd, hsoft⟩ := List.forall_mem_cons.mp hsoft
    rw [List.flatMap_cons, escape_of_isSoft hd, ih hsoft]
    rfl

theorem written_append_soft (hsoft : ∀ d ∈ soft, isSoft d) :
    written (soft ++ text) rest = soft ++ written text rest := by
  rw [written, List.flatMap_append, flatMap_escape_soft hsoft, List.append_assoc]
  rfl

theorem not_isGap_head_written (htext : ∀ d ∈ text.head?, isSoft d = false) :
    ∀ d ∈ (written text rest).head?, isGap d = false := by
  cases text with
  | nil =>
    rintro _ ⟨⟩
    rfl
  | cons e text =>
    rw [written_cons, List.head?_append_of_ne_nil _ (escape_ne_nil e)]
    exact not_isGap_head_escape (htext e rfl)

/-- No scalar is read at the start or the end of a document. -/
theorem readQuoted_boundary (fuel : Nat) (seen : List Char) (h : c.atDocumentBoundary = true) :
    readQuoted false fuel seen c = none := by
  cases fuel with
  | zero => rfl
  | succ fuel =>
    rw [readQuoted, h]
    rfl

theorem readsBack_of_solid (h : ∀ d ∈ text, isSoft d = false) :
    ∀ d ∈ text, ReadsBack false Json.escape d := fun d hd ↦ readsBack_jsonEscape (h d hd)

/-- The last word of a string, and the closing quote. -/
theorem readQuoted_lastWord (fuel : Nat) (seen : List Char) (hword : ∀ d ∈ text, isSoft d = false)
    (hboundary : c.atDocumentBoundary = false) (hrest : c.rest = written text rest) :
    ∃ next, readQuoted false (fuel + 1) seen c = some (seen ++ text, next) ∧
      Behind c text rest next := by
  refine ⟨c.skip ((text.flatMap Json.escape).length + 1), ?_, ?_⟩
  · rw [readQuoted_word hboundary (readsBack_of_solid hword) hrest (List.cons_ne_nil _ _)
      (.inr ⟨rfl, nofun⟩)]
    exact if_pos rfl
  · refine ⟨Cursor.rest_skip_append_cons hrest, (Nat.add_assoc ..).symm, ?_,
      Nat.add_pos_right _ (Nat.succ_pos _)⟩
    rw [countP_isSoftBreak hword]
    rfl

/-- Where a reader stands that has passed a word and the gap behind it, in front of the next
word. -/
structure Passed (c : Cursor) (word soft more rest : List Char) (next : Cursor) : Prop where
  rest : next.rest = written more rest
  index : next.index = c.index + (word.flatMap Json.escape).length + soft.length
  line : next.line = c.line + soft.countP isSoftBreak
  boundary : next.atDocumentBoundary = (soft.getLast?.any isBreak && opensDocument more)

/-- A word with a gap behind it. -/
theorem readQuoted_wordGap {word more : List Char} (fuel : Nat) (seen : List Char)
    (hword : ∀ d ∈ word, isSoft d = false) (hsoft : ∀ d ∈ soft, isSoft d) (hne : soft ≠ [])
    (hmore : ∀ d ∈ more.head?, isSoft d = false) (hboundary : c.atDocumentBoundary = false)
    (hrest : c.rest = written (word ++ (soft ++ more)) rest) :
    ∃ next, readQuoted false (fuel + 1) seen c =
        readQuoted false fuel (seen ++ word ++ (gapOf soft).text) next ∧
      Passed c word soft more rest next := by
  have hsplit : c.rest = word.flatMap Json.escape ++ (soft ++ written more rest) := by
    rw [hrest, ← written_append_soft hsoft, written, List.flatMap_append, List.append_assoc]
    rfl
  have hskip := Cursor.rest_skip_append hsplit
  have hread := readGap_soft [] hsoft (not_isGap_head_written hmore) hskip
    (show soft.length ≤ (soft ++ written more rest).length by simp)
  have hhead : (soft ++ written more rest).head?.any isGap := by
    obtain ⟨x, soft, rfl⟩ := List.exists_cons_of_ne_nil hne
    exact isGap_of_isSoft (hsoft x List.mem_cons_self)
  obtain ⟨hnext, hindex, hline, hcolumn⟩ := passGap_eq hsoft hskip
  have hopens := atDocumentBoundary_written hnext
  rw [hcolumn hne] at hopens
  exact ⟨_, readQuoted_gap hboundary (readsBack_of_solid hword) hsplit hhead hread,
    hnext, hindex, hline, hopens⟩

theorem Passed.behind {word more : List Char} {middle next : Cursor}
    (h : Passed c word soft more rest middle) (hnext : Behind middle more rest next)
    (hword : ∀ d ∈ word, isSoft d = false) (hsoft : ∀ d ∈ soft, isSoft d) :
    Behind c (word ++ (soft ++ more)) rest next := by
  refine ⟨hnext.rest, ?_, ?_, hnext.column⟩
  · rw [hnext.index, h.index, List.flatMap_append, List.flatMap_append, flatMap_escape_soft hsoft,
      List.length_append, List.length_append]
    omega
  · rw [hnext.line, h.line, List.countP_append, List.countP_append, countP_isSoftBreak hword]
    omega

/-- A text that a JSON string holds is read as what it is folded to, and not read at all when it
would end the document. -/
theorem readQuoted_written (fuel : Nat) (seen text : List Char) (c : Cursor)
    (hboundary : c.atDocumentBoundary = false) (hrest : c.rest = written text rest)
    (hfuel : text.length < fuel) :
    match fold text with
    | some folded => ∃ next, readQuoted false fuel seen c = some (seen ++ folded, next) ∧
        Behind c text rest next
    | none => readQuoted false fuel seen c = none := by
  -- Each step takes a word and the gap behind it, as `fold` does.
  induction fuel generalizing text seen c with
  | zero => omega
  | succ fuel ih =>
    obtain ⟨word, behind, rfl, hword, hbehind⟩ := exists_span (fun c ↦ !isSoft c) text
    have hsolid : ∀ d ∈ word, isSoft d = false := fun d hd ↦ by simpa using hword d hd
    rw [fold_append hsolid]
    rcases behind with _ | ⟨d, behind⟩
    · rw [List.append_nil] at hrest ⊢
      obtain ⟨next, hread, hnext⟩ := readQuoted_lastWord fuel seen hsolid hboundary hrest
      have hempty : word ++ (gapOf []).text = word := List.append_nil word
      exact ⟨next, hread.trans (congrArg (fun found ↦ some (seen ++ found, next)) hempty.symm),
        hnext⟩
    have hd : isSoft d := by simpa using hbehind
    obtain ⟨soft, more, hsplit, hsoft, hmore⟩ := exists_span isSoft (d :: behind)
    have hne : soft ≠ [] := by
      rintro rfl
      rw [List.nil_append] at hsplit
      exact absurd hd (by simp [hmore d (by rw [← hsplit]; rfl)])
    rw [hsplit] at hrest hfuel ⊢
    obtain ⟨middle, hread, hpassed⟩ := readQuoted_wordGap fuel seen hsolid hsoft hne hmore hboundary
      hrest
    rw [hread, fold, foldFrom_append hsoft, List.nil_append, foldFrom_eq hmore]
    cases hmark : soft.getLast?.any isBreak && opensDocument more with
    | true => exact readQuoted_boundary fuel _ (hpassed.boundary.trans hmark)
    | false =>
      have hlength : more.length < fuel := by
        have hpos := List.length_pos_iff.mpr hne
        simp only [List.length_append] at hfuel
        omega
      have hlast := ih (seen ++ word ++ (gapOf soft).text) more middle
        (hpassed.boundary.trans hmark) hpassed.rest hlength
      rw [if_neg Bool.false_ne_true]
      cases hfold : fold more with
      | none =>
        rw [hfold] at hlast
        exact hlast
      | some folded =>
        rw [hfold] at hlast
        obtain ⟨next, hlast, hnext⟩ := hlast
        exact ⟨next, hlast.trans (by simp), hpassed.behind hnext hsolid hsoft⟩

end Reading

end ClusterObjects.Yaml
