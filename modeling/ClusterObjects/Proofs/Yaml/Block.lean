import ClusterObjects.Proofs.Yaml.Scalar

/-!
# Literal blocks

A text with line feeds stands below a header, line by line behind an indentation that reading takes
away again. The header names the indentation where the first line does not show it, and tells how
many of the line breaks at the end belong to the text, so that none is lost and none is added.
-/

namespace ClusterObjects.Yaml

open Style (isGap isPrintable isSpace spaces indented)

/-! ## The header -/

/-- The chomping that keeps the line breaks at the end of a text. -/
def chompingFor (text : List Char) : Chomping :=
  match text.reverse with
  | last :: before =>
    if !isBreak last then .strip else if before.head?.all isBreak then .keep else .clip
  | [] => .strip

/-- Whether the header of a block has to name its indentation. -/
def hidesIndentation (text : List Char) : Bool := text.head?.any fun c ↦ isSpace c || isBreak c

theorem restOfLine?_eq {body : List Char} {c : Cursor} (hrest : c.rest = '\n' :: body) :
    ∃ after, c.restOfLine? = some after ∧ after.rest = body ∧ after.column = 0 := by
  obtain ⟨rest, index, line, column⟩ := c
  dsimp only at hrest
  subst hrest
  exact ⟨⟨body, index + 0 + 1, line + 1, 0⟩, rfl, rfl, rfl⟩

theorem blockHeader_eq {text body : List Char} {c : Cursor}
    (hrest : c.rest = Style.indentation text ++ Style.chomping text ++ '\n' :: body) :
    ∃ next, blockHeader c =
        some (chompingFor text, if hidesIndentation text then some 2 else none, next) ∧
      next.rest = '\n' :: body := by
  obtain ⟨rest, index, line, column⟩ := c
  have hindentation : Style.indentation text = if hidesIndentation text then ['2'] else [] := rfl
  have hchomping : Style.chomping text = match chompingFor text with
      | .strip => ['-']
      | .keep => ['+']
      | .clip => [] := by
    unfold Style.chomping chompingFor
    rcases text.reverse with _ | ⟨last, before⟩
    · rfl
    · cases hbreak : isBreak last <;> cases hmany : before.head?.all isBreak <;>
        simp [hbreak, hmany]
  refine ⟨Cursor.skip _ (Style.indentation text ++ Style.chomping text).length, ?_,
    Cursor.rest_skip_append hrest⟩
  dsimp only at hrest
  rw [hindentation, hchomping] at hrest ⊢
  subst hrest
  cases hidesIndentation text <;> cases chompingFor text <;> rfl

/-! ## Empty lines and indentation -/

theorem length_span_spaces {k : Nat} {more : List Char} {c : Cursor}
    (hrest : c.rest = spaces k ++ more) :
    k ≤ (c.span (· == ' ')).1.length ∧
      ((∀ d ∈ more.head?, d ≠ ' ') → (c.span (· == ' ')).1.length = k) := by
  have hspaces : ∀ d ∈ spaces k, (d == ' ' && !isBreak d) = true := by
    intro d hd
    rw [List.eq_of_mem_replicate hd]
    rfl
  have hlength : (c.span (· == ' ')).1.length =
      k + (more.takeWhile fun d ↦ d == ' ' && !isBreak d).length := by
    rw [Cursor.span, hrest, List.takeWhile_append_of_pos hspaces]
    simp [spaces]
  refine ⟨by omega, fun hmore ↦ ?_⟩
  rw [hlength]
  cases more with
  | nil => rfl
  | cons d more => simp [hmore d rfl]

/-- What may stand behind `k` spaces at the start of a line: the line itself, which has the
indentation of the block, or something further left. -/
def StartsLine (indent k : Nat) (more : List Char) : Prop :=
  ∀ d ∈ more.head?, isBreak d = false ∧ d ≠ '\t' ∧ (d = ' ' → k = indent)

theorem Fresh.startsLine {tail : List Char} (h : Fresh tail) (indent k : Nat) :
    StartsLine indent k tail := by
  intro d hd
  obtain ⟨hblank, hbreak⟩ := Bool.or_eq_false_iff.mp (h d hd).1
  refine ⟨hbreak, ?_, ?_⟩ <;> rintro rfl <;> exact absurd hblank (by decide)

section Breaks

variable {indent k : Nat} {more : List Char} {c : Cursor} (fuel widest : Nat) (seen : List Char)

/-- The indentation of a line, of which no more than the known one is taken. -/
theorem blockBreaks_stop (hk : k ≤ indent) (hmore : StartsLine indent k more)
    (hcolumn : c.column = 0) (hrest : c.rest = spaces k ++ more) :
    ∃ widest', blockBreaks (some indent) (fuel + 1) widest seen c =
      some (widest', seen, c.skip k) := by
  refine ⟨max widest (c.skip k).column, ?_⟩
  obtain ⟨hle, heq⟩ := length_span_spaces hrest
  have hspaces : min (c.span (· == ' ')).1.length (indent - c.column) = k := by
    rcases more with _ | ⟨d, more⟩
    · rw [heq (by simp)]
      omega
    · by_cases hd : d = ' '
      · have := (hmore d rfl).2.2 hd
        omega
      · rw [heq (by simpa using hd)]
        omega
  have hskip := Cursor.rest_skip_spaces (k := k) hrest
  have htab : (c.skip k).is '\t' = false := by
    rw [Cursor.is_eq, hskip, beq_eq_false_iff_ne]
    exact fun h ↦ (hmore _ h).2.1 rfl
  have hbreak : (c.skip k).sees isBreak = false :=
    sees_eq_false fun d hd ↦ (hmore d (hskip ▸ hd)).1
  rw [blockBreaks]
  simp only [hspaces, htab, hbreak, Bool.false_and, Bool.false_eq_true, if_false]

/-- An empty line. -/
theorem blockBreaks_break {d : Char} (hd : isLineEnd d) (hrest : c.rest = d :: more) :
    blockBreaks (some indent) (fuel + 1) widest seen c =
      blockBreaks (some indent) fuel (max widest c.column) (seen ++ [d]) c.nextLine := by
  have hspaces : (c.span (· == ' ')).1.length = 0 := by
    refine (length_span_spaces (k := 0) hrest).2 ?_
    rintro _ ⟨⟩ rfl
    exact absurd hd (by decide)
  have htab : c.is '\t' = false := by
    rw [Cursor.is_eq, hrest, beq_eq_false_iff_ne]
    rintro ⟨⟩
    exact absurd hd (by decide)
  have hbreak : c.sees isBreak = true := by
    rw [Cursor.sees_eq, hrest]
    exact isBreak_of_isLineEnd hd
  rw [blockBreaks]
  simp only [hspaces, Nat.zero_min, Cursor.skip_zero, htab, hbreak, Bool.false_and,
    Bool.false_eq_true, if_false, if_true, Cursor.breakText_eq hrest hd]

end Breaks

/-- The empty lines before a line, whose indentation is known. -/
theorem blockBreaks_known {indent k : Nat} {more : List Char} (hk : k ≤ indent)
    (hmore : StartsLine indent k more)
    (fuel widest : Nat) (seen : List Char) {breaks : List Char}
    (hbreaks : ∀ d ∈ breaks, isLineEnd d) (c : Cursor) (hcolumn : c.column = 0)
    (hrest : c.rest = breaks ++ spaces k ++ more) (hfuel : breaks.length + k ≤ fuel) :
    ∃ widest' next, blockBreaks (some indent) fuel widest seen c =
      some (widest', seen ++ breaks, next) ∧ next.rest = more ∧ next.column = k := by
  induction fuel generalizing widest seen breaks c with
  | zero =>
    obtain rfl : breaks = [] := List.eq_nil_of_length_eq_zero (by omega)
    obtain rfl : k = 0 := by omega
    exact ⟨widest, c, by rw [blockBreaks, List.append_nil], hrest, hcolumn⟩
  | succ fuel ih =>
    cases breaks with
    | nil =>
      obtain ⟨widest', hstop⟩ := blockBreaks_stop fuel widest seen hk hmore hcolumn hrest
      exact ⟨widest', c.skip k, by rw [hstop, List.append_nil], Cursor.rest_skip_spaces hrest,
        by simp [Cursor.skip, hcolumn]⟩
    | cons d breaks =>
      obtain ⟨hd, hbreaks⟩ := List.forall_mem_cons.mp hbreaks
      have hrest' : c.rest = d :: (breaks ++ spaces k ++ more) := by simpa using hrest
      obtain ⟨widest', next, hnext, hend⟩ := ih (max widest c.column) (seen ++ [d]) hbreaks
        c.nextLine rfl (Cursor.rest_nextLine hrest' hd) (by simp at hfuel; omega)
      refine ⟨widest', next, ?_, hend⟩
      rw [blockBreaks_break _ _ _ hd hrest', hnext, List.append_assoc]
      rfl

/-- The first line shows the indentation, when it begins with neither a space nor a break. -/
theorem blockBreaks_unknown (fuel : Nat) {indent : Nat} {more : List Char} {c : Cursor}
    (hmore : ∃ d ∈ more.head?, isBreak d = false ∧ d ≠ '\t' ∧ d ≠ ' ') (hcolumn : c.column = 0)
    (hrest : c.rest = spaces indent ++ more) :
    blockBreaks none (fuel + 1) 0 [] c = some (indent, [], c.skip indent) := by
  obtain ⟨d, hd, hbreak, htab, hspace⟩ := hmore
  have hskip := Cursor.rest_skip_spaces hrest
  have hspaces : (c.span (· == ' ')).1.length = indent := by
    refine (length_span_spaces hrest).2 fun e he ↦ ?_
    rwa [← Option.some.inj ((Option.mem_def.mp hd).symm.trans he)]
  have htab' : (c.skip indent).is '\t' = false := by
    rw [Cursor.is_eq, hskip, Option.mem_def.mp hd]
    simpa using htab
  have hbreak' : (c.skip indent).sees isBreak = false := by
    rw [Cursor.sees_eq, hskip, Option.mem_def.mp hd]
    simpa using hbreak
  rw [blockBreaks]
  simp only [hspaces, htab', hbreak', Bool.false_and, Bool.false_eq_true, if_false]
  simp [Cursor.skip, hcolumn]

/-! ## Lines -/

/-- The chomping depends on what comes behind the last empty line only. -/
theorem chompingFor_append (front : List Char) {c : Char} (text : List Char)
    (hc : isBreak c = false) : chompingFor (front ++ c :: text) = chompingFor (c :: text) := by
  unfold chompingFor
  rw [List.reverse_append, List.reverse_cons]
  rcases text.reverse with _ | ⟨last, before⟩
  · simp [hc]
  · rcases before with _ | ⟨d, before⟩ <;> rfl

theorem chompingFor_line {line : List Char} (h : ∀ c ∈ line, isBreak c = false) :
    chompingFor line = .strip := by
  unfold chompingFor
  rcases hreverse : line.reverse with _ | ⟨last, before⟩
  · rfl
  · have hlast : isBreak last = false :=
      h last (List.mem_reverse.mp (hreverse ▸ List.mem_cons_self))
    simp [hlast]

/-- The line breaks that are left of those at the end of a block. -/
def chomped (chomping : Chomping) (newline breaks : List Char) : List Char :=
  match chomping with
  | .strip => []
  | .clip => newline
  | .keep => newline ++ breaks

/-- Of the line breaks behind the last line none is lost. -/
theorem chomped_breaks {line : List Char} (hne : line ≠ []) (hline : ∀ c ∈ line, isBreak c = false)
    {first : Char} {breaks : List Char} (hbreaks : ∀ c ∈ first :: breaks, isBreak c) :
    chomped (chompingFor (line ++ first :: breaks)) [first] breaks = first :: breaks := by
  have hreverse : (line ++ first :: breaks).reverse =
      breaks.reverse ++ first :: line.reverse := by simp
  unfold chompingFor
  rw [hreverse]
  rcases hcases : breaks.reverse with _ | ⟨last, before⟩
  · obtain rfl : breaks = [] := by simpa using hcases
    obtain ⟨last, before, hline'⟩ := List.exists_cons_of_ne_nil (mt List.reverse_eq_nil_iff.mp hne)
    have hlast : isBreak last = false :=
      hline last (List.mem_reverse.mp (hline' ▸ List.mem_cons_self))
    simp [hbreaks first (by simp), hline', hlast, chomped]
  · have hmem (c : Char) (hc : c ∈ last :: before) : isBreak c :=
      hbreaks c (List.mem_cons_of_mem _ (List.mem_reverse.mp (hcases ▸ hc)))
    rcases before with _ | ⟨d, before⟩
    · simp [hmem last (by simp), hbreaks first (by simp), chomped]
    · simp [hmem last (by simp), hmem d (by simp), chomped]

theorem chompingFor_breaks {breaks : List Char} (hne : breaks ≠ [])
    (hbreaks : ∀ c ∈ breaks, isBreak c) : chompingFor breaks = .keep := by
  unfold chompingFor
  obtain ⟨last, before, hreverse⟩ :=
    List.exists_cons_of_ne_nil (mt List.reverse_eq_nil_iff.mp hne)
  have hmem (c : Char) (hc : c ∈ last :: before) : isBreak c :=
    hbreaks c (by rwa [← List.mem_reverse, hreverse])
  rw [hreverse]
  rcases before with _ | ⟨d, before⟩
  · simp [hmem last (by simp)]
  · simp [hmem last (by simp), hmem d (by simp)]

section Lines

variable (indent : Nat) (chomping : Chomping) (fuel : Nat) (seen newline breaks : List Char)
  (spaced : Bool) (c : Cursor)

theorem blockLines_succ :
    blockLines true indent chomping (fuel + 1) seen newline breaks spaced c =
      if c.column == indent && !c.atEnd then
        (blockBreaks (some indent) (c.span fun _ ↦ true).2.rest.length 0 []
          (c.span fun _ ↦ true).2.skipBreak).bind fun (_, empty, next) ↦
            blockLines true indent chomping fuel
              (seen ++ newline ++ breaks ++ (c.span fun _ ↦ true).1)
              (c.span fun _ ↦ true).2.breakText empty (c.sees isBlank) next
      else some (seen ++ chomped chomping newline breaks, c) := by
  cases chomping <;> rfl

variable {indent c}

theorem blockLines_end (h : c.column ≠ indent) :
    blockLines true indent chomping (fuel + 1) seen newline breaks spaced c =
      some (seen ++ chomped chomping newline breaks, c) := by
  rw [blockLines_succ, if_neg (by simp [h])]

/-- One line, with the empty lines and the indentation behind it. -/
theorem blockLines_line {line more : List Char} {first : Char} {empty : List Char} {k : Nat}
    (hcolumn : c.column = indent) (hline : ∀ d ∈ line, isBreak d = false)
    (hfirst : isLineEnd first) (hempty : ∀ d ∈ empty, isLineEnd d) (hk : k ≤ indent)
    (hmore : StartsLine indent k more)
    (hrest : c.rest = line ++ first :: (empty ++ spaces k ++ more)) :
    ∃ next, blockLines true indent chomping (fuel + 1) seen newline breaks spaced c =
        blockLines true indent chomping fuel (seen ++ newline ++ breaks ++ line) [first] empty
          (c.sees isBlank) next ∧
      next.rest = more ∧ next.column = k := by
  have hskip := Cursor.rest_skip_append hrest
  have hspan : c.span (fun _ ↦ true) = (line, c.skip line.length) := by
    have hall : ∀ d ∈ line, (true && !isBreak d) = true := by simpa using hline
    rw [Cursor.span, hrest, List.takeWhile_append_of_pos hall, List.takeWhile_cons_of_neg]
    · simp
    · simp [isBreak_of_isLineEnd hfirst]
  have hbreak : (c.skip line.length).skipBreak = (c.skip line.length).nextLine := by
    rw [Cursor.skipBreak, Cursor.sees_eq, hskip]
    exact if_pos (isBreak_of_isLineEnd hfirst)
  obtain ⟨widest, next, hnext, hend⟩ := blockBreaks_known hk hmore
    (c.skip line.length).rest.length 0 [] hempty (c.skip line.length).nextLine rfl
    (Cursor.rest_nextLine hskip hfirst)
    (by simp [hskip, spaces]; omega)
  refine ⟨next, ?_, hend⟩
  rw [blockLines_succ, if_pos (by simp [hcolumn, Cursor.atEnd, hrest]), hspan]
  simp only [hbreak, Cursor.breakText_eq hskip hfirst, hnext]
  rfl

/-- The last line, behind which something else begins further to the left. -/
theorem blockLines_last {line tail : List Char} {first : Char} {empty : List Char} {n : Nat}
    (hcolumn : c.column = indent) (hline : ∀ d ∈ line, isBreak d = false)
    (hfirst : isLineEnd first) (hempty : ∀ d ∈ empty, isLineEnd d) (hn : n < indent)
    (htail : Fresh tail) (hrest : c.rest = line ++ first :: (empty ++ spaces n ++ tail)) :
    ∃ next, blockLines true indent chomping (fuel + 2) seen newline breaks spaced c =
        some (seen ++ newline ++ breaks ++ line ++ chomped chomping [first] empty, next) ∧
      next.rest = tail ∧ next.column = n := by
  obtain ⟨next, hnext, hnextRest, hnextColumn⟩ := blockLines_line chomping (fuel + 1) seen newline
    breaks spaced hcolumn hline hfirst hempty (Nat.le_of_lt hn) (htail.startsLine indent n)
    hrest
  refine ⟨next, ?_, hnextRest, hnextColumn⟩
  rw [hnext, blockLines_end _ _ _ _ _ _ (by omega)]

end Lines

/-- What stands behind a written text before the next line begins. -/
def lineEnd (text : List Char) : List Char := if text.getLast?.any isBreak then [] else ['\n']

theorem lineEnd_append (front : List Char) {text : List Char} (hne : text ≠ []) :
    lineEnd (front ++ text) = lineEnd text := by
  unfold lineEnd
  rw [List.getLast?_append_of_ne_nil _ hne]

theorem lineEnd_of_not_isBreak {line : List Char} (h : ∀ c ∈ line, isBreak c = false) :
    lineEnd line = ['\n'] := by
  refine if_neg ?_
  rcases hlast : line.getLast? with _ | c
  · simp
  · simp [h c (List.mem_of_getLast? hlast)]

theorem lineEnd_of_isBreak {text : List Char} (hne : text ≠ []) (h : ∀ c ∈ text, isBreak c) :
    lineEnd text = [] := by
  refine if_pos ?_
  rw [List.getLast?_eq_some_getLast hne]
  exact h _ (List.getLast_mem hne)

/-- Empty lines are not indented. -/
theorem indented_breaks {indent : Nat} {lineStarts : Bool} {breaks : List Char}
    (hbreaks : ∀ c ∈ breaks, isBreak c) :
    indented indent (fun c ↦ [c]) lineStarts breaks = breaks := by
  cases breaks with
  | nil => rfl
  | cons d breaks =>
    obtain ⟨hd, hbreaks⟩ := List.forall_mem_cons.mp hbreaks
    rw [← List.append_nil (d :: breaks), indented_append_breaks hd hbreaks]
    rfl

/-- A block from the inside of a line on, and what stands behind it. -/
def blockFrom (indent n : Nat) (tail text : List Char) : List Char :=
  indented indent (fun c ↦ [c]) false text ++ lineEnd text ++ spaces n ++ tail

section BlockFrom

variable (indent n : Nat) (tail : List Char) {line breaks more : List Char} {first : Char}

theorem indented_line (hline : ∀ c ∈ line, isBreak c = false) (rest : List Char) :
    indented indent (fun c ↦ [c]) false (line ++ rest) =
      line ++ indented indent (fun c ↦ [c]) false rest := by
  rw [indented_append_line hline]
  simp

theorem blockFrom_line (hline : ∀ c ∈ line, isBreak c = false) :
    blockFrom indent n tail line = line ++ '\n' :: (spaces n ++ tail) := by
  have hwritten := indented_line indent hline []
  rw [List.append_nil] at hwritten
  simp [blockFrom, hwritten, lineEnd_of_not_isBreak hline, indented]

theorem blockFrom_breaks (hline : ∀ c ∈ line, isBreak c = false)
    (hbreaks : ∀ c ∈ first :: breaks, isBreak c) :
    blockFrom indent n tail (line ++ first :: breaks) =
      line ++ first :: (breaks ++ spaces n ++ tail) := by
  rw [blockFrom, indented_line indent hline, indented_breaks hbreaks,
    lineEnd_append _ (List.cons_ne_nil _ _), lineEnd_of_isBreak (List.cons_ne_nil _ _) hbreaks]
  simp

theorem blockFrom_more (hline : ∀ c ∈ line, isBreak c = false)
    (hbreaks : ∀ c ∈ first :: breaks, isBreak c) {second : Char}
    (hsecond : isBreak second = false) :
    blockFrom indent n tail (line ++ first :: breaks ++ second :: more) =
      line ++ first :: (breaks ++ spaces indent ++ blockFrom indent n tail (second :: more)) := by
  obtain ⟨hfirst, hrest⟩ := List.forall_mem_cons.mp hbreaks
  rw [blockFrom, lineEnd_append _ (List.cons_ne_nil second more), List.append_assoc line,
    indented_line indent hline, indented_append_breaks hfirst hrest, indented_start hsecond]
  simp [blockFrom]

/-- A line of the text, behind its indentation. -/
theorem startsLine_blockFrom (hprintable : isPrintable first) (hfirst : isBreak first = false)
    (text : List Char) : StartsLine indent indent (blockFrom indent n tail (first :: text)) := by
  rw [blockFrom, indented, if_neg (by simp [hfirst])]
  rintro d ⟨⟩
  refine ⟨hfirst, ?_, fun _ ↦ rfl⟩
  rintro rfl
  exact absurd hprintable (by decide)

end BlockFrom

/-- The lines of a block from the start of one that is not empty. -/
theorem blockLines_eq {indent n : Nat} (hn : n < indent) {tail : List Char} (htail : Fresh tail)
    (fuel : Nat) {first : Char} (text : List Char) (hfirst : isBreak first = false)
    (hprintable : ∀ c ∈ first :: text, isPrintable c) (seen newline breaks : List Char)
    (spaced : Bool) (c : Cursor) (hcolumn : c.column = indent)
    (hrest : c.rest = blockFrom indent n tail (first :: text)) (hfuel : text.length + 1 < fuel) :
    ∃ next, blockLines true indent (chompingFor (first :: text)) fuel seen newline breaks spaced c =
        some (seen ++ newline ++ breaks ++ first :: text, next) ∧
      next.rest = tail ∧ next.column = n := by
  induction fuel generalizing first text seen newline breaks spaced c with
  | zero => omega
  | succ fuel ih =>
    obtain ⟨fuel, rfl⟩ := Nat.exists_eq_add_of_le' (show 1 ≤ fuel by omega)
    obtain ⟨line, behind, rfl, hline, hbehind⟩ := exists_span (fun c ↦ !isBreak c) text
    have hline' : ∀ d ∈ first :: line, isBreak d = false :=
      List.forall_mem_cons.mpr ⟨hfirst, by simpa using hline⟩
    rw [← List.cons_append] at hrest hprintable ⊢
    rcases behind with _ | ⟨feed, behind⟩
    · rw [List.append_nil] at hrest ⊢
      rw [blockFrom_line indent n tail hline'] at hrest
      obtain ⟨next, hnext, hend⟩ := blockLines_last (chompingFor (first :: line)) fuel seen newline
        breaks spaced hcolumn hline' (show isLineEnd '\n' from rfl) (List.forall_mem_nil _) hn htail
        hrest
      refine ⟨next, ?_, hend⟩
      rw [hnext, chompingFor_line hline', chomped, List.append_nil]
    obtain ⟨empty, more, rfl, hempty, hmore⟩ := exists_span isBreak behind
    have hfeed : isBreak feed := by simpa using hbehind
    have hall : ∀ d ∈ feed :: empty, isBreak d := List.forall_mem_cons.mpr ⟨hfeed, hempty⟩
    have hends : ∀ d ∈ feed :: empty, isLineEnd d := fun d hd ↦ isLineEnd_of_isPrintable
      (hprintable d (List.mem_append_right _ (List.mem_append_left more hd))) (hall d hd)
    obtain ⟨hfeed', hempty'⟩ := List.forall_mem_cons.mp hends
    rcases more with _ | ⟨second, more⟩
    · rw [List.append_nil] at hrest ⊢
      rw [blockFrom_breaks indent n tail hline' hall] at hrest
      obtain ⟨next, hnext, hend⟩ := blockLines_last (chompingFor (first :: line ++ feed :: empty))
        fuel seen newline breaks spaced hcolumn hline' hfeed' hempty' hn htail hrest
      refine ⟨next, ?_, hend⟩
      rw [hnext, chomped_breaks (List.cons_ne_nil _ _) hline' hall, List.append_assoc]
    have hsecond : isBreak second = false := hmore second rfl
    have hprintable' : ∀ d ∈ second :: more, isPrintable d := fun d hd ↦
      hprintable d (List.mem_append_right _ (List.mem_cons_of_mem _ (List.mem_append_right _ hd)))
    have hnextLine := startsLine_blockFrom indent n tail (hprintable' second List.mem_cons_self)
      hsecond more
    rw [← List.cons_append, ← List.append_assoc] at hrest ⊢
    rw [chompingFor_append _ _ hsecond]
    rw [blockFrom_more indent n tail hline' hall hsecond] at hrest
    obtain ⟨next, hnext, hnextRest, hnextColumn⟩ := blockLines_line (chompingFor (second :: more))
      (fuel + 1) seen newline breaks spaced hcolumn hline' hfeed' hempty' (Nat.le_refl indent)
      hnextLine hrest
    obtain ⟨last, hlast, hend⟩ := ih more hsecond hprintable'
      (seen ++ newline ++ breaks ++ first :: line) [feed] empty (c.sees isBlank) next hnextColumn
      hnextRest (by simp at hfuel; omega)
    refine ⟨last, ?_, hend⟩
    rw [hnext, hlast]
    simp

/-! ## The whole block -/

/-- The body of a block, when the header is read. -/
theorem readBlock_eq (parent : Nat) {text body : List Char} {c : Cursor}
    (hrest : c.rest = Style.indentation text ++ Style.chomping text ++ '\n' :: body) :
    ∃ after : Cursor, after.rest = body ∧ after.column = 0 ∧
      readBlock true parent c =
        let known := if hidesIndentation text then some (parent + 2) else none
        (blockBreaks known after.rest.length 0 [] after).bind fun (widest, breaks, next) ↦
          blockLines true (known.getD (max (max widest (parent + 1)) 1)) (chompingFor text)
            (next.rest.length + 1) [] [] breaks false next := by
  obtain ⟨header, hheader, hheaderRest⟩ := blockHeader_eq hrest
  obtain ⟨after, hafter, hafterRest, hafterColumn⟩ := restOfLine?_eq hheaderRest
  refine ⟨after, hafterRest, hafterColumn, ?_⟩
  rw [readBlock, hheader]
  simp only [Option.bind_eq_bind, Option.bind_some, hafter, hafterRest]
  cases hidesIndentation text <;> simp

theorem indented_breaks_line {indent : Nat} {breaks : List Char} (hbreaks : ∀ c ∈ breaks, isBreak c)
    {first : Char} (hfirst : isBreak first = false) (rest : List Char) :
    indented indent (fun c ↦ [c]) true (breaks ++ first :: rest) =
      breaks ++ spaces indent ++ indented indent (fun c ↦ [c]) false (first :: rest) := by
  cases breaks with
  | nil => exact indented_start hfirst
  | cons d breaks =>
    obtain ⟨hd, hbreaks⟩ := List.forall_mem_cons.mp hbreaks
    rw [indented_append_breaks hd hbreaks, indented_start hfirst, List.append_assoc]

section Literal

variable {parent n : Nat} {tail breaks rest : List Char} {first : Char} {c : Cursor}

/-- The block behind the empty lines at its start, read with the indentation that was written. -/
theorem blockLines_body (breaks : List Char) {indent : Nat} (hn : n < indent) (htail : Fresh tail)
    (hfirst : isBreak first = false) (hprintable : ∀ c ∈ first :: rest, isPrintable c)
    (hcolumn : c.column = indent) (hrest : c.rest = blockFrom indent n tail (first :: rest)) :
    ∃ next, blockLines true indent (chompingFor (breaks ++ first :: rest)) (c.rest.length + 1) [] []
        breaks false c = some (breaks ++ first :: rest, next) ∧
      next.rest = tail ∧ next.column = n := by
  have hlength := length_le_indented indent (fun c ↦ List.cons_ne_nil c []) false (first :: rest)
  have hfuel : rest.length + 1 < c.rest.length + 1 := by
    rw [hrest, blockFrom]
    simp only [List.length_append, List.length_cons] at hlength ⊢
    omega
  rw [chompingFor_append breaks rest hfirst]
  exact blockLines_eq hn htail _ rest hfirst hprintable [] [] breaks false c hcolumn hrest hfuel

/-- A block of empty lines, all of which belong to the text. -/
theorem readBlock_breaks (hn : n ≤ parent) (htail : Fresh tail) (hne : breaks ≠ [])
    (hbreaks : ∀ d ∈ breaks, isBreak d) (hends : ∀ d ∈ breaks, isLineEnd d)
    (hrest : c.rest = Style.indentation breaks ++ Style.chomping breaks ++
      '\n' :: (breaks ++ spaces n ++ tail)) :
    ∃ next, readBlock true parent c = some (breaks, next) ∧ next.rest = tail ∧
      next.column = n := by
  obtain ⟨after, hafter, hcolumn, hread⟩ := readBlock_eq parent hrest
  have hhides : hidesIndentation breaks = true := by
    obtain ⟨d, breaks, rfl⟩ := List.exists_cons_of_ne_nil hne
    simp [hidesIndentation, hbreaks d List.mem_cons_self]
  obtain ⟨widest, next, hnext, hnextRest, hnextColumn⟩ := blockBreaks_known
    (show n ≤ parent + 2 by omega) (htail.startsLine _ n) after.rest.length 0 [] hends after hcolumn
    hafter (by simp only [hafter, spaces, List.length_append, List.length_replicate]; omega)
  refine ⟨next, ?_, hnextRest, hnextColumn⟩
  rw [hread, hhides]
  simp only [if_true, hnext, Option.bind_some, Option.getD_some]
  rw [blockLines_end _ _ _ _ _ _ (by omega), chompingFor_breaks hne hbreaks]
  rfl

/-- A block whose header names the indentation, which its first line would hide. -/
theorem readBlock_hidden (hn : n ≤ parent) (htail : Fresh tail)
    (hhides : hidesIndentation (breaks ++ first :: rest) = true)
    (hends : ∀ d ∈ breaks, isLineEnd d) (hfirst : isBreak first = false)
    (hprintable : ∀ d ∈ first :: rest, isPrintable d)
    (hrest : c.rest = Style.indentation (breaks ++ first :: rest) ++
      Style.chomping (breaks ++ first :: rest) ++
        '\n' :: (breaks ++ spaces (parent + 2) ++ blockFrom (parent + 2) n tail (first :: rest))) :
    ∃ next, readBlock true parent c = some (breaks ++ first :: rest, next) ∧ next.rest = tail ∧
      next.column = n := by
  obtain ⟨after, hafter, hcolumn, hread⟩ := readBlock_eq parent hrest
  have hline := startsLine_blockFrom (parent + 2) n tail (hprintable first List.mem_cons_self)
    hfirst rest
  obtain ⟨widest, next, hnext, hnextRest, hnextColumn⟩ := blockBreaks_known
    (Nat.le_refl (parent + 2)) hline after.rest.length 0 [] hends after hcolumn hafter
    (by simp only [hafter, spaces, List.length_append, List.length_replicate]; omega)
  rw [hread, hhides]
  simp only [if_true, hnext, Option.bind_some, Option.getD_some]
  exact blockLines_body breaks (by omega) htail hfirst hprintable hnextColumn hnextRest

/-- A block whose first line shows the indentation. -/
theorem readBlock_shown (hn : n ≤ parent) (htail : Fresh tail)
    (hshows : hidesIndentation (first :: rest) = false)
    (hprintable : ∀ d ∈ first :: rest, isPrintable d)
    (hrest : c.rest = Style.indentation (first :: rest) ++ Style.chomping (first :: rest) ++
      '\n' :: (spaces (parent + 2) ++ blockFrom (parent + 2) n tail (first :: rest))) :
    ∃ next, readBlock true parent c = some (first :: rest, next) ∧ next.rest = tail ∧
      next.column = n := by
  obtain ⟨after, hafter, hcolumn, hread⟩ := readBlock_eq parent hrest
  obtain ⟨hspace, hfirst⟩ : first ≠ ' ' ∧ isBreak first = false := by
    simpa [hidesIndentation, isSpace] using hshows
  have hhead : ∃ d ∈ (blockFrom (parent + 2) n tail (first :: rest)).head?,
      isBreak d = false ∧ d ≠ '\t' ∧ d ≠ ' ' := by
    have hline := startsLine_blockFrom (parent + 2) n tail (hprintable first List.mem_cons_self)
      hfirst rest
    rw [blockFrom, indented, if_neg (by simp [hfirst])] at hline ⊢
    exact ⟨first, rfl, hfirst, (hline first rfl).2.1, hspace⟩
  obtain ⟨fuel, hfuel⟩ : ∃ fuel, after.rest.length = fuel + 1 :=
    Nat.exists_eq_add_of_le' (by simp [hafter, spaces]; omega)
  have hbreaks := blockBreaks_unknown fuel hhead hcolumn hafter
  rw [hread, hshows]
  simp only [Bool.false_eq_true, if_false, hfuel, hbreaks, Option.bind_some, Option.getD_none]
  rw [show max (max (parent + 2) (parent + 1)) 1 = parent + 2 by omega]
  exact blockLines_body [] (by omega) htail hfirst hprintable
    (by simp [Cursor.skip, hcolumn]) (Cursor.rest_skip_spaces hafter)

/-- A text is read back from its literal block, up to the start of what stands further left. -/
theorem readBlock_literal (hn : n ≤ parent) (htail : Fresh tail) {text : List Char}
    (hne : text ≠ []) (hprintable : ∀ c ∈ text, isPrintable c) (c : Cursor)
    (hrest : c.rest = Style.indentation text ++ Style.chomping text ++
      '\n' :: (indented (parent + 2) (fun c ↦ [c]) true text ++ lineEnd text ++ spaces n ++ tail)) :
    ∃ next, readBlock true parent c = some (text, next) ∧ next.rest = tail ∧ next.column = n := by
  obtain ⟨breaks, more, rfl, hbreaks, hmore⟩ := exists_span isBreak text
  have hends : ∀ d ∈ breaks, isLineEnd d := fun d hd ↦
    isLineEnd_of_isPrintable (hprintable d (List.mem_append_left _ hd)) (hbreaks d hd)
  rcases more with _ | ⟨first, rest⟩
  · rw [List.append_nil] at hne hrest ⊢
    rw [lineEnd_of_isBreak hne hbreaks, indented_breaks hbreaks, List.append_nil] at hrest
    exact readBlock_breaks hn htail hne hbreaks hends hrest
  have hfirst : isBreak first = false := hmore first rfl
  have hprintable' : ∀ d ∈ first :: rest, isPrintable d := fun d hd ↦
    hprintable d (List.mem_append_right _ hd)
  rw [indented_breaks_line hbreaks hfirst, lineEnd_append _ (List.cons_ne_nil first rest)] at hrest
  cases hhides : hidesIndentation (breaks ++ first :: rest) with
  | true =>
    exact readBlock_hidden hn htail hhides hends hfirst hprintable'
      (by simpa [blockFrom] using hrest)
  | false =>
    obtain rfl : breaks = [] := by
      rcases breaks with _ | ⟨d, breaks⟩
      · rfl
      · simp [hidesIndentation, hbreaks d List.mem_cons_self] at hhides
    exact readBlock_shown hn htail hhides hprintable' (by simpa [blockFrom] using hrest)

end Literal

end ClusterObjects.Yaml
