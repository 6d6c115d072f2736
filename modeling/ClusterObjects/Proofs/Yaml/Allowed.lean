import ClusterObjects.Proofs.Yaml.Block
import ClusterObjects.Proofs.Yaml.Quoted

/-!
# Characters of written scalars

A document is refused as a whole when it holds a character that is not allowed. Whatever a text is
made of, it is written with allowed characters only: those that are none have escapes, and a text
with such a character is never written in another style.
-/

namespace ClusterObjects.Yaml

open Style (isPrintable spaces)

theorem isPrintable_of_isAlphanum {c : Char} (h : c.isAlphanum) : isPrintable c := by
  have hrange : 0x20 ≤ c.toNat ∧ c.toNat ≤ 0x7E := by
    -- Capital letters, small letters and digits.
    change (decide (65 ≤ c.val ∧ c.val ≤ 90) || (decide (97 ≤ c.val) && decide (c.val ≤ 122)) ||
      (decide (48 ≤ c.val) && decide (c.val ≤ 57))) = true at h
    have hval : c.toNat = c.val.toNat := rfl
    simp only [Bool.or_eq_true, Bool.and_eq_true, decide_eq_true_eq, UInt32.le_iff_toNat_le,
      UInt32.reduceToNat] at h
    omega
  simp [isPrintable, hrange]

theorem isAllowed_of_isPrintable {c : Char} (h : isPrintable c) : isAllowed c := by
  have hvalid : c.toNat < 0xD800 ∨ 0xDFFF < c.toNat ∧ c.toNat < 0x110000 := c.valid
  simp only [isPrintable, Bool.or_eq_true, Bool.and_eq_true, beq_iff_eq, decide_eq_true_eq] at h
  simp only [isAllowed, Bool.or_eq_true, Bool.and_eq_true, beq_iff_eq, decide_eq_true_eq]
  omega

theorem isAllowed_spaces (n : Nat) : ∀ c ∈ spaces n, isAllowed c :=
  fun c hc ↦ List.eq_of_mem_replicate hc ▸ by decide

theorem isAllowed_lineEnd (text : List Char) : ∀ c ∈ lineEnd text, isAllowed c := by
  unfold lineEnd
  split
  · nofun
  · exact List.all_eq_true.mp rfl

/-- The lines of a text are allowed when its characters are written so. -/
theorem isAllowed_indented (indent : Nat) {write : Char → List Char} {text : List Char}
    (htext : ∀ c ∈ text, isAllowed c ∧ ∀ d ∈ write c, isAllowed d) (lineStarts : Bool) :
    ∀ c ∈ Style.indented indent write lineStarts text, isAllowed c := by
  induction text generalizing lineStarts with
  | nil => exact List.forall_mem_nil _
  | cons c text ih =>
    obtain ⟨⟨hc, hwritten⟩, htext⟩ := List.forall_mem_cons.mp htext
    rw [Style.indented]
    split
    · exact List.forall_mem_cons.mpr ⟨hc, ih htext true⟩
    · refine List.forall_mem_append.mpr ⟨List.forall_mem_append.mpr ⟨?_, hwritten⟩, ih htext false⟩
      split
      · exact isAllowed_spaces indent
      · exact List.forall_mem_nil _

section Styles

variable {text : List Char}

theorem isAllowed_singleQuoted (indent : Nat) (h : SingleText text) :
    ∀ c ∈ Style.singleQuoted indent text, isAllowed c := by
  have hallowed : ∀ c ∈ text, isAllowed c := fun c hc ↦ isAllowed_of_isPrintable (h.printable c hc)
  have hwritten : ∀ c ∈ text, isAllowed c ∧ ∀ d ∈ Style.doubleQuote c, isAllowed d := by
    refine fun c hc ↦ ⟨hallowed c hc, ?_⟩
    unfold Style.doubleQuote
    split
    · exact List.all_eq_true.mp rfl
    · simpa using hallowed c hc
  have hquote : ∀ c ∈ ['\''], isAllowed c := List.all_eq_true.mp rfl
  have hclosing : ∀ c ∈ if text.getLast?.any isBreak then spaces indent else [], isAllowed c := by
    split
    · exact isAllowed_spaces indent
    · nofun
  have hlines := isAllowed_indented indent hwritten false
  exact List.forall_mem_append.mpr ⟨List.forall_mem_append.mpr
    ⟨List.forall_mem_append.mpr ⟨hquote, hlines⟩, hclosing⟩, hquote⟩

theorem Escaped.allowed {c : Char} (h : Escaped c text) : ∀ d ∈ text, isAllowed d := by
  cases h with
  | self hprintable => simpa using isAllowed_of_isPrintable hprintable
  | letter e hallowed => simpa using ⟨by decide, hallowed⟩
  | digits e digits hallowed => exact List.forall_mem_cons.mpr ⟨by decide, hallowed⟩

theorem isAllowed_doubleQuoted (text : List Char) :
    ∀ c ∈ Style.doubleQuoted text, isAllowed c := by
  have hquote : ∀ c ∈ ['"'], isAllowed c := List.all_eq_true.mp rfl
  have hescaped : ∀ c ∈ text.flatMap Style.escape, isAllowed c := by
    intro c hc
    obtain ⟨d, -, hd⟩ := List.mem_flatMap.mp hc
    exact (escaped_escape d).allowed c hd
  exact List.forall_mem_append.mpr ⟨List.forall_mem_append.mpr ⟨hquote, hescaped⟩, hquote⟩

theorem isAllowed_chomping (text : List Char) : ∀ c ∈ Style.chomping text, isAllowed c := by
  unfold Style.chomping
  split
  · split
    · exact List.all_eq_true.mp rfl
    · split
      · exact List.all_eq_true.mp rfl
      · nofun
  · exact List.all_eq_true.mp rfl

theorem isAllowed_literalBlock (indent : Nat) (h : ∀ c ∈ text, isPrintable c) :
    ∀ c ∈ Style.literalBlock indent text, isAllowed c := by
  have hwritten : ∀ c ∈ text, isAllowed c ∧ ∀ d ∈ [c], isAllowed d := fun c hc ↦
    ⟨isAllowed_of_isPrintable (h c hc), by simpa using isAllowed_of_isPrintable (h c hc)⟩
  have hindentation : ∀ c ∈ Style.indentation text, isAllowed c := by
    unfold Style.indentation
    split
    · exact List.all_eq_true.mp rfl
    · nofun
  have hmark : ∀ c ∈ ['|'], isAllowed c := List.all_eq_true.mp rfl
  have hbreak : isAllowed '\n' := by decide
  exact List.forall_mem_append.mpr ⟨List.forall_mem_append.mpr
    ⟨List.forall_mem_append.mpr ⟨hmark, hindentation⟩, isAllowed_chomping text⟩,
      List.forall_mem_cons.mpr ⟨hbreak, isAllowed_indented indent hwritten true⟩⟩

end Styles

/-- Every text is written with allowed characters. -/
theorem isAllowed_write (indent : Nat) (text : String) :
    ∀ c ∈ Style.write indent text, isAllowed c := by
  have hallows := allows_ofText text
  rw [Style.write]
  cases hstyle : Style.ofText text with
  | plain =>
    obtain ⟨-, hplain⟩ := hstyle ▸ hallows
    simp only [Style.allowsPlain, Bool.and_eq_true] at hplain
    obtain ⟨⟨⟨⟨⟨hsingle, -⟩, -⟩, -⟩, -⟩, -⟩ := hplain
    exact fun c hc ↦ isAllowed_of_isPrintable ((allowsSingle_iff.mp hsingle).1 c hc)
  | single =>
    rw [hstyle] at hallows
    exact isAllowed_singleQuoted indent hallows
  | double => exact isAllowed_doubleQuoted text.toList
  | literal =>
    obtain ⟨-, hprintable⟩ := hstyle ▸ hallows
    exact isAllowed_literalBlock indent hprintable

end ClusterObjects.Yaml
