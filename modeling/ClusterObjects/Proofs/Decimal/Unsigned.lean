import ClusterObjects.Decimal.Unsigned

/-!
# Unsigned numbers and their texts

A text is read as a number exactly when it is digits, perhaps behind one plus sign, that make a
number of 64 bits. Leading zeros are no fault, so a number has many texts, and the canonical one is
among them.
-/

namespace ClusterObjects.Decimal

/-- The text is digits, perhaps behind a plus sign, that make the number. -/
def Denotes (text : String) (n : Nat) : Prop :=
  ∃ digits : List Char, digits ≠ [] ∧ (∀ c ∈ digits, c.isDigit) ∧
    (text.toList = digits ∨ text.toList = '+' :: digits) ∧ Nat.ofDigitChars 10 digits 0 = n

/-- More digits never make a number smaller. -/
theorem le_ofDigitChars (digits : List Char) (read : Nat) :
    read ≤ Nat.ofDigitChars 10 digits read := by
  induction digits generalizing read with
  | nil => exact Nat.le_refl read
  | cons c digits ih =>
    rw [Nat.ofDigitChars_cons]
    exact Nat.le_trans (by omega) (ih _)

/-- A reader that has gone past 64 bits cannot come back, so it may stop at once. -/
theorem digits64_eq_ok_iff {digits : List Char} {read : Nat} {n : UInt64}
    (hread : read < UInt64.size) :
    digits64 read digits = .ok n ↔
      (∀ c ∈ digits, c.isDigit) ∧ Nat.ofDigitChars 10 digits read = n.toNat := by
  induction digits generalizing read with
  | nil =>
    rw [digits64, Except.ok.injEq, Nat.ofDigitChars_nil]
    constructor
    · rintro rfl
      exact ⟨nofun, (UInt64.toNat_ofNat_of_lt' hread).symm⟩
    · rintro ⟨-, rfl⟩
      exact UInt64.ofNat_toNat
  | cons c digits ih =>
    rw [digits64, Nat.ofDigitChars_cons, List.forall_mem_cons]
    by_cases hc : c.isDigit
    · simp only [hc, Bool.not_true, Bool.false_eq_true, if_false, true_and]
      split
      · rename_i hlarge
        refine ⟨nofun, fun ⟨_, hn⟩ ↦ ?_⟩
        have hle := le_ofDigitChars digits (10 * read + (c.toNat - '0'.toNat))
        have hlt := n.toNat_lt_size
        omega
      · rename_i hsmall
        exact ih (Nat.lt_of_not_le hsmall)
    · simp [hc]

theorem unsigned64_eq_ok_iff {text : String} {n : UInt64} :
    unsigned64 text = .ok n ↔ Denotes text n.toNat := by
  have hread : 0 < UInt64.size := by decide
  have hplus : ¬ '+'.isDigit := by decide
  unfold unsigned64 Denotes
  split
  · rename_i htext
    simp only [htext]
    refine ⟨nofun, ?_⟩
    rintro ⟨digits, hne, -, rfl | hcons, -⟩
    · exact absurd rfl hne
    · exact nomatch hcons
  · rename_i htext
    simp only [htext]
    refine ⟨nofun, ?_⟩
    rintro ⟨digits, hne, hdigits, rfl | hcons, -⟩
    · exact absurd (hdigits '+' List.mem_cons_self) hplus
    · exact absurd (List.cons.inj hcons).2.symm hne
  · rename_i digits hne htext
    rw [digits64_eq_ok_iff hread, htext]
    constructor
    · rintro ⟨hdigits, hn⟩
      exact ⟨digits, hne, hdigits, .inr rfl, hn⟩
    · rintro ⟨_, -, hdigits, rfl | hcons, hn⟩
      · exact absurd (hdigits '+' List.mem_cons_self) hplus
      · rw [(List.cons.inj hcons).2]
        exact ⟨hdigits, hn⟩
  · rename_i hnil _ hsigned
    rw [digits64_eq_ok_iff hread]
    constructor
    · rintro ⟨hdigits, hn⟩
      exact ⟨text.toList, hnil, hdigits, .inl rfl, hn⟩
    · rintro ⟨digits, -, hdigits, rfl | hcons, hn⟩
      · exact ⟨hdigits, hn⟩
      · exact absurd hcons (hsigned digits)

/-- The canonical text of a number is one of its texts. -/
theorem denotes_toString (n : Nat) : Denotes (toString n) n :=
  ⟨Nat.toDigits 10 n, Nat.toDigits_ne_nil,
    fun _ hc ↦ Nat.isDigit_of_mem_toDigits (by decide) (by decide) hc,
    .inl Nat.toList_repr, Nat.ofDigitChars_ten_toDigits⟩

end ClusterObjects.Decimal
