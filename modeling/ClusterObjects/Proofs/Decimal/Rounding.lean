import ClusterObjects.Decimal.Shortest
import Mathlib.Algebra.Order.Field.Rat
import Mathlib.Data.Rat.Cast.Order
import Mathlib.Tactic.FieldSimp
import Mathlib.Tactic.Linarith
import Mathlib.Tactic.NormNum
import Mathlib.Tactic.Positivity
import Mathlib.Tactic.Ring

/-!
# Which quotients are rounded to a float

Around each float lie the rational numbers that are rounded to it. They reach halfway to the
neighbours on both sides, a quarter of the unit down from a power of two, and the ends belong to the
even significands. A quotient from there is rounded to the float, whatever its terms are.
-/

namespace ClusterObjects.Decimal

/-! ## The nearest integer -/

/-- The fraction left by a division is below, at or above a half as twice the rest is below, at or
above the divisor. -/
theorem half_le_iff (rest : Nat) {den : Nat} (hden : 0 < den) :
    (1 / 2 ≤ (rest : ℚ) / den ↔ den ≤ 2 * rest) ∧ (1 / 2 < (rest : ℚ) / den ↔ den < 2 * rest) := by
  have hden' : (0 : ℚ) < den := by exact_mod_cast hden
  rw [div_le_div_iff₀ two_pos hden', div_lt_div_iff₀ two_pos hden', one_mul, mul_comm]
  norm_cast

theorem roundHalfEven_eq {num den n : Nat} (hden : 0 < den)
    (hlow : (n : ℚ) - 1 / 2 ≤ (num : ℚ) / den) (hhigh : (num : ℚ) / den ≤ n + 1 / 2)
    (htie : n % 2 = 0 ∨ (n : ℚ) - 1 / 2 < (num : ℚ) / den ∧ (num : ℚ) / den < n + 1 / 2) :
    roundHalfEven num den = n := by
  have hden' : (0 : ℚ) < den := by exact_mod_cast hden
  have hrest : num % den < den := Nat.mod_lt num hden
  have hsplit : den * (num / den) + num % den = num := Nat.div_add_mod num den
  have hnum : (num : ℚ) / den = (num / den : Nat) + ((num % den : Nat) : ℚ) / den := by
    conv_lhs => rw [← hsplit]
    push_cast
    field_simp
  obtain ⟨hhalf, hhalf'⟩ := half_le_iff (num % den) hden
  rw [hnum] at hlow hhigh htie
  unfold roundHalfEven
  dsimp only
  generalize num / den = whole at *
  generalize num % den = rest at *
  have hnonneg : 0 ≤ (rest : ℚ) / den := by positivity
  have hlt : (rest : ℚ) / den < 1 := (div_lt_one hden').mpr (by exact_mod_cast hrest)
  generalize (rest : ℚ) / den = fraction at *
  have hbelow : whole ≤ n := by
    by_contra hlt
    have : (n : ℚ) + 1 ≤ whole := by exact_mod_cast Nat.lt_of_not_le hlt
    linarith
  have habove : n ≤ whole + 1 := by
    by_contra hlt
    have : (whole : ℚ) + 2 ≤ n := by exact_mod_cast Nat.lt_of_not_le hlt
    linarith
  obtain rfl | rfl : n = whole ∨ n = whole + 1 := by omega
  · -- The quotient is not beyond the upper half, and in the middle only when `n` is even.
    have hupper : ¬ den < 2 * rest := fun h ↦ by linarith [hhalf'.mpr h]
    have hmiddle : 2 * rest < den ∨ n % 2 = 0 := by
      refine htie.symm.imp_left fun ⟨_, hstrict⟩ ↦ Nat.lt_of_not_le fun h ↦ ?_
      linarith [hhalf.mpr h]
    simp only [hupper, if_false]
    split_ifs <;> omega
  · have hlower : den ≤ 2 * rest := hhalf.mp (by push_cast at hlow; linarith)
    have hmiddle : den < 2 * rest ∨ (whole + 1) % 2 = 0 := by
      refine htie.symm.imp_left fun ⟨hstrict, _⟩ ↦ hhalf'.mp ?_
      push_cast at hstrict
      linarith
    split_ifs <;> omega

namespace Binary64

/-! ## The quotients around a float -/

/-- A power of two above the smallest one has a closer neighbour below than above. -/
def IsNarrow (x : Binary64) : Prop := x.significand = 2 ^ 52 ∧ 0 < x.exponent

instance (x : Binary64) : Decidable x.IsNarrow := inferInstanceAs (Decidable (_ ∧ _))

/-- The lower end of what is rounded to a float, in its unit. -/
def lower (x : Binary64) : ℚ := if x.IsNarrow then x.significand - 1 / 4 else x.significand - 1 / 2

/-- A quotient, in units of the smallest float, is rounded to the magnitude of a float. -/
structure Covers (x : Binary64) (q : ℚ) : Prop where
  low : x.lower ≤ q / 2 ^ x.exponent
  high : q / 2 ^ x.exponent ≤ x.significand + 1 / 2
  ends : x.significand % 2 = 0 ∨
    x.lower < q / 2 ^ x.exponent ∧ q / 2 ^ x.exponent < x.significand + 1 / 2

variable {x : Binary64} {q : ℚ}

theorem Covers.of_between (hlow : x.lower < q / 2 ^ x.exponent)
    (hhigh : q / 2 ^ x.exponent < x.significand + 1 / 2) : x.Covers q :=
  ⟨hlow.le, hhigh.le, .inr ⟨hlow, hhigh⟩⟩

section Comparisons

variable {a k num den unit : Nat}

/-- A quotient of naturals, counted in a unit, against another quotient. -/
theorem quotient_lt_iff (hk : 0 < k) (hden : 0 < den) (hunit : 0 < unit) :
    ((a : ℚ) / k < (num : ℚ) / den / unit ↔ a * unit * den < k * num) ∧
      ((num : ℚ) / den / unit < (a : ℚ) / k ↔ k * num < a * unit * den) := by
  have hk' : (0 : ℚ) < k := by exact_mod_cast hk
  have hden' : (0 : ℚ) < den * unit := by exact_mod_cast Nat.mul_pos hden hunit
  rw [div_div, div_lt_div_iff₀ hk' hden', div_lt_div_iff₀ hden' hk']
  norm_cast
  simp only [Nat.mul_comm, Nat.mul_left_comm, and_self]

theorem quotient_le_iff (hk : 0 < k) (hden : 0 < den) (hunit : 0 < unit) :
    ((a : ℚ) / k ≤ (num : ℚ) / den / unit ↔ a * unit * den ≤ k * num) ∧
      ((num : ℚ) / den / unit ≤ (a : ℚ) / k ↔ k * num ≤ a * unit * den) := by
  constructor
  · rw [← not_lt, (quotient_lt_iff hk hden hunit).2, not_lt]
  · rw [← not_lt, (quotient_lt_iff hk hden hunit).1, not_lt]

end Comparisons

/-- The lower end as a quotient of naturals, and the test for quotients in its terms. -/
theorem exists_lower_eq (x : Binary64) (hx : 0 < x.significand) (num den : Nat) :
    ∃ a k : Nat, 0 < k ∧ x.lower = (a : ℚ) / k ∧ (x.covers num den = true ↔
      if x.significand % 2 = 0 then a * 2 ^ x.exponent * den ≤ k * num ∧
        2 * num ≤ (2 * x.significand + 1) * 2 ^ x.exponent * den
      else a * 2 ^ x.exponent * den < k * num ∧
        2 * num < (2 * x.significand + 1) * 2 ^ x.exponent * den) := by
  unfold Binary64.covers lower
  simp only [Nat.pow_eq, Bool.and_eq_true, beq_iff_eq, decide_eq_true_eq]
  by_cases hnarrow : x.IsNarrow
  · refine ⟨4 * x.significand - 1, 4, by decide, ?_, ?_⟩
    · rw [if_pos hnarrow, Nat.cast_sub (by omega)]
      push_cast
      ring
    · rw [if_pos (show _ ∧ _ from hnarrow)]
      split_ifs <;> simp
  · refine ⟨2 * x.significand - 1, 2, by decide, ?_, ?_⟩
    · rw [if_neg hnarrow, Nat.cast_sub (by omega)]
      push_cast
      ring
    · rw [if_neg (show ¬ (_ ∧ _) from hnarrow)]
      split_ifs <;> simp

theorem covers_iff {num den : Nat} (hden : 0 < den) (hx : 0 < x.significand) :
    x.covers num den = true ↔ x.Covers ((num : ℚ) / den) := by
  have hunit : 0 < 2 ^ x.exponent := by positivity
  obtain ⟨a, k, hk, hlower, htest⟩ := x.exists_lower_eq hx num den
  have hupper : ((2 * x.significand + 1 : Nat) : ℚ) / (2 : Nat) = x.significand + 1 / 2 := by
    push_cast
    ring
  have hcovers : x.Covers ((num : ℚ) / den) ↔
      if x.significand % 2 = 0 then x.lower ≤ (num : ℚ) / den / (2 ^ x.exponent : Nat) ∧
        (num : ℚ) / den / (2 ^ x.exponent : Nat) ≤ x.significand + 1 / 2
      else x.lower < (num : ℚ) / den / (2 ^ x.exponent : Nat) ∧
        (num : ℚ) / den / (2 ^ x.exponent : Nat) < x.significand + 1 / 2 := by
    rw [Nat.cast_pow, Nat.cast_ofNat]
    split_ifs with heven
    · exact ⟨fun h ↦ ⟨h.low, h.high⟩, fun h ↦ ⟨h.1, h.2, .inl heven⟩⟩
    · exact ⟨fun h ↦ h.ends.resolve_left heven, fun h ↦ .of_between h.1 h.2⟩
  rw [hcovers, htest, hlower, ← hupper, (quotient_le_iff hk hden hunit).1,
    (quotient_le_iff two_pos hden hunit).2, (quotient_lt_iff hk hden hunit).1,
    (quotient_lt_iff two_pos hden hunit).2]

/-! ## Rounding to a float -/

end Binary64

theorem lt_pow_digitCount (n : Nat) : n < 10 ^ digitCount n :=
  (Nat.length_toDigits_le_iff (by decide) (Nat.length_toDigits_pos)).mp (Nat.le_refl _)

section BitLength

variable {num den k : Nat}

theorem lt_of_bitLength {n : Nat} (h : n < 2 ^ k) : bitLength n ≤ k := by
  unfold bitLength
  split_ifs with hzero
  · exact Nat.zero_le k
  · exact (Nat.log2_lt hzero).mpr h

theorem bitLength_div_le (hden : 0 < den) (h : (num : ℚ) / den < 2 ^ k) :
    bitLength (num / den) ≤ k := by
  have hden' : (0 : ℚ) < den := by exact_mod_cast hden
  refine lt_of_bitLength ((Nat.div_lt_iff_lt_mul hden).mpr ?_)
  exact_mod_cast (div_lt_iff₀ hden').mp h

theorem bitLength_div_eq (hden : 0 < den) (hlow : 2 ^ k ≤ (num : ℚ) / den)
    (hhigh : (num : ℚ) / den < 2 ^ (k + 1)) : bitLength (num / den) = k + 1 := by
  have hden' : (0 : ℚ) < den := by exact_mod_cast hden
  have hle : 2 ^ k ≤ num / den := by
    refine (Nat.le_div_iff_mul_le hden).mpr ?_
    exact_mod_cast (le_div_iff₀ hden').mp hlow
  have hzero : num / den ≠ 0 := Nat.ne_of_gt (Nat.lt_of_lt_of_le (by positivity) hle)
  have hlog := (Nat.le_log2 hzero).mpr hle
  have hlength := bitLength_div_le hden hhigh
  rw [bitLength, if_neg hzero] at hlength ⊢
  omega

end BitLength

namespace Binary64

variable {x : Binary64} {q : ℚ}

/-- The parts of a float are in range, and small significands have the smallest unit. -/
structure Normalized (x : Binary64) : Prop where
  significand_lt : x.significand < 2 ^ 53
  exponent_le : x.exponent ≤ 2045
  exponent_eq_zero : x.significand < 2 ^ 52 → x.exponent = 0

instance (x : Binary64) : Decidable x.Normalized :=
  decidable_of_iff (x.significand < 2 ^ 53 ∧ x.exponent ≤ 2045 ∧
      (x.significand < 2 ^ 52 → x.exponent = 0))
    ⟨fun ⟨significand, exponent, unit⟩ ↦ ⟨significand, exponent, unit⟩,
      fun h ↦ ⟨h.significand_lt, h.exponent_le, h.exponent_eq_zero⟩⟩

theorem Normalized.significand_add_one_le (hx : x.Normalized) :
    (x.significand : ℚ) + 1 ≤ 2 ^ 53 := by exact_mod_cast hx.significand_lt

/-- Half a unit on both sides, whatever the lower neighbour. -/
theorem Covers.near (h : x.Covers q) : (x.significand : ℚ) - 1 / 2 ≤ q / 2 ^ x.exponent ∧
    (x.significand % 2 = 0 ∨ (x.significand : ℚ) - 1 / 2 < q / 2 ^ x.exponent ∧
      q / 2 ^ x.exponent < x.significand + 1 / 2) := by
  have hlower : (x.significand : ℚ) - 1 / 2 ≤ x.lower := by
    unfold lower
    split_ifs <;> linarith
  exact ⟨hlower.trans h.low, h.ends.imp_right fun ⟨hlow, hhigh⟩ ↦ ⟨hlower.trans_lt hlow, hhigh⟩⟩

section OfQuotient

variable {num den scaled : Nat}

/-- The result of rounding when the number of binary digits is known. -/
theorem ofQuotient_of_shift {negative : Bool} {shift rounded : Nat}
    (hscaled : num * 2 ^ 1074 = scaled) (hshift : bitLength (scaled / den) - 53 = shift)
    (hrounded : roundHalfEven scaled (den * 2 ^ shift) = rounded)
    (hrange : shift + (if rounded = 2 ^ 53 then 1 else 0) ≤ 2045) :
    ofQuotient negative num den =
      some (if rounded = 2 ^ 53 then ⟨negative, 2 ^ 52, shift + 1⟩
        else ⟨negative, rounded, shift⟩) := by
  unfold ofQuotient
  simp only [Nat.pow_eq, hscaled, hshift, hrounded]
  by_cases htop : rounded = 2 ^ 53
  · simp only [if_pos htop] at hrange ⊢
    exact if_pos hrange
  · simp only [if_neg htop] at hrange ⊢
    exact if_pos hrange

/-- Quotients in the binade of the float, or below all of them. -/
theorem ofQuotient_of_binade (hx : x.Normalized) (hden : 0 < den)
    (hscaled : num * 2 ^ 1074 = scaled) (h : x.Covers ((scaled : ℚ) / den))
    (hbinade : x.exponent = 0 ∨ (2 : ℚ) ^ 52 ≤ (scaled : ℚ) / den / 2 ^ x.exponent) :
    ofQuotient x.negative num den = some x := by
  have hunit : (0 : ℚ) < 2 ^ x.exponent := by positivity
  have hhigh : (scaled : ℚ) / den < 2 ^ (53 + x.exponent) := by
    rw [pow_add, ← div_lt_iff₀ hunit]
    linarith [h.high, hx.significand_add_one_le]
  have hshift : bitLength (scaled / den) - 53 = x.exponent := by
    rcases hbinade with hzero | hlow
    · rw [hzero, Nat.sub_eq_zero_iff_le]
      rw [hzero] at hhigh
      exact bitLength_div_le hden hhigh
    · rw [le_div_iff₀ hunit, ← pow_add] at hlow
      rw [show 53 + x.exponent = 52 + x.exponent + 1 by omega] at hhigh
      rw [bitLength_div_eq hden hlow hhigh]
      omega
  have hquotient : (scaled : ℚ) / (den * 2 ^ x.exponent : Nat) = scaled / den / 2 ^ x.exponent := by
    rw [Nat.cast_mul, Nat.cast_pow, Nat.cast_ofNat, div_div]
  have hrounded : roundHalfEven scaled (den * 2 ^ x.exponent) = x.significand :=
    roundHalfEven_eq (by positivity) (hquotient ▸ h.near.1) (hquotient ▸ h.high)
      (hquotient ▸ h.near.2)
  have hne : x.significand ≠ 2 ^ 53 := Nat.ne_of_lt hx.significand_lt
  rw [ofQuotient_of_shift hscaled hshift hrounded (by rw [if_neg hne]; exact hx.exponent_le),
    if_neg hne]

/-- Quotients a little below a power of two, which are rounded up to it. -/
theorem ofQuotient_of_below (hx : x.Normalized) (hnarrow : x.IsNarrow) (hden : 0 < den)
    (hscaled : num * 2 ^ 1074 = scaled) (h : x.Covers ((scaled : ℚ) / den))
    (hbelow : (scaled : ℚ) / den / 2 ^ x.exponent < 2 ^ 52) :
    ofQuotient x.negative num den = some x := by
  obtain ⟨hsignificand, hexponent⟩ := hnarrow
  obtain ⟨unit, hunit⟩ := Nat.exists_eq_add_of_le' (show 1 ≤ x.exponent from hexponent)
  have hpow : (0 : ℚ) < 2 ^ unit := by positivity
  have hhalf : (scaled : ℚ) / den / 2 ^ x.exponent = scaled / den / 2 ^ unit / 2 := by
    rw [hunit, pow_succ, ← div_div]
  have hlow := h.low
  rw [lower, if_pos ⟨hsignificand, hexponent⟩, hsignificand, hhalf] at hlow
  rw [hhalf] at hbelow
  push_cast at hlow
  have hshift : bitLength (scaled / den) - 53 = unit := by
    rw [bitLength_div_eq (k := 52 + unit) hden]
    · omega
    · rw [pow_add, ← le_div_iff₀ hpow]
      linarith
    · rw [show 52 + unit + 1 = 53 + unit by omega, pow_add, ← div_lt_iff₀ hpow]
      linarith
  have hquotient : (scaled : ℚ) / (den * 2 ^ unit : Nat) = scaled / den / 2 ^ unit := by
    rw [Nat.cast_mul, Nat.cast_pow, Nat.cast_ofNat, div_div]
  have hrounded : roundHalfEven scaled (den * 2 ^ unit) = 2 ^ 53 := by
    refine roundHalfEven_eq (by positivity) ?_ ?_ (.inl (by decide))
    · rw [hquotient]
      push_cast
      linarith
    · rw [hquotient]
      push_cast
      linarith
  rw [ofQuotient_of_shift hscaled hshift hrounded (by simpa [hunit] using hx.exponent_le),
    if_pos rfl, ← hunit, ← hsignificand]

/-- A quotient around a float is rounded to it. -/
theorem ofQuotient_eq (hx : x.Normalized) (hden : 0 < den) (hscaled : num * 2 ^ 1074 = scaled)
    (h : x.Covers ((scaled : ℚ) / den)) : ofQuotient x.negative num den = some x := by
  by_cases hzero : x.exponent = 0
  · exact ofQuotient_of_binade hx hden hscaled h (.inl hzero)
  rcases le_or_gt ((2 : ℚ) ^ 52) ((scaled : ℚ) / den / 2 ^ x.exponent) with hlow | hbelow
  · exact ofQuotient_of_binade hx hden hscaled h (.inr hlow)
  · have hlarge : 2 ^ 52 ≤ x.significand := Nat.le_of_not_lt (mt hx.exponent_eq_zero hzero)
    have hsmall : (x.significand : ℚ) < (2 ^ 52 + 1 : Nat) := by
      push_cast
      linarith [h.near.1]
    have hsignificand : x.significand = 2 ^ 52 :=
      Nat.le_antisymm (Nat.le_of_lt_succ (by exact_mod_cast hsmall)) hlarge
    exact ofQuotient_of_below hx ⟨hsignificand, Nat.pos_of_ne_zero hzero⟩ hden hscaled h hbelow

end OfQuotient

/-! ## Reading a decimal -/

/-- What is rounded to a float that is not zero is neither tiny nor huge. -/
theorem Covers.bounds (hx : x.Normalized) (hpos : 0 < x.significand) (h : x.Covers q) :
    1 / 2 ≤ q ∧ q ≤ 2 ^ 2098 := by
  have hunit : (1 : ℚ) ≤ 2 ^ x.exponent := one_le_pow₀ one_le_two
  have hunit' : (2 : ℚ) ^ x.exponent ≤ 2 ^ 2045 := pow_le_pow_right₀ one_le_two hx.exponent_le
  have hone : (1 : ℚ) ≤ x.significand := by exact_mod_cast hpos
  have hlow := (le_div_iff₀ (by positivity)).mp h.near.1
  have hhigh := (div_le_iff₀ (by positivity)).mp h.high
  have hsignificand := hx.significand_add_one_le
  constructor
  · nlinarith
  · calc
      q ≤ ((x.significand : ℚ) + 1 / 2) * 2 ^ x.exponent := hhigh
      _ ≤ 2 ^ 53 * 2 ^ 2045 :=
        mul_le_mul (by linarith) hunit' (by positivity) (by positivity)
      _ = 2 ^ 2098 := (pow_add _ _ _).symm

theorem pow_two_lt_pow_ten : 2 ^ 1024 < 10 ^ 311 ∧ 2 ^ 1075 < 10 ^ 331 := by decide +kernel

section OfDecimal

variable {digits : Nat} {power : Int}

/-- The digits and the power of a decimal that is rounded to a float are in the range that is read
exactly. -/
theorem Covers.range (hx : x.Normalized) (hpos : 0 < x.significand)
    (h : x.Covers (digits * 10 ^ power * 2 ^ 1074)) :
    digits ≠ 0 ∧ power ≤ 310 ∧ -330 ≤ power + digitCount digits := by
  obtain ⟨hlow, hhigh⟩ := h.bounds hx hpos
  have hscale : (0 : ℚ) < 2 ^ 1074 := by positivity
  have hpower : (0 : ℚ) < 10 ^ power := zpow_pos (by norm_num) power
  rw [show 2098 = 1024 + 1074 from rfl, pow_add, mul_le_mul_iff_left₀ hscale] at hhigh
  rw [div_le_iff₀ two_pos, mul_assoc, ← pow_succ] at hlow
  have hdigits : digits ≠ 0 := by
    rintro rfl
    rw [Nat.cast_zero, zero_mul, zero_mul] at hlow
    exact absurd hlow (by decide)
  refine ⟨hdigits, Int.not_lt.mp fun hhuge ↦ ?_, Int.not_lt.mp fun htiny ↦ ?_⟩
  · have hone : (1 : ℚ) ≤ digits := by exact_mod_cast Nat.pos_of_ne_zero hdigits
    have hle : (10 : ℚ) ^ (311 : ℤ) ≤ 10 ^ power := zpow_le_zpow_right₀ (by norm_num) (by omega)
    have hlarge : (2 : ℚ) ^ 1024 < digits * 10 ^ power := calc
      (2 : ℚ) ^ 1024 < 10 ^ (311 : ℤ) := by exact_mod_cast pow_two_lt_pow_ten.1
      _ ≤ 10 ^ power := hle
      _ ≤ digits * 10 ^ power := le_mul_of_one_le_left hpower.le hone
    exact absurd hhigh (not_le.mpr hlarge)
  · have hdigits : (digits : ℚ) < 10 ^ (digitCount digits : ℤ) := by
      exact_mod_cast lt_pow_digitCount digits
    have hsmall : (digits : ℚ) * 10 ^ power < 10 ^ (-331 : ℤ) := calc
      (digits : ℚ) * 10 ^ power < 10 ^ (digitCount digits : ℤ) * 10 ^ power :=
        mul_lt_mul_of_pos_right hdigits hpower
      _ = 10 ^ (digitCount digits + power : ℤ) := (zpow_add₀ (by norm_num) _ _).symm
      _ ≤ 10 ^ (-331 : ℤ) := zpow_le_zpow_right₀ (by norm_num) (by omega)
    have hlt : (2 : ℚ) ^ 1075 < 10 ^ (331 : ℤ) := by exact_mod_cast pow_two_lt_pow_ten.2
    have hbelow : (digits : ℚ) * 10 ^ power * 2 ^ 1075 < 1 := calc
      (digits : ℚ) * 10 ^ power * 2 ^ 1075 < 10 ^ (-331 : ℤ) * 10 ^ (331 : ℤ) :=
        mul_lt_mul'' hsmall hlt (by positivity) (by positivity)
      _ = 10 ^ (-331 + 331 : ℤ) := (zpow_add₀ (by norm_num) _ _).symm
      _ = 1 := zpow_zero _
    exact absurd hlow (not_le.mpr hbelow)

/-- A decimal around a float is read as the float. -/
theorem ofDecimal_eq (hx : x.Normalized) (hpos : 0 < x.significand)
    (h : x.Covers (digits * 10 ^ power * 2 ^ 1074)) :
    ofDecimal x.negative digits power = some x := by
  obtain ⟨hdigits, hhuge, htiny⟩ := h.range hx hpos
  rw [ofDecimal, if_neg hdigits, if_neg (by omega), if_neg (by omega), Nat.pow_eq, Nat.pow_eq]
  rcases le_or_gt 0 power with hsign | hsign
  · obtain ⟨n, rfl⟩ := Int.eq_ofNat_of_zero_le hsign
    rw [if_pos hsign, Int.toNat_natCast]
    refine ofQuotient_eq hx Nat.one_pos rfl ?_
    rw [Nat.cast_one, div_one, Nat.cast_mul, Nat.cast_mul, Nat.cast_pow, Nat.cast_pow,
      ← zpow_natCast]
    exact h
  · obtain ⟨n, hn⟩ := Int.eq_ofNat_of_zero_le (Int.neg_nonneg_of_nonpos hsign.le)
    rw [if_neg (by omega), hn, Int.toNat_natCast]
    refine ofQuotient_eq hx (Nat.pow_pos (by decide)) rfl ?_
    rw [← Int.neg_neg power, hn, zpow_neg, zpow_natCast, mul_right_comm, ← div_eq_mul_inv] at h
    rw [Nat.cast_mul, Nat.cast_pow, Nat.cast_pow]
    exact h

end OfDecimal

end Binary64

end ClusterObjects.Decimal
