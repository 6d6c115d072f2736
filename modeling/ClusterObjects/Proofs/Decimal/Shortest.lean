import ClusterObjects.Proofs.Decimal.Rounding

/-!
# The shortest digits read back

The search for shortest digits tests grids of finer and finer powers of ten. What it returns is
rounded to the float because the test says so, and the search does not run out: the last grid, with
seventeen digits, is finer than the interval of the quotients that are rounded to the float, so one
of the two neighbours of the float on that grid lies inside.
-/

namespace ClusterObjects.Decimal

/-! ## Powers as the model writes them

The scale of the floats is too large for the powers of numerals that are computed, so it stays a
power under the casts. -/

theorem natPow_pos {base : Nat} (hbase : 0 < base) (n : Nat) : 0 < Nat.pow base n :=
  Nat.pow_pos hbase

theorem cast_natPow (n : Nat) : ((Nat.pow 2 n : Nat) : ℚ) = 2 ^ n ∧
    ((Nat.pow 10 n : Nat) : ℚ) = 10 ^ n :=
  ⟨Nat.cast_pow 2 n, Nat.cast_pow 10 n⟩

/-! ## The leading digit -/

theorem pow_digitCount_le {n : Nat} (hn : 0 < n) : 10 ^ (digitCount n - 1) ≤ n := by
  by_contra hlt
  rcases Nat.eq_zero_or_pos (digitCount n - 1) with hzero | hpos
  · rw [hzero] at hlt
    omega
  · have hlength : digitCount n ≤ digitCount n - 1 :=
      (Nat.length_toDigits_le_iff (by decide) hpos).mpr (Nat.lt_of_not_le hlt)
    omega

/-- The leading digit of a quotient does not stand above the quotient. -/
theorem pow_leadingPower_le {num den : Nat} (hnum : 0 < num) (hden : 0 < den) :
    (10 : ℚ) ^ Binary64.leadingPower num den ≤ (num : ℚ) / den := by
  have hnum' : (0 : ℚ) < num := by exact_mod_cast hnum
  have hden' : (0 : ℚ) < den := by exact_mod_cast hden
  unfold Binary64.leadingPower
  simp only [Nat.pow_eq]
  rw [le_div_iff₀ hden']
  split_ifs with hge hle
  · have hpos : 0 < digitCount (num / den) := Nat.length_toDigits_pos
    have hdigits := pow_digitCount_le (Nat.div_pos hge hden)
    rw [show ((digitCount (num / den) : Int) - 1) = (digitCount (num / den) - 1 : Nat) by omega,
      zpow_natCast]
    exact_mod_cast (Nat.mul_le_mul_right den hdigits).trans (Nat.div_mul_le_self num den)
  · have hpos : 0 < digitCount (den / num) := Nat.length_toDigits_pos
    rw [show ((digitCount (den / num) : Int) - 1) = (digitCount (den / num) - 1 : Nat) by omega,
      zpow_neg, zpow_natCast, inv_mul_le_iff₀ (by positivity), mul_comm]
    exact_mod_cast hle
  · have hlt : den < num * 10 ^ digitCount (den / num) := by
      rw [Nat.mul_comm]
      exact (Nat.div_lt_iff_lt_mul hnum).mp (lt_pow_digitCount (den / num))
    rw [zpow_neg, zpow_natCast, inv_mul_le_iff₀ (by positivity), mul_comm]
    exact_mod_cast hlt.le

namespace Binary64

variable {x : Binary64} {power : Int}

theorem cast_units (x : Binary64) : (x.units : ℚ) = x.significand * 2 ^ x.exponent := by
  rw [units, Nat.cast_mul, (cast_natPow _).1]

theorem gridPoint_eq (digits : Nat) (power : Int) : ∃ num den : Nat, 0 < den ∧
    gridPoint digits power = (num, den) ∧
    (num : ℚ) / den = digits * 10 ^ power * 2 ^ 1074 := by
  unfold gridPoint
  split_ifs with hsign
  · obtain ⟨n, rfl⟩ := Int.eq_ofNat_of_zero_le hsign
    refine ⟨_, _, Nat.one_pos, rfl, ?_⟩
    simp only [Int.toNat_natCast, Nat.cast_mul, cast_natPow, zpow_natCast, Nat.cast_one, div_one]
  · obtain ⟨n, hn⟩ := Int.eq_ofNat_of_zero_le (Int.neg_nonneg_of_nonpos (Int.le_of_not_le hsign))
    obtain rfl : power = -n := by omega
    refine ⟨_, _, natPow_pos (by decide) _, rfl, ?_⟩
    simp only [Int.neg_neg, Int.toNat_natCast, Nat.cast_mul, cast_natPow, zpow_neg, zpow_natCast]
    rw [div_eq_mul_inv, mul_right_comm]

theorem covers_gridPoint (hpos : 0 < x.significand) (digits : Nat) (power : Int) :
    x.covers (gridPoint digits power).1 (gridPoint digits power).2 = true ↔
      x.Covers (digits * 10 ^ power * 2 ^ 1074) := by
  obtain ⟨num, den, hden, heq, hvalue⟩ := gridPoint_eq digits power
  rw [heq, covers_iff hden hpos, hvalue]

/-- The quotient whose neighbours `onGrid` tests. -/
theorem gridQuotient_eq (x : Binary64) (power : Int) {scale num den : Nat} (hscale : 0 < scale)
    (h : (if 0 ≤ power then (x.units, scale * Nat.pow 10 power.toNat)
      else (x.units * Nat.pow 10 (-power).toNat, scale)) = (num, den)) :
    0 < den ∧ (num : ℚ) / den = x.units / scale / 10 ^ power := by
  split_ifs at h with hsign
  · obtain ⟨n, rfl⟩ := Int.eq_ofNat_of_zero_le hsign
    obtain ⟨rfl, rfl⟩ := Prod.mk.inj h
    refine ⟨Nat.mul_pos hscale (natPow_pos (by decide) _), ?_⟩
    simp only [Int.toNat_natCast, Nat.cast_mul, cast_natPow, zpow_natCast, div_div]
  · obtain ⟨n, hn⟩ := Int.eq_ofNat_of_zero_le (Int.neg_nonneg_of_nonpos (Int.le_of_not_le hsign))
    obtain rfl : power = -n := by omega
    obtain ⟨rfl, rfl⟩ := Prod.mk.inj h
    refine ⟨hscale, ?_⟩
    simp only [Int.neg_neg, Int.toNat_natCast, Nat.cast_mul, cast_natPow, zpow_neg, zpow_natCast]
    rw [div_inv_eq_mul, div_mul_eq_mul_div]

/-- The tests of `onGrid`: what it returns is rounded to the float, and when it returns nothing
neither neighbour is. -/
theorem onGrid_spec (hpos : 0 < x.significand) (power : Int) : ∃ low : Nat,
    (low : ℚ) ≤ x.units / 2 ^ 1074 / 10 ^ power ∧ x.units / 2 ^ 1074 / 10 ^ power < (low : ℚ) + 1 ∧
    match x.onGrid power with
    | some digits => x.Covers (digits * 10 ^ power * 2 ^ 1074)
    | none => ¬ x.Covers (low * 10 ^ power * 2 ^ 1074) ∧
        ¬ x.Covers ((low + 1 : Nat) * 10 ^ power * 2 ^ 1074) := by
  generalize hgrid : x.onGrid power = found
  unfold onGrid at hgrid
  split at hgrid
  next num den hpair =>
  have hscale : 0 < Nat.pow 2 1074 := by decide +kernel
  obtain ⟨hden, hquotient⟩ := gridQuotient_eq x power hscale hpair
  have hden' : (0 : ℚ) < den := by exact_mod_cast hden
  simp only [cast_natPow] at hquotient
  refine ⟨num / den, ?_, ?_, ?_⟩
  · rw [← hquotient, le_div_iff₀ hden']
    exact_mod_cast Nat.div_mul_le_self num den
  · rw [← hquotient, div_lt_iff₀ hden']
    exact_mod_cast Nat.lt_mul_of_div_lt (Nat.lt_succ_self _) hden
  · have hlow := covers_gridPoint hpos (num / den) power
    have hhigh := covers_gridPoint hpos (num / den + 1) power
    dsimp only at hgrid
    generalize x.covers (gridPoint (num / den) power).1 (gridPoint (num / den) power).2 = low at *
    generalize x.covers (gridPoint (num / den + 1) power).1 (gridPoint (num / den + 1) power).2 =
      high at *
    subst hgrid
    cases low <;> cases high <;> dsimp only
    · exact ⟨mt hlow.mpr (by decide), mt hhigh.mpr (by decide)⟩
    · exact hhigh.mp rfl
    · exact hlow.mp rfl
    · split_ifs
      exacts [hlow.mp rfl, hhigh.mp rfl, hlow.mp rfl, hhigh.mp rfl]

/-- The steps of a grid with seventeen digits are shorter than what is rounded to the float. -/
theorem Normalized.step_lt (hx : x.Normalized) {step : ℚ} (hstep : 10 ^ 16 * step ≤ x.significand) :
    step < x.significand + 1 / 2 - x.lower := by
  have hsignificand := hx.significand_add_one_le
  unfold lower
  split_ifs with hnarrow
  · rw [hnarrow.1] at hstep ⊢
    push_cast at hstep ⊢
    linarith
  · linarith

/-- Of two neighbours on a fine grid, one is rounded to the float between them. -/
theorem covers_or_covers {low step : ℚ} (hbelow : low ≤ x.units) (habove : x.units < low + step)
    (hstep : step / 2 ^ x.exponent < x.significand + 1 / 2 - x.lower) :
    x.Covers low ∨ x.Covers (low + step) := by
  have hunit : (0 : ℚ) < 2 ^ x.exponent := by positivity
  have hunits : (x.units : ℚ) / 2 ^ x.exponent = x.significand := by
    rw [cast_units, mul_div_cancel_right₀ _ hunit.ne']
  have hlower : x.lower < x.significand := by
    unfold lower
    split_ifs <;> linarith
  replace hbelow := div_le_div_of_nonneg_right hbelow hunit.le
  replace habove := div_lt_div_of_pos_right habove hunit
  rw [hunits] at hbelow habove
  rcases lt_or_ge x.lower (low / 2 ^ x.exponent) with hlow | hlow
  · exact .inl (.of_between hlow (by linarith))
  · refine .inr (.of_between (hlower.trans habove) ?_)
    rw [add_div]
    linarith

/-- The grid whose leading digit has sixteen digits behind it has a hit. -/
theorem onGrid_ne_none (hx : x.Normalized) (hpos : 0 < x.significand)
    (hfine : (10 : ℚ) ^ (power + 16) ≤ (x.units : ℚ) / 2 ^ 1074) : x.onGrid power ≠ none := by
  intro hnone
  obtain ⟨low, hbelow, habove, hspec⟩ := onGrid_spec hpos power
  rw [hnone] at hspec
  have hscale : (0 : ℚ) < 2 ^ 1074 := by positivity
  have hpower : (0 : ℚ) < 10 ^ power := zpow_pos (by norm_num) power
  have hunit : (0 : ℚ) < 2 ^ x.exponent := by positivity
  generalize (2 : ℚ) ^ 1074 = scale at *
  have hstep : 10 ^ 16 * ((10 : ℚ) ^ power * scale / 2 ^ x.exponent) ≤ x.significand := by
    rw [zpow_add₀ (by norm_num), le_div_iff₀ hscale, cast_units, ← div_le_iff₀ hunit] at hfine
    calc
      10 ^ 16 * ((10 : ℚ) ^ power * scale / 2 ^ x.exponent) =
          (10 : ℚ) ^ power * 10 ^ (16 : ℤ) * scale / 2 ^ x.exponent := by
        rw [zpow_ofNat]
        ring
      _ ≤ x.significand := hfine
  rw [div_div, le_div_iff₀ (mul_pos hscale hpower), mul_comm scale, ← mul_assoc] at hbelow
  rw [div_div, div_lt_iff₀ (mul_pos hscale hpower), mul_comm scale, add_mul, one_mul,
    ← mul_assoc] at habove
  rcases covers_or_covers hbelow habove (hx.step_lt hstep) with h | h
  · exact hspec.1 h
  · refine hspec.2 ?_
    rw [Nat.cast_succ, add_mul, add_mul, one_mul]
    exact h

/-- The search ends at a grid whose neighbour of the float is rounded to it. -/
theorem shortestFrom_covers (hx : x.Normalized) (hpos : 0 < x.significand) {lead : Int}
    (hlead : (10 : ℚ) ^ lead ≤ (x.units : ℚ) / 2 ^ 1074) {left : Nat} (hleft : 0 < left) :
    x.Covers ((x.shortestFrom lead left).digits * 10 ^ (x.shortestFrom lead left).power *
      2 ^ 1074) := by
  induction left with
  | zero => exact absurd hleft (Nat.lt_irrefl 0)
  | succ left ih =>
    obtain ⟨_, _, _, hspec⟩ := onGrid_spec hpos (lead - (16 - left : Nat))
    rw [shortestFrom]
    cases hgrid : x.onGrid (lead - (16 - left : Nat)) with
    | some digits =>
      rw [hgrid] at hspec
      exact hspec
    | none =>
      -- The last grid is fine enough, so there are more to come.
      refine ih (Nat.pos_of_ne_zero fun hlast ↦ onGrid_ne_none hx hpos ?_ hgrid)
      simpa [hlast] using hlead

/-- The shortest digits of a float are rounded to it. -/
theorem shortest_covers (hx : x.Normalized) (hpos : 0 < x.significand) :
    x.Covers (x.shortest.digits * 10 ^ x.shortest.power * 2 ^ 1074) := by
  have hunits : 0 < x.units := Nat.mul_pos hpos (natPow_pos (by decide) _)
  have hscale : 0 < Nat.pow 2 1074 := by decide +kernel
  have hlead := pow_leadingPower_le hunits hscale
  simp only [cast_natPow] at hlead
  rewrite [shortest, if_neg (by simpa [isZero] using Nat.ne_of_gt hpos)]
  exact shortestFrom_covers hx hpos hlead (by decide)

end Binary64

end ClusterObjects.Decimal
