-- The double that stands for a decimal is zero only where the decimal is far below one. A double
-- nearest to a fraction has all the whole units of the fraction, so it is not zero where the
-- fraction has one of the smallest units there are.
import Formulary.Proofs.Rational
import Formulary.Proofs.SpareDigits
import Mathlib.Tactic.Linarith
import Mathlib.Tactic.NormNum

namespace Formulary.Binary64

theorem two_zpow_pos (k : Int) : (0 : ℚ) < 2 ^ k := zpow_pos (by norm_num) k

theorem cast_twoPow {k : Int} (h : 0 ≤ k) : ((twoPow k.toNat : Nat) : ℚ) = 2 ^ k := by
  have hk : (k.toNat : Int) = k := Int.toNat_of_nonneg h
  rw [← hk, zpow_natCast, hk]
  exact Nat.cast_pow 2 _

/-- A unit that is not larger than the number is in it at least once. -/
theorem one_le_units_iff {q : ℚ} {k : Int} : 1 ≤ q * 2 ^ (-k) ↔ 2 ^ k ≤ q := by
  rw [zpow_neg, ← div_eq_mul_inv, one_le_div₀ (two_zpow_pos k)]

/-! ## Fractions of whole numbers -/

theorem ne_zero_of_le_ratio {num den : Nat} {q : ℚ} (hq : 0 < q) (h : q ≤ num / den) :
    num ≠ 0 := by
  rintro rfl
  rw [Nat.cast_zero, zero_div] at h
  exact absurd h (not_le.mpr hq)

theorem shifted_pos {num den : Nat} (hden : 0 < den) (k : Int) : 0 < (shifted num den k).2 := by
  unfold shifted
  split
  · exact hden
  · exact Nat.mul_pos hden (Nat.pow_pos (by decide))

theorem shifted_ratio {num den : Nat} (hden : 0 < den) (k : Int) :
    ((shifted num den k).1 : ℚ) / (shifted num den k).2 = num / den * 2 ^ k := by
  have hd : (den : ℚ) ≠ 0 := Nat.cast_ne_zero.mpr hden.ne'
  unfold shifted
  split
  · rename_i hk
    dsimp only
    rw [Nat.cast_mul, cast_twoPow hk]
    ring
  · rename_i hk
    dsimp only
    rw [Nat.cast_mul, cast_twoPow (by omega), zpow_neg]
    have hpower := (two_zpow_pos k).ne'
    field_simp

/-- Rounding to the nearest whole number does not lose a whole one. -/
theorem le_roundHalfEven {num den k : Nat} (hden : 0 < den) (h : (k : ℚ) ≤ num / den) :
    k ≤ roundHalfEven num den := by
  have hfloor : k ≤ num / den := by
    rw [le_div_iff₀ (Nat.cast_pos.mpr hden)] at h
    rw [Nat.le_div_iff_mul_le hden]
    exact_mod_cast h
  unfold roundHalfEven
  dsimp only
  split
  · exact hfloor
  · split <;> omega

theorem leadingBit_le {num den : Nat} (hnum : num ≠ 0) (hden : 0 < den) :
    (2 : ℚ) ^ leadingBit num den ≤ num / den := by
  have hd : (0 : ℚ) < den := Nat.cast_pos.mpr hden
  have hlow : ((2 ^ num.log2 : Nat) : ℚ) ≤ num := Nat.cast_le.mpr (Nat.log2_self_le hnum)
  have hhigh : (den : ℚ) ≤ ((2 ^ (den.log2 + 1) : Nat) : ℚ) := Nat.cast_le.mpr Nat.lt_log2_self.le
  unfold leadingBit
  dsimp only
  generalize he : (num.log2 : Int) - den.log2 = e
  split
  · have hsplit : (2 : ℚ) ^ (e - 1) = 2 ^ num.log2 / 2 ^ (den.log2 + 1) := by
      have hexponent : e - 1 = (num.log2 : Int) - ((den.log2 + 1 : Nat) : Int) := by omega
      rw [hexponent, zpow_sub₀ (by norm_num), zpow_natCast, zpow_natCast]
    rw [hsplit]
    push_cast at hlow hhigh
    gcongr
  · rename_i hlt
    have hpos : 0 < (shifted num den (-e)).2 := shifted_pos hden (-e)
    have hone : (1 : ℚ) ≤ num / den * 2 ^ (-e) := by
      rw [← shifted_ratio hden, one_le_div₀ (Nat.cast_pos.mpr hpos)]
      exact Nat.cast_le.mpr (not_lt.mp hlt)
    exact one_le_units_iff.mp hone

/-! ## The nearest double -/

/-- A double that is not infinite has all whole units of the fraction that it is nearest to; its
unit is the smallest one, or the fraction has 53 bits of it. -/
theorem nearest_units {num den : Nat} (hnum : num ≠ 0) (hden : 0 < den) :
    ∃ unit : Int, (unit = minExponent ∨ (2 : ℚ) ^ (unit + 52) ≤ num / den) ∧
      (nearest num den = infinite ∨ ∃ m, nearest num den = finite m unit ∧
        ∀ k : Nat, (k : ℚ) ≤ num / den * 2 ^ (-unit) → k ≤ m) := by
  have hbit := leadingBit_le hnum hden
  unfold nearest
  rw [if_neg hnum]
  dsimp only
  generalize hunit : max (leadingBit num den - ((precision : Int) - 1)) minExponent = unit
  refine ⟨unit, ?_, ?_⟩
  · rcases max_choice (leadingBit num den - ((precision : Int) - 1)) minExponent with hmax | hmax
    · right
      have hexponent : unit + 52 = leadingBit num den := by
        rw [← hunit, hmax]
        unfold precision
        omega
      rwa [hexponent]
    · exact .inl (hunit.symm.trans hmax)
  · split
    · exact .inl rfl
    · refine .inr ⟨_, rfl, fun k hk => ?_⟩
      rw [← shifted_ratio hden] at hk
      exact le_roundHalfEven (shifted_pos hden _) hk

/-- A fraction of at least the smallest double is not zero as a double. -/
theorem isZero_nearest {num den : Nat} (hden : 0 < den) (h : (2 : ℚ) ^ minExponent ≤ num / den) :
    (nearest num den).isZero = false := by
  have hnum : num ≠ 0 := ne_zero_of_le_ratio (two_zpow_pos _) h
  obtain ⟨unit, hunit, hinfinite | ⟨m, hm, hwhole⟩⟩ := nearest_units hnum hden
  · rw [hinfinite]
    rfl
  · have hle : (2 : ℚ) ^ unit ≤ num / den := by
      rcases hunit with rfl | hbits
      · exact h
      · exact (zpow_le_zpow_right₀ (by norm_num) (by omega)).trans hbits
    have hone : ((1 : Nat) : ℚ) ≤ num / den * 2 ^ (-unit) := by
      rwa [Nat.cast_one, one_le_units_iff]
    have hm1 := hwhole 1 hone
    rw [hm, isZero, beq_eq_false_iff_ne]
    omega

/-! ## Doubles of at least one -/

def AtLeastOne : Binary64 → Prop
  | finite m e => (1 : ℚ) ≤ m * 2 ^ e
  | infinite => True

theorem atLeastOne_finite {m : Nat} {e : Int} :
    (finite m e).AtLeastOne ↔ (1 : ℚ) ≤ m * 2 ^ e := Iff.rfl

theorem AtLeastOne.isZero_eq {x : Binary64} (h : x.AtLeastOne) : x.isZero = false := by
  cases x with
  | infinite => rfl
  | finite m e =>
    rw [isZero, beq_eq_false_iff_ne]
    rintro rfl
    rw [atLeastOne_finite, Nat.cast_zero, zero_mul] at h
    exact absurd h (by norm_num)

theorem atLeastOne_nearest {num den : Nat} (hden : 0 < den) (h : (1 : ℚ) ≤ num / den) :
    (nearest num den).AtLeastOne := by
  have hnum : num ≠ 0 := ne_zero_of_le_ratio one_pos h
  obtain ⟨unit, hunit, hinfinite | ⟨m, hm, hwhole⟩⟩ := nearest_units hnum hden
  · rw [hinfinite]
    trivial
  · rw [hm, atLeastOne_finite]
    by_cases hsign : unit ≤ 0
    · -- One is a whole number of units.
      have hcast := cast_twoPow (k := -unit) (by omega)
      have hle : ((twoPow (-unit).toNat : Nat) : ℚ) ≤ m := by
        refine Nat.cast_le.mpr (hwhole _ ?_)
        rw [hcast]
        exact le_mul_of_one_le_left (two_zpow_pos _).le h
      rwa [hcast, zpow_neg, inv_le_iff_one_le_mul₀ (two_zpow_pos unit)] at hle
    · have hbits : (2 : ℚ) ^ unit ≤ num / den := by
        rcases hunit with hmin | hbits
        · unfold minExponent at hmin
          omega
        · exact (zpow_le_zpow_right₀ (by norm_num) (by omega)).trans hbits
      have hone : ((1 : Nat) : ℚ) ≤ num / den * 2 ^ (-unit) := by
        rwa [Nat.cast_one, one_le_units_iff]
      have hm1 : (1 : ℚ) ≤ m := by exact_mod_cast hwhole 1 hone
      exact one_le_mul_of_one_le_of_one_le hm1 (one_le_zpow₀ (by norm_num) (by omega))

theorem AtLeastOne.mul {x y : Binary64} (hx : x.AtLeastOne) (hy : y.AtLeastOne) :
    (x.mul y).AtLeastOne := by
  cases x with
  | infinite => cases y <;> trivial
  | finite m e =>
    cases y with
    | infinite => trivial
    | finite n f =>
      rw [atLeastOne_finite] at hx hy
      have hproduct := one_le_mul_of_one_le_of_one_le hx hy
      have hvalue : (m * 2 ^ e : ℚ) * (n * 2 ^ f) = ((m * n : Nat) : ℚ) / (1 : Nat) * 2 ^ (e + f) := by
        rw [zpow_add₀ (by norm_num)]
        push_cast
        ring
      rw [hvalue, ← shifted_ratio Nat.one_pos] at hproduct
      exact atLeastOne_nearest (shifted_pos Nat.one_pos _) hproduct

theorem AtLeastOne.squarings {square : Binary64} (hsquare : square.AtLeastOne) (n : Nat) :
    ∀ {result : Binary64}, result.AtLeastOne → (squarings result square n).AtLeastOne := by
  induction n using Nat.strongRecOn generalizing square with
  | ind n ih =>
    intro result hresult
    have hnext : (if n % 2 = 1 then result.mul square else result).AtLeastOne := by
      split
      · exact hresult.mul hsquare
      · exact hresult
    unfold Binary64.squarings
    split
    · exact hresult
    · dsimp only
      split
      · exact hnext
      · exact ih (n / 2) (by omega) (hsquare.mul hsquare) hnext

theorem AtLeastOne.power {x : Binary64} (hx : x.AtLeastOne) {n : Int} (hn : 0 ≤ n) :
    (x.power n).AtLeastOne := by
  have hone : one.AtLeastOne := by
    rw [one, atLeastOne_finite]
    norm_num
  unfold Binary64.power
  dsimp only
  rw [if_neg (by omega)]
  exact hx.squarings _ hone

end Formulary.Binary64

namespace Formulary.Decimal

open Binary64

/-! ## Powers of ten and of two -/

/-- Three decimal digits are fewer than ten bits. -/
theorem ten_pow_le_two_pow (k : Nat) : (10 : ℚ) ^ (3 * k) ≤ 2 ^ (10 * k) := by
  rw [pow_mul, pow_mul]
  exact pow_le_pow_left₀ (by norm_num) (by norm_num) k

theorem two_zpow_neg_le_ten (k : Nat) :
    (2 : ℚ) ^ (-((10 * k : Nat) : Int)) ≤ 10 ^ (-((3 * k : Nat) : Int)) := by
  rw [zpow_neg, zpow_neg, zpow_natCast, zpow_natCast]
  exact inv_anti₀ (pow_pos (by norm_num) _) (ten_pow_le_two_pow k)

theorem smallest_le : (2 : ℚ) ^ minExponent * 2 ≤ 10 ^ (-300 : Int) := by
  have hten : (2 : ℚ) ^ (-1000 : Int) ≤ 10 ^ (-300 : Int) := two_zpow_neg_le_ten 100
  have hmin : (2 : ℚ) ^ minExponent * 2 = 2 ^ (minExponent + 1) :=
    (zpow_add_one₀ (by norm_num) minExponent).symm
  rw [hmin]
  exact (zpow_le_zpow_right₀ (by norm_num) (by decide)).trans hten

theorem mul_ten_zpow_neg {k : Int} (h : 0 ≤ k) (q : ℚ) : q * 10 ^ (-k) = q / 10 ^ k.toNat := by
  have hk : (k.toNat : Int) = k := Int.toNat_of_nonneg h
  rw [← zpow_natCast, hk, zpow_neg, div_eq_mul_inv]

/-! ## What is left of a number -/

/-- The digits that are left stand in front of the spare ones. -/
theorem kept_units (n : Nat) (scale : Int) :
    (kept n : ℚ) * 10 ^ (-keptScale n scale) =
      (kept n * tenPow (19 * spareGroups n) : Nat) * 10 ^ (-scale) := by
  have hexponent : -keptScale n scale = ((19 * spareGroups n : Nat) : Int) + -scale := by
    unfold keptScale
    omega
  rw [hexponent, zpow_add₀ (by norm_num), zpow_natCast, Nat.cast_mul, cast_tenPow, mul_assoc]

theorem kept_value_le (n : Nat) (scale : Int) :
    (kept n : ℚ) * 10 ^ (-keptScale n scale) ≤ n * 10 ^ (-scale) := by
  rw [kept_units]
  exact mul_le_mul_of_nonneg_right (Nat.cast_le.mpr (kept_mul_le n)) (ten_zpow_pos _).le

theorem value_le_kept {n : Nat} (hn : n ≠ 0) (scale : Int) :
    (n : ℚ) * 10 ^ (-scale) ≤ 2 * (kept n * 10 ^ (-keptScale n scale)) := by
  have hhalf : (n : ℚ) ≤ 2 * (kept n * tenPow (19 * spareGroups n) : Nat) := by
    exact_mod_cast le_twice_kept hn
  rw [kept_units, ← mul_assoc]
  exact mul_le_mul_of_nonneg_right hhalf (ten_zpow_pos _).le

/-! ## Numbers that are not too small -/

theorem isZero_nearestFraction {n places : Nat} (h : (10 : ℚ) ^ (-300 : Int) ≤ 2 * (n / 10 ^ places)) :
    (nearestFraction n places).isZero = false := by
  have hplaces : (0 : ℚ) < 10 ^ places := by positivity
  unfold nearestFraction
  rw [if_neg]
  · refine isZero_nearest (Nat.pow_pos (by decide)) ?_
    have hsmall := smallest_le
    rw [cast_tenPow]
    linarith
  · intro hlt
    -- So few digits would stand too far behind the point.
    have hn : (n : ℚ) < 10 ^ digitCount n := by exact_mod_cast lt_tenPow_digitCount n
    have hpow : (10 : ℚ) ^ digitCount n * 10 ^ (400 : Nat) ≤ 10 ^ places := by
      rw [← pow_add]
      exact pow_le_pow_right₀ (by norm_num) hlt.le
    have hsmall : (n : ℚ) / 10 ^ places < (10 ^ (400 : Nat))⁻¹ := by
      rw [div_lt_iff₀ hplaces, inv_mul_eq_div, lt_div_iff₀ (by positivity)]
      exact lt_of_lt_of_le (mul_lt_mul_of_pos_right hn (by positivity)) hpow
    have hstep : 2 * ((10 : ℚ) ^ (400 : Nat))⁻¹ ≤ 10 ^ (-300 : Int) := by
      have hsplit : ((10 : ℚ) ^ (400 : Nat))⁻¹ = 10 ^ (-300 : Int) * 10 ^ (-100 : Int) := by
        rw [← zpow_natCast, ← zpow_neg, ← zpow_add₀ (by norm_num)]
        rfl
      have htwo : 2 * (10 : ℚ) ^ (-100 : Int) ≤ 1 := by norm_num
      rw [hsplit, mul_left_comm]
      exact mul_le_of_le_one_right (ten_zpow_pos _).le htwo
    exact absurd h (not_le.mpr ((mul_lt_mul_of_pos_left hsmall two_pos).trans_le hstep))

/-- The double that stands for a number of at least `10 ^ (-300)` is not zero. -/
theorem isZero_approximate {n : Nat} {scale : Int}
    (hlow : (10 : ℚ) ^ (-300 : Int) ≤ n * 10 ^ (-scale)) :
    (approximate n scale).isZero = false := by
  have hn : n ≠ 0 := by
    rintro rfl
    rw [Nat.cast_zero, zero_mul] at hlow
    exact absurd hlow (not_le.mpr (ten_zpow_pos _))
  rw [approximate_eq, if_neg hn]
  split
  · refine (atLeastOne_nearest Nat.one_pos ?_).isZero_eq
    rw [Nat.cast_one, div_one]
    exact Nat.one_le_cast.mpr (Nat.pos_of_ne_zero hn)
  · split
    · rfl
    · split
      · refine AtLeastOne.isZero_eq (.mul (atLeastOne_nearest Nat.one_pos ?_)
          (.power (atLeastOne_nearest Nat.one_pos ?_) (by omega)))
        · rw [Nat.cast_one, div_one]
          exact Nat.one_le_cast.mpr (kept_pos hn)
        · norm_num
      · rename_i hpositive
        have hvalue := hlow.trans (value_le_kept hn scale)
        rw [mul_ten_zpow_neg (by omega)] at hvalue
        exact isZero_nearestFraction hvalue

end Formulary.Decimal
