-- What a quotient depends on. A dividend with at most a hundred digits is divided to exactly a
-- hundred digits of the quotient, so that the quotient is the same for all forms of the divisor
-- with which it has a place.
import Formulary.Proofs.Quotient
import Mathlib.Algebra.Order.Archimedean.Basic

namespace Formulary.Decimal

/-! ## A hundred digits -/

/-- Where the number has exactly a hundred digits it is rounded. -/
def RoundedToHundred (q r : ℚ) : Prop :=
  ∀ places : ℤ, 10 ^ 99 ≤ |q| * 10 ^ places → |q| * 10 ^ places < 10 ^ 100 → r = roundedAt places q

/-- There is one such place, so that the rounded number is known. -/
theorem RoundedToHundred.unique {q r s : ℚ} (hq : q ≠ 0) (hr : RoundedToHundred q r)
    (hs : RoundedToHundred q s) : r = s := by
  obtain ⟨k, hlow, hhigh⟩ := exists_mem_Ico_zpow (y := (10 : ℚ)) (abs_pos.mpr hq) (by norm_num)
  have hshift : ∀ j : ℤ, (10 : ℚ) ^ j * 10 ^ (99 - k) = 10 ^ (j + (99 - k)) :=
    fun j => (zpow_add₀ (by norm_num) j (99 - k)).symm
  have hleast : (10 : ℚ) ^ 99 ≤ |q| * 10 ^ (99 - k) := by
    have h := mul_le_mul_of_nonneg_right hlow (ten_zpow_pos (99 - k)).le
    rwa [hshift, add_sub_cancel] at h
  have hmost : |q| * 10 ^ (99 - k) < 10 ^ 100 := by
    have h := mul_lt_mul_of_pos_right hhigh (ten_zpow_pos (99 - k))
    rwa [hshift, show k + 1 + (99 - k) = 100 by ring] at h
  rw [hr _ hleast hmost, hs _ hleast hmost]

/-- A number with a hundred digits at most is not changed. -/
theorem roundedToHundred_self {q : ℚ} {k : ℤ} (hfits : FitsAt k q)
    (hshort : |q| * 10 ^ k < 10 ^ 100) : RoundedToHundred q q := by
  intro places hdigits _
  have hplaces := lt_of_hundred_digits hdigits hshort
  rw [roundedAt_of_fitsAt (fitsAt_mono hfits (by omega))]

theorem roundedToHundred_toRat {x : Decimal} (h : x.int.natAbs < 10 ^ 100) :
    RoundedToHundred x.toRat x.toRat := by
  apply roundedToHundred_self (fitsAt_toRat (le_refl x.scale))
  have hshort : (x.int.natAbs : ℚ) < 10 ^ 100 := by exact_mod_cast h
  rw [abs_toRat, shift_forth]
  exact hshort

/-- A dividend with at most a hundred digits is divided to a hundred digits. -/
theorem roundedToHundred_divide {x y : Decimal} (hx : x.int.natAbs < 10 ^ 100) (hy : y.int ≠ 0)
    (h : HasQuotient x y) : RoundedToHundred (x.toRat / y.toRat) (x.divide y).toRat := by
  by_cases hzero : x.int = 0
  · intro places hdigits _
    rw [toRat_eq_zero_iff.mpr hzero, zero_div, abs_zero, zero_mul] at hdigits
    norm_num at hdigits
  · by_cases hone : y.isOne = true
    · have hself : x.divide y = x := by
        unfold divide
        exact if_pos (.inr hone)
      rw [hself, toRat_of_isOne hone, div_one]
      exact roundedToHundred_toRat hx
    · have hscale : IsScale (quotientScale x y) := (h.resolve_left hzero).resolve_left hone
      by_cases hsame : x.int = y.int
      · obtain ⟨z, hself, hunit, hvalue⟩ := divide_of_int_eq hzero hone hsame hscale
        rw [hself, ← hvalue]
        apply roundedToHundred_toRat
        rw [hunit]
        decide
      · obtain ⟨hrounded, hsize⟩ := toRat_divide_long hzero hy hone hsame hscale
        have hmost := longDivide_lt (Int.natAbs_pos.mpr hzero) (Int.natAbs_pos.mpr hy) hx
        rw [← abs_quotient_shift hzero hy] at hmost
        change |x.toRat / y.toRat| * 10 ^ quotientScale x y < 10 ^ 100 at hmost
        rw [hrounded]
        rcases hsize with hfits | hleast
        · rw [roundedAt_of_fitsAt hfits]
          exact roundedToHundred_self hfits hmost
        · intro places hlow hhigh
          have hle := lt_of_hundred_digits hlow hmost
          have hge := lt_of_hundred_digits hleast hhigh
          rw [show quotientScale x y = places by omega]

/-! ## The quotient -/

theorem isZero_bound_congr {y y' : Decimal} (h : y.toRat = y'.toRat) :
    y.bound.isZero = y'.bound.isZero := by
  have hiff : y.bound.isZero = true ↔ y'.bound.isZero = true := by
    unfold isZero
    rw [beq_iff_eq, beq_iff_eq, ← toRat_eq_zero_iff, ← toRat_eq_zero_iff, toRat_bound, toRat_bound,
      h]
  rwa [Bool.eq_iff_iff]

/-- The law of short quotients: a dividend with at most a hundred digits is divided by the value of
the divisor, in whatever form that is, as long as the quotients have places. -/
theorem quotient_congr {x y y' : Decimal} (hx : x.bound.int.natAbs < 10 ^ 100)
    (h : y.toRat = y'.toRat) (hplace : HasQuotient x.bound y.bound)
    (hplace' : HasQuotient x.bound y'.bound) : x.quotient y = x.quotient y' := by
  have hzero := isZero_bound_congr h
  have hbound : y.bound.toRat = y'.bound.toRat := by
    rw [toRat_bound, toRat_bound, h]
  unfold quotient
  rw [hzero]
  by_cases hdivisor : y'.bound.isZero = true
  · rw [if_pos hdivisor, if_pos hdivisor]
  · rw [if_neg hdivisor, if_neg hdivisor]
    have hint' : y'.bound.int ≠ 0 := fun hint => hdivisor (beq_iff_eq.mpr hint)
    have hint : y.bound.int ≠ 0 := by
      intro hint
      rw [← hzero] at hdivisor
      exact hdivisor (beq_iff_eq.mpr hint)
    have hdivide : (x.bound.divide y.bound).toRat = (x.bound.divide y'.bound).toRat := by
      have hdigits := roundedToHundred_divide hx hint hplace
      have hdigits' := roundedToHundred_divide hx hint' hplace'
      rw [hbound] at hdigits
      by_cases hnull : x.bound.int = 0
      · unfold divide
        rw [if_pos (.inl hnull), if_pos (.inl hnull)]
      · refine hdigits.unique (div_ne_zero ?_ ?_) hdigits'
        · exact fun hrat => hnull (toRat_eq_zero_iff.mp hrat)
        · exact fun hrat => hint' (toRat_eq_zero_iff.mp hrat)
    rw [roundTo_congr hdivide]

end Formulary.Decimal
