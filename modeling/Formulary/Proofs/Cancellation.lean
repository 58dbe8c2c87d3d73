-- Division undoes multiplication. The digits of the one factor are the whole part of the quotient
-- of the product by the other, so long division comes to its end before it runs out of digits,
-- however many of them there are.
import Formulary.Proofs.Quotient

namespace Formulary.Decimal

variable {x y : Decimal}

/-- A product keeps the sum of the scales, if neither factor drops out. -/
theorem scale_mul (h : IsScale (x.scale + y.scale)) (hx : ¬ x.isOne = true)
    (hy : ¬ y.isOne = true) : (x.mul y).scale = x.scale + y.scale := by
  unfold mul
  rw [if_neg hx, if_neg hy]
  exact toInt_add h

/-- The quotient of a product by one of its factors ends with the whole digits. -/
theorem quotientScale_mul (hx : x.int ≠ 0) (hy : y.int ≠ 0) (h : IsScale (x.scale + y.scale))
    (hone : ¬ x.isOne = true) (hone' : ¬ y.isOne = true) :
    quotientScale (x.mul y) y = x.scale := by
  have hint : (x.mul y).int = x.int * y.int := by
    unfold mul
    rw [if_neg hone, if_neg hone']
  have hdvd : y.int.natAbs ∣ (x.int * y.int).natAbs := by
    rw [Int.natAbs_mul]
    exact dvd_mul_left _ _
  unfold quotientScale
  rw [hint, scale_mul h hone hone',
    longDivide_of_dvd (Int.natAbs_pos.mpr (mul_ne_zero hx hy)) hdvd]
  omega

/-- A product divided by one of its factors is the other factor. -/
theorem toRat_divide_mul (hy : y.int ≠ 0) (h : HasProduct x y) :
    ((x.mul y).divide y).toRat = x.toRat := by
  have hquotient : (x.mul y).toRat / y.toRat = x.toRat := by
    rw [toRat_mul h, mul_div_cancel_right₀ _ (mt toRat_eq_zero_iff.mp hy)]
  by_cases hshort : (x.mul y).int = 0 ∨ y.isOne = true
  · -- There is nothing to be divided, whatever the places are.
    have hself : (x.mul y).divide y = x.mul y := if_pos hshort
    rw [hself, ← hquotient]
    rcases hshort with hzero | hone
    · rw [toRat_eq_zero_iff.mpr hzero, zero_div]
    · rw [toRat_of_isOne hone, div_one]
  · obtain ⟨hproduct, hone'⟩ := not_or.mp hshort
    by_cases hone : x.isOne = true
    · have hmul : x.mul y = y := if_pos hone
      have hscale : quotientScale y y = 0 := by
        rw [quotientScale_of_int_eq hy rfl, sub_self]
      rw [hmul] at hquotient ⊢
      rw [toRat_divide_of_fitsAt hy (.inr (.inr (by rw [hscale]; decide))), hquotient]
      rw [hquotient, toRat_of_isOne hone, sub_self]
      exact ⟨1, by norm_num⟩
    · have hx : x.int ≠ 0 := by
        intro hx
        rw [← toRat_eq_zero_iff, toRat_mul h, toRat_eq_zero_iff.mpr hx, zero_mul] at hproduct
        exact hproduct rfl
      have hscale : IsScale (x.scale + y.scale) := (h.resolve_left hx).resolve_left hy
      have hplace : HasQuotient (x.mul y) y := by
        refine .inr (.inr ?_)
        rw [quotientScale_mul hx hy hscale hone hone']
        exact isScale_scale x
      rw [toRat_divide_of_fitsAt hy hplace, hquotient]
      rw [hquotient, scale_mul hscale hone hone', add_sub_cancel_right]
      exact fitsAt_toRat le_rfl

/-- The bound changes nothing of a product that is not zero, if the scales are within it. -/
theorem bound_mul_eq_self (hx : x.scale ≤ maxPlaces) (hy : y.scale ≤ maxPlaces)
    (hsum : x.scale + y.scale ≤ maxPlaces) (h : HasProduct x y) (hne : (x.mul y).toRat ≠ 0) :
    (x.mul y).bound = x.mul y := by
  apply bound_eq_self
  by_cases hone : x.isOne = true
  · rwa [mul, if_pos hone]
  · by_cases hone' : y.isOne = true
    · rwa [mul, if_neg hone, if_pos hone']
    · rw [toRat_mul h] at hne
      obtain ⟨hxne, hyne⟩ := mul_ne_zero_iff.mp hne
      have hscale : IsScale (x.scale + y.scale) :=
        (h.resolve_left (mt toRat_eq_zero_iff.mpr hxne)).resolve_left
          (mt toRat_eq_zero_iff.mpr hyne)
      rwa [scale_mul hscale hone hone']

/-! ## The law -/

/-- The law of cancellation, for a factor `x` with at most 20 places, a factor `y` that is not zero,
and scales that leave the product within 1100 places. If the product has a place, as it always has
for numbers within the doubles, the product divided by `y` is `x`, in its form without trailing
zeros, unless the doubles do not reach to `x`. -/
theorem quotient_of_product (hfits : FitsAt quotientPlaces x.toRat) (hx : x.scale ≤ maxPlaces)
    (hy : y.scale ≤ maxPlaces) (hsum : x.scale + y.scale ≤ maxPlaces) (hzero : y.toRat ≠ 0) :
    (x.isFinite = true → y.isFinite = true → HasProduct x y) ∧
      (HasProduct x y → ∀ p, x.product y = .ok p →
        p.quotient y = (x.roundTo (.ofInt quotientPlaces)).normalized.finite ∧
          ∀ q, p.quotient y = .ok q → q.toRat = x.toRat) := by
  refine ⟨fun hxfinite hyfinite => ?_, fun hplace p hp => ?_⟩
  · have hplace := hasProduct_bound (inReach_of_isFinite hxfinite) (inReach_of_isFinite hyfinite)
    rwa [bound_eq_self hx, bound_eq_self hy] at hplace
  have hint : y.int ≠ 0 := mt toRat_eq_zero_iff.mpr hzero
  have hproduct : p = (x.mul y).bound := by
    unfold product at hp
    rw [bound_eq_self hx, bound_eq_self hy] at hp
    exact eq_of_finite hp
  have hdivide : (p.bound.divide y.bound).toRat = x.toRat := by
    rw [bound_eq_self hy]
    by_cases hne : (x.mul y).toRat = 0
    · -- The place of a zero may have been lost, but zero is divided without regard to it.
      have hnull : p.bound.toRat = 0 := by
        rw [hproduct, toRat_bound, toRat_bound, hne, roundedAt_zero, roundedAt_zero]
      have hself : p.bound.divide y = p.bound := if_pos (.inl (toRat_eq_zero_iff.mp hnull))
      rw [toRat_mul hplace, mul_eq_zero, or_iff_left hzero] at hne
      rw [hself, hnull, hne]
    · have hbound := bound_mul_eq_self hx hy hsum hplace hne
      rw [hproduct, hbound, hbound, toRat_divide_mul hint hplace]
  have hdivisor : y.bound.isZero = false := by
    rw [bound_eq_self hy]
    simpa [isZero] using hint
  refine ⟨?_, fun q hq => ?_⟩
  · unfold quotient
    rw [hdivisor, if_neg Bool.false_ne_true, roundTo_congr hdivide]
  · rw [toRat_of_quotient hdivisor hq, hdivide, roundedAt_of_fitsAt hfits]

/-- A factor with more digits than a quotient brings down, and a divisor with a negative scale. -/
theorem quotient_of_product_long :
    FitsAt quotientPlaces (toRat ⟨-(10 ^ 151 + 10), 4⟩) ∧ toRat ⟨70, -2⟩ ≠ 0 ∧
      HasProduct ⟨-(10 ^ 151 + 10), 4⟩ ⟨70, -2⟩ ∧
      (⟨-(10 ^ 151 + 10), 4⟩ : Decimal).product ⟨70, -2⟩ = .ok ⟨-(7 * 10 ^ 152 + 700), 2⟩ ∧
      (⟨-(7 * 10 ^ 152 + 700), 2⟩ : Decimal).quotient ⟨70, -2⟩ = .ok ⟨-(10 ^ 150 + 1), 3⟩ ∧
      toRat ⟨-(10 ^ 150 + 1), 3⟩ = toRat ⟨-(10 ^ 151 + 10), 4⟩ := by
  have hfits : FitsAt quotientPlaces (toRat ⟨-(10 ^ 151 + 10), 4⟩) := fitsAt_toRat (by decide)
  have hzero : toRat ⟨70, -2⟩ ≠ 0 := mt toRat_eq_zero_iff.mp (by decide)
  have hproduct : (⟨-(10 ^ 151 + 10), 4⟩ : Decimal).product ⟨70, -2⟩ =
      .ok ⟨-(7 * 10 ^ 152 + 700), 2⟩ := by decide +kernel
  have hquotient : (⟨-(7 * 10 ^ 152 + 700), 2⟩ : Decimal).quotient ⟨70, -2⟩ =
      .ok ⟨-(10 ^ 150 + 1), 3⟩ := by decide +kernel
  obtain ⟨hfinite, hlaw⟩ := quotient_of_product hfits (by decide) (by decide) (by decide) hzero
  have hplace := hfinite (by decide +kernel) (by decide +kernel)
  obtain ⟨-, hback⟩ := hlaw hplace _ hproduct
  exact ⟨hfits, hzero, hplace, hproduct, hquotient, hback _ hquotient⟩

/-- A product without a place may not lead back: here it is zero, although neither factor is. -/
theorem quotient_of_product_lost :
    FitsAt quotientPlaces (toRat ⟨2, -5000000000000000000⟩) ∧
      toRat ⟨2, -5000000000000000000⟩ ≠ 0 ∧
      (⟨2, -5000000000000000000⟩ : Decimal).product ⟨2, -5000000000000000000⟩ = .ok zero ∧
      zero.quotient ⟨2, -5000000000000000000⟩ = .ok zero ∧
      zero.toRat ≠ toRat ⟨2, -5000000000000000000⟩ := by
  have hzero : toRat ⟨2, -5000000000000000000⟩ ≠ 0 := mt toRat_eq_zero_iff.mp (by decide)
  refine ⟨fitsAt_toRat (by decide), hzero, by decide +kernel, by decide +kernel, ?_⟩
  rw [toRat_zero]
  exact hzero.symm

end Formulary.Decimal
