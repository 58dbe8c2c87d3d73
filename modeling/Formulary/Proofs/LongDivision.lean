-- Long division. It brings down digits until nothing remains or there are a hundred of them, so
-- what it gives is rounded to its hundredth digit, or to its last whole one.
import Formulary.Proofs.Rounding

namespace Formulary.Decimal

/-! ## The digits -/

/-- The numerator is raised until the first digit of the quotient is not zero. -/
theorem scaleUp_spec (num den : Nat) (hnum : 0 < num) :
    (scaleUp num den).1 = num * 10 ^ (scaleUp num den).2 ∧ den ≤ (scaleUp num den).1 := by
  rw [scaleUp]
  by_cases hlt : num < den
  · rw [dif_pos ⟨hnum, hlt⟩]
    obtain ⟨hraised, hle⟩ := scaleUp_spec (num * 10) den (by omega)
    dsimp only
    refine ⟨?_, hle⟩
    rw [hraised, pow_succ, mul_assoc, mul_comm (10 : Nat)]
  · rw [dif_neg (by omega)]
    exact ⟨by rw [pow_zero, mul_one], by omega⟩
termination_by den - num
decreasing_by omega

/-- The digits so far and what remains make up the numerator, with a zero at its end for each
digit that was brought down. -/
structure LongDivision.Divides (p : LongDivision) (num den : Nat) : Prop where
  parts : p.quotient * den + p.rest = num * 10 ^ p.brought
  rest_lt : p.rest < den

variable {p : LongDivision} {num den : Nat}

/-- One digit more. -/
theorem LongDivision.Divides.step (h : p.Divides num den) :
    LongDivision.Divides
      ⟨p.quotient * 10 + p.rest * 10 / den, p.rest * 10 % den, p.brought + 1⟩ num den := by
  have hden : 0 < den := by have := h.rest_lt; omega
  refine ⟨?_, Nat.mod_lt _ hden⟩
  have hsplit := Nat.div_add_mod (p.rest * 10) den
  calc (p.quotient * 10 + p.rest * 10 / den) * den + p.rest * 10 % den
      = p.quotient * den * 10 + (den * (p.rest * 10 / den) + p.rest * 10 % den) := by ring
    _ = (p.quotient * den + p.rest) * 10 := by rw [hsplit]; ring
    _ = num * 10 ^ (p.brought + 1) := by rw [h.parts, pow_succ, mul_assoc]

/-- All digits. Either nothing remains in the end, or there is no room for more of them. -/
theorem LongDivision.Divides.bringDown (h : p.Divides num den) (room : Nat) :
    (bringDown den room p).Divides num den ∧
      ((bringDown den room p).rest = 0 ∨ (bringDown den room p).brought = p.brought + room) := by
  induction room generalizing p with
  | zero => exact ⟨h, .inr rfl⟩
  | succ room ih =>
    unfold Decimal.bringDown
    split
    · rename_i hrest
      exact ⟨h, .inl hrest⟩
    · obtain ⟨hdivides, hend⟩ := ih h.step
      refine ⟨hdivides, hend.imp_right ?_⟩
      intro hbrought
      rw [hbrought]
      dsimp only
      omega

/-- The digits are rounded by what remains. -/
theorem LongDivision.Divides.nearestWhole_eq (h : p.Divides num den) :
    nearestWhole (num * 10 ^ p.brought / den) =
      ((p.quotient + if 5 ≤ p.rest * 10 / den then 1 else 0 : Nat) : ℤ) := by
  have hden : 0 < den := by have := h.rest_lt; omega
  have hden' : (0 : ℚ) < den := by exact_mod_cast hden
  have hparts : (p.quotient : ℚ) * den + p.rest = num * 10 ^ p.brought := by
    exact_mod_cast h.parts
  have hrest : (p.rest : ℚ) < den := by exact_mod_cast h.rest_lt
  have hnonneg : (0 : ℚ) ≤ p.rest := Nat.cast_nonneg _
  rw [nearestWhole_eq_iff (by positivity), le_div_iff₀ hden', div_lt_iff₀ hden', ← hparts]
  by_cases hhalf : 5 ≤ p.rest * 10 / den
  · rw [Nat.le_div_iff_mul_le hden] at hhalf
    have hup : (den : ℚ) ≤ p.rest * 2 := by exact_mod_cast (by omega : den ≤ p.rest * 2)
    rw [if_pos ((Nat.le_div_iff_mul_le hden).mpr hhalf)]
    push_cast
    constructor <;> linarith
  · rw [if_neg hhalf]
    rw [Nat.le_div_iff_mul_le hden] at hhalf
    have hdown : (p.rest : ℚ) * 2 < den := by exact_mod_cast (by omega : p.rest * 2 < den)
    push_cast
    constructor <;> linarith

/-- So many digits brought down make a hundred digits. -/
theorem hundred_digits {n : Nat} (hn : n ≠ 0) :
    10 ^ 99 ≤ n * 10 ^ (quotientDigits - digitCount n) := by
  have hpos : 0 < digitCount n := Nat.length_toDigits_pos
  have hlead : 10 ^ (digitCount n - 1) ≤ n := tenPow_le_of_lt_digitCount hn (by omega)
  calc 10 ^ 99 ≤ 10 ^ (digitCount n - 1 + (quotientDigits - digitCount n)) :=
        Nat.pow_le_pow_right (by decide) (by unfold quotientDigits; omega)
    _ = 10 ^ (digitCount n - 1) * 10 ^ (quotientDigits - digitCount n) := pow_add _ _ _
    _ ≤ n * 10 ^ (quotientDigits - digitCount n) := Nat.mul_le_mul_right _ hlead

/-- The quotient is rounded where it has a hundred digits or more, unless it is exact. -/
theorem longDivide_spec (hnum : 0 < num) (hden : 0 < den) :
    ((longDivide num den).1 : ℤ) = nearestWhole (num * 10 ^ (longDivide num den).2 / den) ∧
      (((longDivide num den).1 : ℚ) = num * 10 ^ (longDivide num den).2 / den ∨
        10 ^ 99 ≤ (num : ℚ) * 10 ^ (longDivide num den).2 / den) := by
  obtain ⟨hraised, hle⟩ := scaleUp_spec num den hnum
  have hden' : (0 : ℚ) < den := by exact_mod_cast hden
  unfold longDivide
  generalize scaleUp num den = raised at hraised hle ⊢
  obtain ⟨n, places⟩ := raised
  dsimp only at hraised hle ⊢
  have hfirst : n / den ≠ 0 := (Nat.div_pos hle hden).ne'
  have hstart : LongDivision.Divides ⟨n / den, n % den, 0⟩ n den :=
    ⟨by rw [pow_zero, mul_one]; exact Nat.div_add_mod' n den, Nat.mod_lt n hden⟩
  obtain ⟨hdivides, hend⟩ := hstart.bringDown (quotientDigits - digitCount (n / den))
  generalize bringDown den (quotientDigits - digitCount (n / den)) ⟨n / den, n % den, 0⟩ = p
    at hdivides hend ⊢
  have hvalue : (num : ℚ) * 10 ^ (places + p.brought) / den = n * 10 ^ p.brought / den := by
    rw [hraised, pow_add]
    push_cast
    ring
  rw [hvalue, hdivides.nearestWhole_eq]
  refine ⟨rfl, ?_⟩
  rcases hend with hrest | hbrought
  · left
    have hparts := hdivides.parts
    rw [hrest, Nat.add_zero] at hparts
    rw [hrest, Nat.zero_mul, Nat.zero_div, if_neg (by decide), Nat.add_zero,
      eq_div_iff hden'.ne']
    exact_mod_cast hparts
  · right
    rw [le_div_iff₀ hden', hbrought, Nat.zero_add]
    have hdigits := Nat.mul_le_mul_right den (hundred_digits hfirst)
    have hwhole := Nat.mul_le_mul_right (10 ^ (quotientDigits - digitCount (n / den)))
      (Nat.div_mul_le_self n den)
    have hcombined : 10 ^ 99 * den ≤ n * 10 ^ (quotientDigits - digitCount (n / den)) := by
      refine hdigits.trans (le_trans (le_of_eq ?_) hwhole)
      ring
    exact_mod_cast hcombined

/-- A quotient without a rest needs no digits behind the dividend's. -/
theorem longDivide_of_dvd (hnum : 0 < num) (h : den ∣ num) : (longDivide num den).2 = 0 := by
  have hle := Nat.le_of_dvd hnum h
  have hraised : scaleUp num den = (num, 0) := by
    rw [scaleUp, dif_neg (by omega)]
  have hbrought : ∀ room, bringDown den room ⟨num / den, 0, 0⟩ = ⟨num / den, 0, 0⟩ := by
    intro room
    cases room with
    | zero => rfl
    | succ room => rw [bringDown, if_pos rfl]
  unfold longDivide
  rw [hraised]
  dsimp only
  rw [Nat.mod_eq_zero_of_dvd h, hbrought]
  rfl

/-! ## How many there are -/

theorem brought_bringDown_le (den room : Nat) (p : LongDivision) :
    (bringDown den room p).brought ≤ p.brought + room := by
  induction room generalizing p with
  | zero => exact Nat.le_refl _
  | succ room ih =>
    unfold bringDown
    split
    · omega
    · have h := ih ⟨p.quotient * 10 + p.rest * 10 / den, p.rest * 10 % den, p.brought + 1⟩
      dsimp only at h
      omega

/-- A dividend that is raised stays below ten times the divisor. -/
theorem scaleUp_lt (num den : Nat) :
    (scaleUp num den).1 = num ∨ (scaleUp num den).1 < 10 * den := by
  rw [scaleUp]
  by_cases hlt : 0 < num ∧ num < den
  · rw [dif_pos hlt]
    right
    rcases scaleUp_lt (num * 10) den with heq | hten
    · dsimp only
      omega
    · exact hten
  · rw [dif_neg hlt]
    exact .inl rfl
termination_by den - num
decreasing_by omega

/-- A dividend with at most a hundred digits gives a quotient of a hundred digits at most. -/
theorem longDivide_lt {num den : Nat} (hnum : 0 < num) (hden : 0 < den) (hshort : num < 10 ^ 100) :
    (num : ℚ) * 10 ^ (longDivide num den).2 / den < 10 ^ 100 := by
  obtain ⟨hraised, -⟩ := scaleUp_spec num den hnum
  have hsize := scaleUp_lt num den
  unfold longDivide
  generalize scaleUp num den = raised at hraised hsize ⊢
  obtain ⟨n, places⟩ := raised
  dsimp only at hraised hsize ⊢
  have hfirst : n / den < 10 ^ 100 := by
    rcases hsize with rfl | hten
    · exact (Nat.div_le_self n den).trans_lt hshort
    · exact (Nat.div_lt_of_lt_mul (by rwa [Nat.mul_comm] at hten)).trans (by decide)
  have hcount : digitCount (n / den) ≤ quotientDigits :=
    (Nat.length_toDigits_le_iff (by decide) (by decide)).mpr hfirst
  have hbrought := brought_bringDown_le den (quotientDigits - digitCount (n / den))
    ⟨n / den, n % den, 0⟩
  generalize bringDown den (quotientDigits - digitCount (n / den)) ⟨n / den, n % den, 0⟩ = p
    at hbrought ⊢
  have hsplit : p.brought + digitCount (n / den) ≤ 100 := by
    unfold quotientDigits at hbrought hcount
    dsimp only at hbrought
    omega
  have hlead : n < 10 ^ digitCount (n / den) * den :=
    (Nat.div_lt_iff_lt_mul hden).mp (lt_tenPow_digitCount _)
  have hall : num * 10 ^ (places + p.brought) < 10 ^ 100 * den := by
    calc num * 10 ^ (places + p.brought) = n * 10 ^ p.brought := by
          rw [hraised, pow_add, mul_assoc]
      _ < 10 ^ digitCount (n / den) * den * 10 ^ p.brought :=
          Nat.mul_lt_mul_of_pos_right hlead (Nat.pow_pos (by decide))
      _ = 10 ^ (p.brought + digitCount (n / den)) * den := by
          rw [pow_add]
          ring
      _ ≤ 10 ^ 100 * den :=
          Nat.mul_le_mul_right den (Nat.pow_le_pow_right (by decide) hsplit)
  rw [div_lt_iff₀ (by exact_mod_cast hden)]
  exact_mod_cast hall

/-- A quotient has at most a hundred places more than the divisor has digits. -/
theorem places_longDivide_le {num den : Nat} (hnum : 0 < num) :
    (longDivide num den).2 ≤ digitCount den + quotientDigits := by
  obtain ⟨hraised, -⟩ := scaleUp_spec num den hnum
  have hsize := scaleUp_lt num den
  have hbrought := brought_bringDown_le den
    (quotientDigits - digitCount ((scaleUp num den).1 / den))
    ⟨(scaleUp num den).1 / den, (scaleUp num den).1 % den, 0⟩
  unfold longDivide
  generalize scaleUp num den = raised at hraised hsize hbrought ⊢
  obtain ⟨n, places⟩ := raised
  dsimp only at hraised hsize hbrought ⊢
  have hplaces : places ≤ digitCount den := by
    rcases hsize with rfl | hten
    · have hone : (10 : Nat) ^ places = 1 := Nat.eq_of_mul_eq_mul_left hnum (by omega)
      have hzero : places = 0 := by
        by_contra hne
        exact absurd hone (Nat.one_lt_pow hne (by decide)).ne'
      omega
    · have hlt : 10 ^ places < 10 ^ (digitCount den + 1) := by
        calc 10 ^ places ≤ num * 10 ^ places := Nat.le_mul_of_pos_left _ hnum
          _ < 10 * den := by rwa [← hraised]
          _ < 10 * 10 ^ digitCount den :=
            Nat.mul_lt_mul_of_pos_left (lt_tenPow_digitCount den) (by decide)
          _ = 10 ^ (digitCount den + 1) := by rw [pow_succ, Nat.mul_comm]
      exact Nat.lt_succ_iff.mp ((Nat.pow_lt_pow_iff_right (by decide)).mp hlt)
  omega

end Formulary.Decimal
