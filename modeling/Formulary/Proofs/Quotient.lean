-- Quotients. A quotient is rounded twice: to its hundredth digit, or its last whole one, and
-- then to twenty places. Both steps together are one rounding only where a hundred digits are
-- enough.
import Formulary.Proofs.ExactOperations
import Formulary.Proofs.LongDivision

namespace Formulary.Decimal

/-! ## The quotient of two decimals -/

/-- The scale of the quotient of two numbers, before it is cut to 64 bits. -/
def quotientScale (x y : Decimal) : Int :=
  x.scale - y.scale + (longDivide x.int.natAbs y.int.natAbs).2

/-- The quotient of two numbers has a place: nothing is to be divided, or its scale is one. -/
def HasQuotient (x y : Decimal) : Prop :=
  x.int = 0 ∨ y.isOne = true ∨ IsScale (quotientScale x y)

instance (x y : Decimal) : Decidable (HasQuotient x y) :=
  inferInstanceAs (Decidable (x.int = 0 ∨ y.isOne = true ∨ IsScale (quotientScale x y)))

/-- Numbers with the same units have a quotient of one unit. -/
theorem quotientScale_of_int_eq {x y : Decimal} (hx : x.int ≠ 0) (h : x.int = y.int) :
    quotientScale x y = x.scale - y.scale := by
  unfold quotientScale
  rw [← h, longDivide_of_dvd (Int.natAbs_pos.mpr hx) (dvd_refl _), Nat.cast_zero, add_zero]

/-- A quotient has a place, if the divisor does not lie too far from the point and the dividend does
not lie too far before it. -/
theorem hasQuotient_of_le {x y : Decimal} (hlow : -9223372036854775808 ≤ x.scale - y.scale)
    (hhigh : x.scale + y.magnitude + 100 < 9223372036854775808) : HasQuotient x y := by
  by_cases hx : x.int = 0
  · exact .inl hx
  · have hplaces : (longDivide x.int.natAbs y.int.natAbs).2 ≤ y.digits + quotientDigits :=
      places_longDivide_le (Int.natAbs_pos.mpr hx)
    refine .inr (.inr ⟨?_, ?_⟩)
    · unfold quotientScale
      omega
    · unfold quotientScale
      unfold magnitude at hhigh
      unfold quotientDigits at hplaces
      omega

/-- Two numbers that are within the doubles always have a quotient. -/
theorem hasQuotient_bound {x y : Decimal} (hx : x.InReach) (hy : y.InReach)
    (hne : y.bound.int ≠ 0) : HasQuotient x.bound y.bound := by
  by_cases hint : x.bound.int = 0
  · exact .inl hint
  · have hxlow := (hx.digitsWithin_bound.scale hint).1
    have hymagnitude := (hy.digitsWithin_bound.scale hne).2
    have hxfew := scale_bound_le x
    have hyfew := scale_bound_le y
    unfold maxPlaces at hxfew hyfew
    exact hasQuotient_of_le (by omega) (by omega)

/-- The number is `q`, or `q` rounded to a place at which it has a hundred digits or more. -/
def HundredDigits (q r : ℚ) : Prop :=
  r = q ∨ ∃ places : ℤ, 10 ^ 99 ≤ |q| * 10 ^ places ∧ r = roundedAt places q

theorem cast_div (n d : Int) : (n : ℚ) / d = (n * d).sign * (n.natAbs / d.natAbs) := by
  have hinv : ((d.sign : Int) : ℚ)⁻¹ = d.sign := by
    rcases lt_trichotomy d 0 with hd | rfl | hd
    · rw [Int.sign_eq_neg_one_of_neg hd]
      norm_num
    · norm_num
    · rw [Int.sign_eq_one_of_pos hd]
      norm_num
  rw [cast_sign_mul_natAbs n, cast_sign_mul_natAbs d, mul_div_mul_comm, div_eq_mul_inv (n.sign : ℚ),
    hinv, Int.sign_mul, Int.cast_mul]

theorem toRat_div (x y : Decimal) :
    x.toRat / y.toRat = x.int / y.int * 10 ^ (-(x.scale - y.scale)) := by
  unfold toRat
  rw [mul_div_mul_comm, ← zpow_sub₀ (by norm_num)]
  congr 2
  ring

/-- At the place of the quotient the integers are divided. -/
theorem quotient_shift (x y : Decimal) (raised : Nat) :
    x.toRat / y.toRat * 10 ^ (x.scale - y.scale + raised) =
      (x.int * y.int).sign * (x.int.natAbs * 10 ^ raised / y.int.natAbs) := by
  rw [toRat_div, cast_div, zpow_add₀ (by norm_num), zpow_natCast, zpow_neg]
  field_simp

theorem abs_quotient_shift {x y : Decimal} (hx : x.int ≠ 0) (hy : y.int ≠ 0) (raised : Nat) :
    |x.toRat / y.toRat| * 10 ^ (x.scale - y.scale + raised) =
      x.int.natAbs * 10 ^ raised / y.int.natAbs := by
  have hsign : |((x.int * y.int).sign : ℚ)| = 1 := by
    rw [← Int.cast_abs, Int.abs_sign_of_ne_zero (mul_ne_zero hx hy), Int.cast_one]
  rw [← abs_of_pos (ten_zpow_pos (x.scale - y.scale + raised)), ← abs_mul, quotient_shift, abs_mul,
    hsign, one_mul]
  exact abs_of_nonneg (by positivity)

/-- A quotient of numbers with the same units. -/
theorem divide_of_int_eq {x y : Decimal} (hx : x.int ≠ 0) (hone : ¬ y.isOne = true)
    (hsame : x.int = y.int) (hscale : IsScale (quotientScale x y)) :
    ∃ z : Decimal, x.divide y = z ∧ z.int = 1 ∧ z.toRat = x.toRat / y.toRat := by
  rw [quotientScale_of_int_eq hx hsame] at hscale
  have hvalue : scale ⟨1, x.place - y.place⟩ = x.scale - y.scale := toInt_sub hscale
  refine ⟨⟨1, x.place - y.place⟩, ?_, rfl, ?_⟩
  · unfold divide
    rw [if_neg (not_or.mpr ⟨hx, hone⟩), if_pos hsame]
  · rw [toRat_div, hsame, div_self (by rw [← hsame]; exact_mod_cast hx), toRat, hvalue,
      Int.cast_one]

/-- Where there is something to be divided, the quotient is rounded at the place that long division
comes to: all digits are before that place, or a hundred of them. -/
theorem toRat_divide_long {x y : Decimal} (hx : x.int ≠ 0) (hy : y.int ≠ 0)
    (hone : ¬ y.isOne = true) (hdiffer : x.int ≠ y.int) (hscale : IsScale (quotientScale x y)) :
    (x.divide y).toRat = roundedAt (quotientScale x y) (x.toRat / y.toRat) ∧
      (FitsAt (quotientScale x y) (x.toRat / y.toRat) ∨
        10 ^ 99 ≤ |x.toRat / y.toRat| * 10 ^ quotientScale x y) := by
  obtain ⟨hwhole, hsize⟩ := longDivide_spec (Int.natAbs_pos.mpr hx) (Int.natAbs_pos.mpr hy)
  have hvalue := quotient_shift x y (longDivide x.int.natAbs y.int.natAbs).2
  have habs := abs_quotient_shift hx hy (longDivide x.int.natAbs y.int.natAbs).2
  unfold divide
  rw [if_neg (not_or.mpr ⟨hx, hone⟩), if_neg hdiffer]
  obtain ⟨places, hplaces⟩ : ∃ places, quotientScale x y = places := ⟨_, rfl⟩
  rw [hplaces] at hscale ⊢
  unfold quotientScale at hplaces
  generalize longDivide x.int.natAbs y.int.natAbs = result at hwhole hsize hvalue habs hplaces ⊢
  obtain ⟨quotient, raised⟩ := result
  dsimp only at hwhole hsize hvalue habs hplaces ⊢
  rw [hplaces] at hvalue habs
  constructor
  · have hplace : (x.place - y.place + Int64.ofNat raised).toInt = places := by
      have hsum : x.place - y.place + Int64.ofNat raised = Int64.ofInt places := by
        rw [← hplaces, Int64.ofInt_add, Int64.ofInt_sub, Int64.ofInt_eq_ofNat]
        unfold scale
        rw [Int64.ofInt_toInt, Int64.ofInt_toInt]
      rw [hsum, toInt_ofInt hscale]
    rw [roundedAt, hvalue, nearestWhole_sign_mul, ← hwhole, toRat, scale_mk, hplace, Int.sign_mul]
  · rw [habs]
    refine hsize.imp_left fun hexact => ⟨(x.int * y.int).sign * quotient, ?_⟩
    rw [hvalue, ← hexact]
    push_cast
    rfl

/-- The quotient is exact, or it has a hundred digits and is rounded at a place that both numbers
together do not reach beyond. -/
theorem toRat_divide_at {x y : Decimal} (hy : y.int ≠ 0) (h : HasQuotient x y) :
    (x.divide y).toRat = x.toRat / y.toRat ∨ ∃ places : ℤ, x.scale - y.scale ≤ places ∧
      10 ^ 99 ≤ |x.toRat / y.toRat| * 10 ^ places ∧
      (x.divide y).toRat = roundedAt places (x.toRat / y.toRat) := by
  by_cases hshort : x.int = 0 ∨ y.isOne = true
  · left
    unfold divide
    rw [if_pos hshort]
    rcases hshort with hx | hone
    · rw [toRat_eq_zero_iff.mpr hx, zero_div]
    · rw [toRat_of_isOne hone, div_one]
  · obtain ⟨hx, hone⟩ := not_or.mp hshort
    have hscale : IsScale (quotientScale x y) := (h.resolve_left hx).resolve_left hone
    by_cases hsame : x.int = y.int
    · left
      obtain ⟨z, hz, -, hvalue⟩ := divide_of_int_eq hx hone hsame hscale
      rw [hz, hvalue]
    · obtain ⟨hrounded, hfits | hdigits⟩ := toRat_divide_long hx hy hone hsame hscale
      · exact .inl (hrounded.trans (roundedAt_of_fitsAt hfits))
      · refine .inr ⟨_, ?_, hdigits, hrounded⟩
        unfold quotientScale
        omega

/-- The law of long division. -/
theorem toRat_divide {x y : Decimal} (hy : y.int ≠ 0) (h : HasQuotient x y) :
    HundredDigits (x.toRat / y.toRat) (x.divide y).toRat :=
  (toRat_divide_at hy h).imp_right fun ⟨places, _, hdigits, hrounded⟩ => ⟨places, hdigits, hrounded⟩

/-- A quotient that needs no more places than the scales leave it is exact. -/
theorem toRat_divide_of_fitsAt {x y : Decimal} (hy : y.int ≠ 0) (h : HasQuotient x y)
    (hfits : FitsAt (x.scale - y.scale) (x.toRat / y.toRat)) :
    (x.divide y).toRat = x.toRat / y.toRat := by
  rcases toRat_divide_at hy h with hexact | ⟨places, hplaces, -, hrounded⟩
  · exact hexact
  · rw [hrounded, roundedAt_of_fitsAt (fitsAt_mono hfits hplaces)]

/-! ## One rounding instead of two -/

/-- The number half a unit above `m` units, which is rounded away from zero. -/
def tie (m : Nat) : ℚ := (m + 1 / 2) * 10 ^ (-quotientPlaces)

/-- A hundred digits are enough to see what the number is rounded to: they are all of its digits,
or they reach beyond the last place, and no tie is so close above the number that the hundredth
digit could be rounded up to it. -/
def HundredEnough (q : ℚ) : Prop :=
  (∃ places : ℤ, FitsAt places q ∧ |q| * 10 ^ places < 10 ^ 100) ∨
    |q| < 10 ^ 80 ∧ ∀ m : Nat, |q| < tie m → |q| + |q| * 10 ^ (-99 : ℤ) ≤ tie m

/-- Fewer places than a rounding to a hundred digits keeps. -/
theorem lt_of_hundred_digits {q : ℚ} {k places : ℤ} {digits : Nat}
    (hdigits : 10 ^ 99 ≤ q * 10 ^ places) (hsmall : q * 10 ^ k < 10 ^ digits) :
    k + 99 < places + digits := by
  have hpow : (10 : ℚ) ^ ((99 : Nat) + k) < 10 ^ ((digits : ℤ) + places) := by
    rw [zpow_add₀ (by norm_num), zpow_add₀ (by norm_num), zpow_natCast, zpow_natCast]
    calc (10 : ℚ) ^ 99 * 10 ^ k ≤ q * 10 ^ places * 10 ^ k :=
          mul_le_mul_of_nonneg_right hdigits (ten_zpow_pos k).le
      _ = q * 10 ^ k * 10 ^ places := by ring
      _ < 10 ^ digits * 10 ^ places := mul_lt_mul_of_pos_right hsmall (ten_zpow_pos places)
  have := (zpow_lt_zpow_iff_right₀ (by norm_num)).mp hpow
  omega

/-- A tie is on the grid of one place more. -/
theorem fitsAt_half (m : ℤ) :
    FitsAt (quotientPlaces + 1) ((m - 1 / 2) * 10 ^ (-quotientPlaces)) := by
  refine ⟨10 * m - 5, ?_⟩
  rw [zpow_add_one₀ (by norm_num), ← mul_assoc, shift_forth]
  push_cast
  ring

/-- Nothing is rounded down across a tie, since the tie is on the finer grid. -/
theorem half_le_roundedAt {q : ℚ} {places m : ℤ} (hplaces : quotientPlaces < places)
    (hlow : m - 1 / 2 ≤ q * 10 ^ quotientPlaces) :
    m - 1 / 2 ≤ roundedAt places q * 10 ^ quotientPlaces := by
  have htie : (m - 1 / 2) * 10 ^ (-quotientPlaces) ≤ q := by
    have h := mul_le_mul_of_nonneg_right hlow (ten_zpow_pos (-quotientPlaces)).le
    rwa [shift_back] at h
  have hmono := roundedAt_mono places htie
  rw [roundedAt_of_fitsAt (fitsAt_mono (fitsAt_half m) hplaces)] at hmono
  have h := mul_le_mul_of_nonneg_right hmono (ten_zpow_pos quotientPlaces).le
  rwa [shift_forth] at h

/-- Rounding to a hundred digits adds less than `10 ^ (-99)` of the number. -/
theorem roundedAt_lt {q : ℚ} {places : ℤ} (hdigits : 10 ^ 99 ≤ q * 10 ^ places) :
    roundedAt places q < q + q * 10 ^ (-99 : ℤ) := by
  have hunit : (10 : ℚ) ^ (-places) ≤ q * 10 ^ (-99 : ℤ) := by
    have hone : (10 : ℚ) ^ 99 * 10 ^ (-99 : ℤ) = 1 := by
      rw [← zpow_natCast, ← zpow_add₀ (by norm_num)]
      rfl
    calc (10 : ℚ) ^ (-places) = 10 ^ 99 * 10 ^ (-99 : ℤ) * 10 ^ (-places) := by
          rw [hone, one_mul]
      _ ≤ q * 10 ^ places * 10 ^ (-99 : ℤ) * 10 ^ (-places) :=
          mul_le_mul_of_nonneg_right
            (mul_le_mul_of_nonneg_right hdigits (ten_zpow_pos _).le) (ten_zpow_pos _).le
      _ = q * 10 ^ (-99 : ℤ) := by
          rw [mul_right_comm q, shift_back]
  have hle := roundedAt_le places q
  have hpos := ten_zpow_pos (-places)
  linarith

/-- Rounding first to a hundred digits is harmless below the next tie. -/
theorem roundedAt_twice {q : ℚ} (hq : 0 ≤ q) {places : ℤ} (hdigits : 10 ^ 99 ≤ q * 10 ^ places)
    (hsize : q < 10 ^ 80) (htie : ∀ m : Nat, q < tie m → q + q * 10 ^ (-99 : ℤ) ≤ tie m) :
    roundedAt quotientPlaces (roundedAt places q) = roundedAt quotientPlaces q := by
  have hplaces : quotientPlaces ≤ places := by
    have := lt_of_hundred_digits (k := 0) hdigits (by simpa using hsize)
    unfold quotientPlaces
    omega
  rcases hplaces.eq_or_lt with heq | hlt
  · rw [← heq]
    exact roundedAt_of_fitsAt (fitsAt_roundedAt _ _)
  · have hunits : 0 ≤ q * 10 ^ quotientPlaces := mul_nonneg hq (ten_zpow_pos _).le
    obtain ⟨m, hm⟩ := Int.eq_ofNat_of_zero_le (nearestWhole_nonneg hunits)
    obtain ⟨hlow, hhigh⟩ := (nearestWhole_eq_iff hunits).mp hm
    have hbelow : q < tie m := by
      have h := mul_lt_mul_of_pos_right hhigh (ten_zpow_pos (-quotientPlaces))
      rwa [shift_back] at h
    have hupper : roundedAt places q * 10 ^ quotientPlaces < m + 1 / 2 := by
      have h := mul_lt_mul_of_pos_right ((roundedAt_lt hdigits).trans_le (htie m hbelow))
        (ten_zpow_pos quotientPlaces)
      rwa [tie, shift_forth] at h
    have hwhole : nearestWhole (roundedAt places q * 10 ^ quotientPlaces) = m := by
      rw [nearestWhole_eq_iff (mul_nonneg (roundedAt_nonneg places hq) (ten_zpow_pos _).le)]
      exact ⟨half_le_roundedAt hlt hlow, hupper⟩
    rw [roundedAt, hwhole, ← hm]
    rfl

theorem HundredEnough.roundedAt_eq {q r : ℚ} (h : HundredEnough q) (hr : HundredDigits q r) :
    roundedAt quotientPlaces r = roundedAt quotientPlaces q := by
  rcases hr with rfl | ⟨places, hdigits, rfl⟩
  · rfl
  · rcases h with ⟨k, hfits, hshort⟩ | ⟨hsize, htie⟩
    · have hplaces := lt_of_hundred_digits hdigits hshort
      rw [roundedAt_of_fitsAt (fitsAt_mono hfits (by omega))]
    · have habs := roundedAt_twice (abs_nonneg q) hdigits hsize htie
      rcases le_total 0 q with hq | hq
      · rwa [abs_of_nonneg hq] at habs
      · rw [abs_of_nonpos hq, roundedAt_neg, roundedAt_neg, roundedAt_neg] at habs
        exact neg_injective habs

/-! ## The law -/

/-- A quotient is rounded to twenty places, whatever long division has come to. -/
theorem toRat_of_quotient {x y q : Decimal} (hy : y.bound.isZero = false)
    (hq : x.quotient y = .ok q) :
    q.toRat = roundedAt quotientPlaces (x.bound.divide y.bound).toRat := by
  unfold quotient at hq
  rw [hy, if_neg Bool.false_ne_true] at hq
  have hscale := scale_roundTo (x.bound.divide y.bound) (.ofInt quotientPlaces)
  rw [eq_of_finite hq, toRat_normalized (.inr (by rw [hscale]; decide)), toRat_roundTo]
  rfl

/-- The law of quotients, for numbers with at most 1100 places. Division fails for a divisor of
zero, and only then for that reason. What it gives is the exact quotient, or the quotient rounded
to a hundred digits or more, rounded once more to twenty places, if the quotient has a place, as it
always has for numbers within the doubles. Where a hundred digits are enough, it is the exact
quotient rounded to twenty places. -/
theorem quotient_rounded {x y : Decimal} (hx : FitsAt maxPlaces x.toRat)
    (hy : FitsAt maxPlaces y.toRat) :
    (x.quotient y = .error .divisionByZero ↔ y.toRat = 0) ∧
      (y.toRat ≠ 0 → x.isFinite = true → y.isFinite = true → HasQuotient x.bound y.bound) ∧
      ∀ q, x.quotient y = .ok q → HasQuotient x.bound y.bound →
        (∃ r, HundredDigits (x.toRat / y.toRat) r ∧ q.toRat = roundedAt quotientPlaces r) ∧
        (HundredEnough (x.toRat / y.toRat) →
          q.toRat = roundedAt quotientPlaces (x.toRat / y.toRat)) := by
  have hzero : y.bound.isZero = true ↔ y.toRat = 0 := by
    rw [← toRat_bound_of_fitsAt hy, toRat_eq_zero_iff]
    exact beq_iff_eq
  have hfinite : y.toRat ≠ 0 → x.isFinite = true → y.isFinite = true →
      HasQuotient x.bound y.bound := fun hne hx hy =>
    hasQuotient_bound (inReach_of_isFinite hx) (inReach_of_isFinite hy)
      fun hint => hne (hzero.mp (beq_iff_eq.mpr hint))
  by_cases hdivisor : y.bound.isZero = true
  · have hfault : x.quotient y = .error .divisionByZero := if_pos hdivisor
    rw [hfault]
    exact ⟨⟨fun _ => hzero.mp hdivisor, fun _ => rfl⟩, hfinite, nofun⟩
  · refine ⟨⟨fun h => ?_, fun h => absurd (hzero.mpr h) hdivisor⟩, hfinite, fun q hq hplace => ?_⟩
    · unfold quotient finite at h
      rw [if_neg hdivisor] at h
      split at h <;> cases h
    · have hint : y.bound.int ≠ 0 := fun h => hdivisor (beq_iff_eq.mpr h)
      have hdigits := toRat_divide hint hplace
      rw [toRat_bound_of_fitsAt hx, toRat_bound_of_fitsAt hy] at hdigits
      have hvalue := toRat_of_quotient (Bool.eq_false_of_not_eq_true hdivisor) hq
      refine ⟨⟨_, hdigits, hvalue⟩, fun henough => ?_⟩
      rw [hvalue, henough.roundedAt_eq hdigits]

/-- How a quotient of given numbers is computed. -/
theorem quotient_eq {x y q : Decimal} (hy : y.bound.isZero = false)
    (hq : ((x.bound.divide y.bound).roundTo (.ofInt quotientPlaces)).normalized = q)
    (hfinite : q.isFinite = true) : x.quotient y = .ok q := by
  unfold quotient finite
  rw [hy, if_neg Bool.false_ne_true, hq, if_pos hfinite]

/-- Two thirds are not close below a tie. -/
theorem hundredEnough_two_thirds : HundredEnough (2 / 3) := by
  right
  rw [abs_of_nonneg (by norm_num)]
  refine ⟨by norm_num, fun m hm => ?_⟩
  have hunits : (4 * 10 ^ 20 : ℚ) < 6 * m + 3 := by
    unfold tie quotientPlaces at hm
    norm_num at hm ⊢
    linarith
  have hnext : 4 * 10 ^ 20 + 1 ≤ 6 * m + 3 := by exact_mod_cast hunits
  have hnext' : (4 * 10 ^ 20 + 1 : ℚ) ≤ 6 * m + 3 := by exact_mod_cast hnext
  unfold tie quotientPlaces
  norm_num at hnext' ⊢
  linarith

/-- Two divided by three. -/
theorem quotient_rounded_two_thirds :
    FitsAt maxPlaces (ofInt 2).toRat ∧ FitsAt maxPlaces (ofInt 3).toRat ∧
      (ofInt 2).quotient (ofInt 3) = .ok ⟨66666666666666666667, 20⟩ ∧
      HasQuotient (ofInt 2).bound (ofInt 3).bound ∧
      toRat ⟨66666666666666666667, 20⟩ = roundedAt quotientPlaces (2 / 3) := by
  have htwo : FitsAt maxPlaces (ofInt 2).toRat := fitsAt_toRat (by decide)
  have hthree : FitsAt maxPlaces (ofInt 3).toRat := fitsAt_toRat (by decide)
  have hquotient : (ofInt 2).quotient (ofInt 3) = .ok ⟨66666666666666666667, 20⟩ :=
    quotient_eq (by decide) (by decide +kernel) (by decide +kernel)
  have hvalue : (ofInt 2).toRat / (ofInt 3).toRat = 2 / 3 := by
    rw [toRat_ofInt, toRat_ofInt]
    norm_num
  obtain ⟨-, hfinite, hrounded⟩ := quotient_rounded htwo hthree
  have hplace := hfinite (mt toRat_eq_zero_iff.mp (by decide)) (by decide) (by decide)
  have hlaw := (hrounded _ hquotient hplace).2
  rw [hvalue] at hlaw
  exact ⟨htwo, hthree, hquotient, hplace, hlaw hundredEnough_two_thirds⟩

/-- A hundred digits are not always enough. A third of `10 ^ 100` loses its fraction, and a number
that is so little below half of `10 ^ (-20)` that its hundredth digit is rounded up to the half is
rounded up a second time. And a quotient whose scale does not have 64 bits may come out as zero,
however large it is. -/
theorem quotient_not_rounded :
    ((⟨1, -100⟩ : Decimal).quotient (ofInt 3) = .ok ⟨(10 ^ 100 - 1) / 3, 0⟩ ∧
      toRat ⟨(10 ^ 100 - 1) / 3, 0⟩ ≠
        roundedAt quotientPlaces (toRat ⟨1, -100⟩ / (ofInt 3).toRat)) ∧
    ((ofInt 1).quotient ⟨2 * 10 ^ 100 + 1, 80⟩ = .ok ⟨1, 20⟩ ∧
      toRat ⟨1, 20⟩ ≠
        roundedAt quotientPlaces ((ofInt 1).toRat / toRat ⟨2 * 10 ^ 100 + 1, 80⟩)) ∧
    (⟨1, -9223372036854775807⟩ : Decimal).quotient ⟨2, 1000⟩ = .ok zero ∧
      zero.toRat ≠
        roundedAt quotientPlaces (toRat ⟨1, -9223372036854775807⟩ / toRat ⟨2, 1000⟩) := by
  refine ⟨⟨quotient_eq (by decide) (by decide +kernel) (by decide +kernel), fun heq => ?_⟩,
    ⟨quotient_eq (by decide) (by decide +kernel) (by decide +kernel), fun heq => ?_⟩,
    quotient_eq (by decide) (by decide +kernel) (by decide +kernel), fun heq => ?_⟩
  · have hle := le_roundedAt quotientPlaces (toRat ⟨1, -100⟩ / (ofInt 3).toRat)
    rw [← heq, toRat_mk _ (show (0 : Int64).toInt = 0 from rfl),
      toRat_mk _ (show (-100 : Int64).toInt = -100 from rfl), toRat_ofInt] at hle
    norm_num [quotientPlaces] at hle
  · rw [roundedAt_eq_zero, toRat_eq_zero_iff] at heq
    · cases heq
    · rw [toRat_mk _ (show (80 : Int64).toInt = 80 from rfl), toRat_ofInt]
      norm_num [quotientPlaces]
  · have hlarge : 1 ≤ toRat ⟨1, -9223372036854775807⟩ := by
      rw [toRat_mk _ (show (-9223372036854775807 : Int64).toInt = -9223372036854775807 from rfl),
        Int.cast_one, one_mul]
      exact one_le_zpow₀ (by norm_num) (by norm_num)
    have hsmall : toRat ⟨2, 1000⟩ ≤ 1 := by
      rw [toRat_mk _ (show (1000 : Int64).toInt = 1000 from rfl)]
      calc ((2 : Int) : ℚ) * 10 ^ (-1000 : ℤ) ≤ 10 ^ (1 : ℤ) * 10 ^ (-1000 : ℤ) :=
            mul_le_mul_of_nonneg_right (by norm_num) (ten_zpow_pos _).le
        _ = 10 ^ (-999 : ℤ) := by rw [← zpow_add₀ (by norm_num)]; rfl
        _ ≤ 1 := zpow_le_one_of_nonpos₀ (by norm_num) (by norm_num)
    have hpos : 0 < toRat ⟨2, 1000⟩ := mul_pos (by norm_num) (ten_zpow_pos _)
    have hone : 1 ≤ toRat ⟨1, -9223372036854775807⟩ / toRat ⟨2, 1000⟩ := by
      rw [one_le_div₀ hpos]
      exact hsmall.trans hlarge
    have hhalf : (1 : ℚ) / 2 * 10 ^ (-quotientPlaces) < 1 := by norm_num [quotientPlaces]
    rw [toRat_zero, eq_comm, roundedAt_eq_zero_iff] at heq
    exact absurd (hone.trans (le_abs_self _)) (not_le.mpr (heq.trans hhalf))

end Formulary.Decimal
