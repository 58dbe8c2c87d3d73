-- Rounding to a number of places, half away from zero. It is a function of the exact value: the
-- form in which a decimal is written makes no difference to what it is rounded to.
import Formulary.Proofs.Rational
import Mathlib.Data.Rat.Floor
import Mathlib.Tactic.Linarith
import Mathlib.Tactic.NormNum

namespace Formulary

/-! ## The nearest whole number -/

/-- The whole number nearest to `q`, and of two that are as near the one further from zero. -/
def nearestWhole (q : ℚ) : ℤ := if 0 ≤ q then ⌊q + 1 / 2⌋ else -⌊-q + 1 / 2⌋

variable {q : ℚ}

theorem nearestWhole_of_nonneg (hq : 0 ≤ q) : nearestWhole q = ⌊q + 1 / 2⌋ := if_pos hq

theorem nearestWhole_eq_iff (hq : 0 ≤ q) {m : ℤ} :
    nearestWhole q = m ↔ m - 1 / 2 ≤ q ∧ q < m + 1 / 2 := by
  rw [nearestWhole_of_nonneg hq, Int.floor_eq_iff]
  constructor
  · rintro ⟨hlow, hhigh⟩
    exact ⟨by linarith, by linarith⟩
  · rintro ⟨hlow, hhigh⟩
    exact ⟨by linarith, by linarith⟩

theorem nearestWhole_neg (q : ℚ) : nearestWhole (-q) = -nearestWhole q := by
  unfold nearestWhole
  rcases lt_trichotomy q 0 with hq | rfl | hq
  · rw [if_pos (by linarith), if_neg (by linarith), neg_neg]
  · norm_num
  · rw [if_neg (by linarith), if_pos hq.le, neg_neg]

theorem nearestWhole_nonneg (hq : 0 ≤ q) : 0 ≤ nearestWhole q := by
  rw [nearestWhole_of_nonneg hq]
  exact Int.floor_nonneg.mpr (by linarith)

theorem nearestWhole_intCast (n : ℤ) : nearestWhole n = n := by
  have hnonneg : ∀ m : ℤ, 0 ≤ m → nearestWhole m = m := by
    intro m hm
    rw [nearestWhole_eq_iff (by exact_mod_cast hm)]
    constructor <;> linarith
  rcases le_total 0 n with hn | hn
  · exact hnonneg n hn
  · have hneg := hnonneg (-n) (by omega)
    rw [Int.cast_neg, nearestWhole_neg] at hneg
    omega

theorem nearestWhole_mono {a b : ℚ} (hab : a ≤ b) : nearestWhole a ≤ nearestWhole b := by
  have hnonneg : ∀ a b : ℚ, 0 ≤ a → a ≤ b → nearestWhole a ≤ nearestWhole b := by
    intro a b ha hab
    rw [nearestWhole_of_nonneg ha, nearestWhole_of_nonneg (ha.trans hab)]
    exact Int.floor_le_floor (by linarith)
  rcases le_total 0 a with ha | ha
  · exact hnonneg a b ha hab
  · have hna := nearestWhole_nonneg (neg_nonneg.mpr ha)
    rw [nearestWhole_neg] at hna
    rcases le_total 0 b with hb | hb
    · have := nearestWhole_nonneg hb
      omega
    · have hneg := hnonneg (-b) (-a) (neg_nonneg.mpr hb) (neg_le_neg hab)
      rw [nearestWhole_neg, nearestWhole_neg] at hneg
      omega

theorem nearestWhole_le (q : ℚ) : (nearestWhole q : ℚ) ≤ q + 1 / 2 := by
  rcases le_total 0 q with hq | hq
  · have := ((nearestWhole_eq_iff hq).mp rfl).1
    linarith
  · have := ((nearestWhole_eq_iff (neg_nonneg.mpr hq)).mp rfl).2
    rw [nearestWhole_neg, Int.cast_neg] at this
    linarith

theorem nearestWhole_eq_zero (h : |q| < 1 / 2) : nearestWhole q = 0 := by
  have hnonneg : ∀ a : ℚ, 0 ≤ a → a < 1 / 2 → nearestWhole a = 0 := by
    intro a ha hlt
    rw [nearestWhole_eq_iff ha]
    constructor <;> push_cast <;> linarith
  rw [abs_lt] at h
  rcases le_total 0 q with hq | hq
  · exact hnonneg q hq h.2
  · have hneg := hnonneg (-q) (neg_nonneg.mpr hq) (by linarith)
    rw [nearestWhole_neg] at hneg
    omega

theorem nearestWhole_eq_zero_iff : nearestWhole q = 0 ↔ |q| < 1 / 2 := by
  refine ⟨fun h => ?_, nearestWhole_eq_zero⟩
  rcases le_total 0 q with hq | hq
  · have := ((nearestWhole_eq_iff hq).mp h).2
    rw [abs_of_nonneg hq]
    simpa using this
  · rw [← neg_eq_zero, ← nearestWhole_neg] at h
    have := ((nearestWhole_eq_iff (neg_nonneg.mpr hq)).mp h).2
    rw [abs_of_nonpos hq]
    simpa using this

theorem nearestWhole_sign_mul (n : ℤ) (q : ℚ) :
    nearestWhole (n.sign * q) = n.sign * nearestWhole q := by
  rcases lt_trichotomy n 0 with hn | rfl | hn
  · rw [Int.sign_eq_neg_one_of_neg hn, Int.cast_neg, Int.cast_one, neg_one_mul, neg_one_mul,
      nearestWhole_neg]
  · simp [nearestWhole_eq_zero]
  · rw [Int.sign_eq_one_of_pos hn, Int.cast_one, one_mul, one_mul]

/-! ## Places -/

/-- The number rounded to so many places. Below zero, they are places before the point. -/
def roundedAt (places : ℤ) (q : ℚ) : ℚ := nearestWhole (q * 10 ^ places) * 10 ^ (-places)

/-- So many places are enough to write the number. -/
def FitsAt (places : ℤ) (q : ℚ) : Prop := ∃ n : ℤ, q * 10 ^ places = n

open Decimal (ten_zpow_pos cast_tenPow_toNat)

variable {places : ℤ}

theorem shift_back (places : ℤ) (q : ℚ) : q * 10 ^ places * 10 ^ (-places) = q := by
  rw [mul_assoc, ← zpow_add₀ (by norm_num), add_neg_cancel, zpow_zero, mul_one]

theorem shift_forth (places : ℤ) (q : ℚ) : q * 10 ^ (-places) * 10 ^ places = q := by
  rw [mul_assoc, ← zpow_add₀ (by norm_num), neg_add_cancel, zpow_zero, mul_one]

theorem fitsAt_roundedAt (places : ℤ) (q : ℚ) : FitsAt places (roundedAt places q) :=
  ⟨_, shift_forth places _⟩

theorem fitsAt_mono {k : ℤ} (h : FitsAt k q) (hle : k ≤ places) : FitsAt places q := by
  obtain ⟨n, hn⟩ := h
  refine ⟨n * tenPow (places - k).toNat, ?_⟩
  rw [Int.cast_mul, Int.cast_natCast, cast_tenPow_toNat (by omega), ← hn, mul_assoc,
    ← zpow_add₀ (by norm_num), add_sub_cancel]

theorem fitsAt_ten_pow (k : Nat) : FitsAt 0 (10 ^ k) := by
  refine ⟨(tenPow k : Nat), ?_⟩
  rw [zpow_zero, mul_one, Int.cast_natCast, Decimal.cast_tenPow]

theorem FitsAt.add {p : ℚ} (hp : FitsAt places p) (hq : FitsAt places q) :
    FitsAt places (p + q) := by
  obtain ⟨n, hn⟩ := hp
  obtain ⟨m, hm⟩ := hq
  exact ⟨n + m, by rw [add_mul, hn, hm, Int.cast_add]⟩

theorem FitsAt.sub {p : ℚ} (hp : FitsAt places p) (hq : FitsAt places q) :
    FitsAt places (p - q) := by
  obtain ⟨n, hn⟩ := hp
  obtain ⟨m, hm⟩ := hq
  exact ⟨n - m, by rw [sub_mul, hn, hm, Int.cast_sub]⟩

/-- A product has the places of both factors. -/
theorem FitsAt.mul {k : ℤ} {p : ℚ} (hp : FitsAt places p) (hq : FitsAt k q) :
    FitsAt (places + k) (p * q) := by
  obtain ⟨n, hn⟩ := hp
  obtain ⟨m, hm⟩ := hq
  refine ⟨n * m, ?_⟩
  rw [zpow_add₀ (by norm_num), Int.cast_mul, ← hn, ← hm]
  ring

/-- There is nothing to be rounded. -/
theorem roundedAt_of_fitsAt (h : FitsAt places q) : roundedAt places q = q := by
  obtain ⟨n, hn⟩ := h
  unfold roundedAt
  rw [hn, nearestWhole_intCast, ← hn, shift_back]

theorem roundedAt_eq_self_iff : roundedAt places q = q ↔ FitsAt places q :=
  ⟨fun h => h ▸ fitsAt_roundedAt places q, roundedAt_of_fitsAt⟩

theorem roundedAt_neg (places : ℤ) (q : ℚ) : roundedAt places (-q) = -roundedAt places q := by
  unfold roundedAt
  rw [neg_mul, nearestWhole_neg, Int.cast_neg, neg_mul]

theorem roundedAt_nonneg (places : ℤ) (hq : 0 ≤ q) : 0 ≤ roundedAt places q := by
  have hwhole := nearestWhole_nonneg (mul_nonneg hq (ten_zpow_pos places).le)
  exact mul_nonneg (by exact_mod_cast hwhole) (ten_zpow_pos _).le

theorem roundedAt_mono (places : ℤ) {a b : ℚ} (hab : a ≤ b) :
    roundedAt places a ≤ roundedAt places b := by
  have hshift := mul_le_mul_of_nonneg_right hab (ten_zpow_pos places).le
  have hwhole : (nearestWhole (a * 10 ^ places) : ℚ) ≤ nearestWhole (b * 10 ^ places) := by
    exact_mod_cast nearestWhole_mono hshift
  exact mul_le_mul_of_nonneg_right hwhole (ten_zpow_pos _).le

/-- Rounding adds half a unit at most. -/
theorem roundedAt_le (places : ℤ) (q : ℚ) : roundedAt places q ≤ q + 1 / 2 * 10 ^ (-places) := by
  have h := mul_le_mul_of_nonneg_right (nearestWhole_le (q * 10 ^ places))
    (ten_zpow_pos (-places)).le
  rwa [add_mul, shift_back] at h

theorem le_roundedAt (places : ℤ) (q : ℚ) : q ≤ roundedAt places q + 1 / 2 * 10 ^ (-places) := by
  have h := roundedAt_le places (-q)
  rw [roundedAt_neg] at h
  linarith

/-- Rounding does not go beyond what needs no rounding. -/
theorem abs_roundedAt_le {b : ℚ} (hb : FitsAt places b) (h : |q| ≤ b) :
    |roundedAt places q| ≤ b := by
  rw [abs_le] at h ⊢
  have hlow := roundedAt_mono places h.1
  have hhigh := roundedAt_mono places h.2
  rw [roundedAt_neg] at hlow
  rw [roundedAt_of_fitsAt hb] at hlow hhigh
  exact ⟨hlow, hhigh⟩

/-- What is below half a unit is rounded to zero. -/
theorem roundedAt_eq_zero (h : |q| < 1 / 2 * 10 ^ (-places)) : roundedAt places q = 0 := by
  have hsmall : |q * 10 ^ places| < 1 / 2 := by
    have hlt := mul_lt_mul_of_pos_right h (ten_zpow_pos places)
    rwa [shift_forth, ← abs_of_pos (ten_zpow_pos places), ← abs_mul] at hlt
  unfold roundedAt
  rw [nearestWhole_eq_zero hsmall, Int.cast_zero, zero_mul]

theorem roundedAt_zero (places : ℤ) : roundedAt places 0 = 0 :=
  roundedAt_eq_zero (by rw [abs_zero]; exact mul_pos (by norm_num) (ten_zpow_pos _))

theorem roundedAt_eq_zero_iff : roundedAt places q = 0 ↔ |q| < 1 / 2 * 10 ^ (-places) := by
  refine ⟨fun h => ?_, roundedAt_eq_zero⟩
  have hnearest : nearestWhole (q * 10 ^ places) = 0 := by
    exact_mod_cast (mul_eq_zero.mp h).resolve_right (ten_zpow_pos _).ne'
  have hsmall := mul_lt_mul_of_pos_right (nearestWhole_eq_zero_iff.mp hnearest)
    (ten_zpow_pos (-places))
  rwa [abs_mul, abs_of_pos (ten_zpow_pos places), shift_back] at hsmall

namespace Decimal

/-! ## Rounding a decimal -/

variable {x : Decimal}

theorem toRat_shift (x : Decimal) (places : ℤ) :
    x.toRat * 10 ^ places = x.int * 10 ^ (places - x.scale) := by
  unfold toRat
  rw [mul_assoc, ← zpow_add₀ (by norm_num)]
  congr 2
  ring

theorem fitsAt_toRat (h : x.scale ≤ places) : FitsAt places x.toRat := by
  have hint : x.toRat * 10 ^ x.scale = x.int := by
    rw [toRat_shift, sub_self, zpow_zero, mul_one]
  exact fitsAt_mono ⟨x.int, hint⟩ h

/-- Half the divisor is added before the division. -/
theorem nearestWhole_div (n : Nat) {k : Nat} (hk : 0 < k) :
    nearestWhole (n / 10 ^ k) = ((n + tenPow k / 2) / tenPow k : Nat) := by
  obtain ⟨half, hhalf⟩ : ∃ half, tenPow k = 2 * half := by
    obtain ⟨j, rfl⟩ : ∃ j, k = j + 1 := ⟨k - 1, by omega⟩
    exact ⟨10 ^ j * 5, by rw [tenPow, Nat.pow_eq, pow_succ]; omega⟩
  have hpos : 0 < tenPow k := Nat.pow_pos (by decide)
  have hcast : (10 : ℚ) ^ k = 2 * half := by
    rw [← cast_tenPow, hhalf]
    push_cast
    ring
  have hlow := Nat.div_mul_le_self (n + tenPow k / 2) (tenPow k)
  have hhigh := Nat.lt_div_mul_add hpos (a := n + tenPow k / 2)
  generalize (n + tenPow k / 2) / tenPow k = m at hlow hhigh ⊢
  rw [hhalf] at hpos hlow hhigh
  rw [Nat.mul_div_cancel_left half (by decide)] at hlow hhigh
  have hlow' : (m : ℚ) * (2 * half) ≤ n + half := by exact_mod_cast hlow
  have hhigh' : (n : ℚ) + half < m * (2 * half) + 2 * half := by exact_mod_cast hhigh
  have hhalfpos : (0 : ℚ) < half := by exact_mod_cast (by omega : 0 < half)
  rw [nearestWhole_eq_iff (by positivity), hcast, le_div_iff₀ (by positivity),
    div_lt_iff₀ (by positivity)]
  push_cast
  constructor <;> linarith

theorem cast_sign_mul_natAbs (n : Int) : (n : ℚ) = n.sign * n.natAbs := by
  rw [Nat.cast_natAbs]
  exact_mod_cast (Int.sign_mul_abs n).symm

theorem roundShift_eq (n : Int) {k : Nat} (hk : 0 < k) :
    roundShift n k = nearestWhole (n / 10 ^ k) := by
  rw [cast_sign_mul_natAbs n, mul_div_assoc, nearestWhole_sign_mul]
  unfold roundShift
  split
  · rename_i hdigits
    have hlt : n.natAbs < 10 ^ digitCount n.natAbs := lt_tenPow_digitCount _
    have hle : 10 ^ digitCount n.natAbs * 10 ≤ 10 ^ k := by
      rw [← pow_succ]
      exact Nat.pow_le_pow_right (by decide) hdigits
    have hsmall : (n.natAbs : ℚ) * 10 < 10 ^ k := by exact_mod_cast (by omega)
    rw [nearestWhole_eq_zero, mul_zero]
    rw [abs_of_nonneg (by positivity), div_lt_iff₀ (by positivity)]
    linarith
  · rw [nearestWhole_div _ hk]

/-- The law of rounding: a decimal is rounded as its value is. -/
@[simp] theorem toRat_roundTo (x : Decimal) (place : Int64) :
    (x.roundTo place).toRat = roundedAt place.toInt x.toRat := by
  unfold roundTo
  split
  · rename_i hle
    rw [toRat_extendTo, roundedAt_of_fitsAt (fitsAt_toRat (Int64.le_iff_toInt_le.mp hle))]
  · rename_i hlt
    have hscale : place.toInt < x.scale := not_le.mp (mt Int64.le_iff_toInt_le.mpr hlt)
    have hpos : 0 < (x.scale - place.toInt).toNat := by omega
    have hshift : x.toRat * 10 ^ place.toInt = x.int / 10 ^ (x.scale - place.toInt).toNat := by
      have hplaces : ((x.scale - place.toInt).toNat : ℤ) = x.scale - place.toInt := by omega
      rw [toRat_shift, ← zpow_natCast, hplaces, div_eq_mul_inv, ← zpow_neg, neg_sub]
    unfold roundedAt
    rw [hshift, ← roundShift_eq _ hpos]
    rfl

@[simp] theorem scale_roundTo (x : Decimal) (place : Int64) :
    (x.roundTo place).scale = place.toInt := by
  unfold roundTo
  split
  · rename_i hle
    rw [scale_extendTo]
    exact max_eq_right (Int64.le_iff_toInt_le.mp hle)
  · rfl

/-- Numbers of one value are rounded to the same number. -/
theorem roundTo_congr {x y : Decimal} (h : x.toRat = y.toRat) (place : Int64) :
    x.roundTo place = y.roundTo place := by
  apply eq_of_scale_eq
  · rw [toRat_roundTo, toRat_roundTo, h]
  · rw [scale_roundTo, scale_roundTo]

theorem abs_toRat (x : Decimal) : |x.toRat| = x.int.natAbs * 10 ^ (-x.scale) := by
  unfold toRat
  rw [abs_mul, abs_of_pos (ten_zpow_pos _), Nat.cast_natAbs, Int.cast_abs]

/-- A number lies below the power of ten of its magnitude. -/
theorem abs_toRat_lt (x : Decimal) : |x.toRat| < 10 ^ x.magnitude := by
  have hlt : (x.int.natAbs : ℚ) < 10 ^ x.digits := by exact_mod_cast lt_tenPow_digitCount _
  rw [abs_toRat, magnitude, sub_eq_add_neg, zpow_add₀ (by norm_num), zpow_natCast]
  exact mul_lt_mul_of_pos_right hlt (ten_zpow_pos _)

/-- A number that is not zero is not below the power of ten before its magnitude. -/
theorem le_abs_toRat (hint : x.int ≠ 0) : (10 : ℚ) ^ (x.magnitude - 1) ≤ |x.toRat| := by
  have hpos : 0 < x.digits := Nat.length_toDigits_pos
  have hle : 10 ^ (x.digits - 1) ≤ x.int.natAbs :=
    tenPow_le_of_lt_digitCount (Int.natAbs_ne_zero.mpr hint) (Nat.sub_one_lt hpos.ne')
  have hle' : (10 : ℚ) ^ (x.digits - 1) ≤ x.int.natAbs := by exact_mod_cast hle
  have hmagnitude : x.magnitude - 1 = (x.digits - 1 : Nat) + -x.scale := by
    unfold magnitude
    omega
  rw [hmagnitude, zpow_add₀ (by norm_num), zpow_natCast, abs_toRat]
  exact mul_le_mul_of_nonneg_right hle' (ten_zpow_pos _).le

theorem magnitude_le_of_lt {m : ℤ} (hint : x.int ≠ 0) (h : |x.toRat| < 10 ^ m) :
    x.magnitude ≤ m := by
  have hlt := (zpow_lt_zpow_iff_right₀ (by norm_num)).mp ((le_abs_toRat hint).trans_lt h)
  omega

/-- A number that is not zero has a digit in front of the power of ten that it does not reach. -/
theorem neg_lt_scale_of_lt {m : ℤ} (hint : x.int ≠ 0) (h : |x.toRat| < 10 ^ m) : -m < x.scale := by
  have hpos : 0 < x.digits := Nat.length_toDigits_pos
  have hle := magnitude_le_of_lt hint h
  unfold magnitude at hle
  omega

/-- A number that is not zero reaches as far as the places on which its digits stand. -/
theorem one_le_magnitude_add {places : ℤ} (hint : x.int ≠ 0) (h : FitsAt places x.toRat) :
    1 ≤ x.magnitude + places := by
  obtain ⟨n, hn⟩ := h
  have hne : n ≠ 0 := by
    rintro rfl
    rw [Int.cast_zero, mul_eq_zero, toRat_eq_zero_iff] at hn
    exact hn.elim hint (ten_zpow_pos places).ne'
  have hone : (10 : ℚ) ^ (0 : ℤ) ≤ |x.toRat| * 10 ^ places := by
    rw [zpow_zero, ← abs_of_pos (ten_zpow_pos places), ← abs_mul, hn]
    exact_mod_cast Int.one_le_abs hne
  have hlt := hone.trans_lt (mul_lt_mul_of_pos_right (abs_toRat_lt x) (ten_zpow_pos places))
  rw [← zpow_add₀ (by norm_num)] at hlt
  exact (zpow_lt_zpow_iff_right₀ (by norm_num)).mp hlt

/-- The bound rounds to 1100 places. Where it gives zero at once, the number is below half a unit,
and where it changes nothing there is nothing to be rounded. -/
@[simp] theorem toRat_bound (x : Decimal) : x.bound.toRat = roundedAt maxPlaces x.toRat := by
  unfold bound
  split
  · rename_i hle
    rw [roundedAt_of_fitsAt (fitsAt_toRat hle)]
  · split
    · rename_i hmagnitude
      have hpower : (10 : ℚ) ^ x.magnitude * 10 ≤ 10 ^ (-maxPlaces) := by
        rw [← zpow_add_one₀ (by norm_num)]
        exact zpow_le_zpow_right₀ (by norm_num) hmagnitude
      have hlt := abs_toRat_lt x
      have hpos := ten_zpow_pos (-maxPlaces)
      rw [toRat_zero, roundedAt_eq_zero (by linarith)]
    · exact toRat_roundTo x (.ofInt maxPlaces)

theorem toRat_bound_of_fitsAt (h : FitsAt maxPlaces x.toRat) :
    x.bound.toRat = x.toRat := by
  rw [toRat_bound, roundedAt_of_fitsAt h]

/-! ## Trailing zeros -/

theorem scale_pred {x : Decimal} {n : Int} (h : -9223372036854775807 ≤ x.scale) :
    scale ⟨n, x.place - 1⟩ = x.scale - 1 := by
  have hmost := (isScale_scale x).2
  have hscale : IsScale (x.place.toInt - Int64.toInt 1) := by
    change IsScale (x.scale - 1)
    exact ⟨by omega, by omega⟩
  exact toInt_sub hscale

/-- Where the scale has room for so many zeros to be taken off, they make no difference. -/
theorem toRat_stripZeros {fuel : Nat} {x : Decimal} (h : -9223372036854775808 ≤ x.scale - fuel) :
    (stripZeros fuel x).toRat = x.toRat := by
  induction fuel generalizing x with
  | zero => rfl
  | succ fuel ih =>
    unfold stripZeros
    split
    · rename_i hzero
      have hten : (x.int : ℚ) = (x.int / 10 : Int) * 10 := by
        exact_mod_cast (by omega : x.int = x.int / 10 * 10)
      have hscale : scale ⟨x.int / 10, x.place - 1⟩ = x.scale - 1 := scale_pred (by omega)
      rw [ih (by rw [hscale]; omega)]
      unfold toRat
      rw [hscale, neg_sub, sub_eq_add_neg, add_comm, zpow_add_one₀ (by norm_num), hten]
      ring
    · rfl

/-- The form without trailing zeros has the same value. -/
theorem toRat_normalized {x : Decimal} (h : x.magnitude ≤ 9223372036854775808 ∨ 0 ≤ x.scale) :
    x.normalized.toRat = x.toRat := by
  unfold normalized
  split
  · rename_i hzero
    rw [toRat_zero, toRat_eq_zero_iff.mpr hzero]
  · apply toRat_stripZeros
    unfold magnitude at h
    unfold maxZeros
    omega

theorem toRat_normalized_of_lt {x : Decimal} {m : ℤ} (h : |x.toRat| < 10 ^ m)
    (hm : m ≤ 9223372036854775808) : x.normalized.toRat = x.toRat := by
  by_cases hint : x.int = 0
  · rw [normalized, if_pos hint, toRat_zero, toRat_eq_zero_iff.mpr hint]
  · exact toRat_normalized (.inl ((magnitude_le_of_lt hint h).trans hm))

/-- No trailing zero can be taken off. -/
def Stripped (x : Decimal) : Prop := x.int % 10 ≠ 0

/-- The scale of a number that ends in another digit than zero is the least at which the number
can be written. -/
theorem Stripped.scale_le {x y : Decimal} (hx : x.Stripped) (h : x.toRat = y.toRat) :
    x.scale ≤ y.scale := by
  by_contra hlt
  have hint : x.int = y.int * tenPow (x.scale - y.scale).toNat := by
    have hxint := toRat_shift x x.scale
    have hyint := toRat_shift y x.scale
    rw [← h, hxint, sub_self, zpow_zero, mul_one, ← cast_tenPow_toNat (by omega)] at hyint
    exact_mod_cast hyint
  obtain ⟨k, hk⟩ : ∃ k, (x.scale - y.scale).toNat = k + 1 :=
    ⟨(x.scale - y.scale).toNat - 1, by omega⟩
  apply hx
  rw [hint, hk, tenPow, Nat.pow_eq, pow_succ]
  push_cast
  rw [← mul_assoc]
  exact Int.mul_emod_left _ _

theorem Stripped.stripZeros_eq {x : Decimal} (h : x.Stripped) (fuel : Nat) :
    stripZeros fuel x = x := by
  cases fuel with
  | zero => rfl
  | succ fuel => rw [stripZeros, if_neg h]

theorem Stripped.normalized_eq {x : Decimal} (h : x.Stripped) : x.normalized = x := by
  have hint : x.int ≠ 0 := by
    intro hzero
    rw [Stripped, hzero] at h
    exact h rfl
  rw [normalized, if_neg hint, h.stripZeros_eq]

/-- All zeros are taken off, or as many as may be. -/
theorem stripped_or_scale_stripZeros {fuel : Nat} {x : Decimal}
    (h : -9223372036854775808 ≤ x.scale - fuel) :
    (stripZeros fuel x).Stripped ∨ (stripZeros fuel x).scale = x.scale - fuel := by
  induction fuel generalizing x with
  | zero => exact .inr (sub_zero _).symm
  | succ fuel ih =>
    unfold stripZeros
    split
    · have hscale : scale ⟨x.int / 10, x.place - 1⟩ = x.scale - 1 := scale_pred (by omega)
      refine (ih (by rw [hscale]; omega)).imp_right fun hrest => ?_
      rw [hrest, hscale]
      push_cast
      ring
    · exact .inl ‹_›

end Decimal

end Formulary
