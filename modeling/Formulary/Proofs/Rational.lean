-- The exact value of a decimal, as a rational number. Sums and differences have the values that
-- their names say, at the scales of what they are made of. Products do where the sum of the scales
-- has 64 bits.
import Formulary.Arithmetic
import Mathlib.Algebra.Order.Field.Rat
import Mathlib.Tactic.FieldSimp
import Mathlib.Tactic.Ring

namespace Formulary.Decimal

/-- The number that a decimal stands for. -/
def toRat (x : Decimal) : ℚ := x.int * 10 ^ (-x.scale)

@[simp] theorem scale_mk (n : Int) (place : Int64) : scale ⟨n, place⟩ = place.toInt := rfl

theorem toRat_mk (n : Int) {place : Int64} {k : Int} (h : place.toInt = k) :
    toRat ⟨n, place⟩ = n * 10 ^ (-k) := by
  rw [← h]
  rfl

theorem ten_zpow_pos (k : Int) : (0 : ℚ) < 10 ^ k := zpow_pos (by norm_num) k

theorem cast_tenPow (k : Nat) : ((tenPow k : Nat) : ℚ) = 10 ^ k := Nat.cast_pow 10 k

theorem cast_tenPow_toNat {k : Int} (h : 0 ≤ k) : ((tenPow k.toNat : Nat) : ℚ) = 10 ^ k := by
  rw [cast_tenPow, ← zpow_natCast, Int.toNat_of_nonneg h]

theorem lt_tenPow_digitCount (n : Nat) : n < 10 ^ digitCount n :=
  (Nat.length_toDigits_le_iff (by decide) Nat.length_toDigits_pos).mp (Nat.le_refl _)

theorem tenPow_le_of_lt_digitCount {n k : Nat} (hn : n ≠ 0) (h : k < digitCount n) :
    10 ^ k ≤ n := by
  by_contra hlt
  rw [Nat.not_le] at hlt
  cases k with
  | zero => omega
  | succ k =>
    have hle := (Nat.length_toDigits_le_iff (by decide) (Nat.succ_pos k)).mpr hlt
    unfold digitCount at h
    omega

theorem toRat_eq_zero_iff {x : Decimal} : x.toRat = 0 ↔ x.int = 0 := by
  unfold toRat
  rw [mul_eq_zero, Int.cast_eq_zero]
  exact or_iff_left (ten_zpow_pos _).ne'

@[simp] theorem toRat_zero : zero.toRat = 0 := toRat_eq_zero_iff.mpr rfl

@[simp] theorem toRat_ofInt (n : Int) : (ofInt n).toRat = n := by
  simp [toRat, ofInt]

@[simp] theorem toRat_neg (x : Decimal) : x.neg.toRat = -x.toRat := by
  unfold toRat neg
  rw [Int.cast_neg, neg_mul]
  rfl

/-! ## Places -/

/-- An integer of 64 bits is the scale of some number. -/
def IsScale (k : Int) : Prop := -9223372036854775808 ≤ k ∧ k < 9223372036854775808

instance (k : Int) : Decidable (IsScale k) :=
  inferInstanceAs (Decidable (-9223372036854775808 ≤ k ∧ k < 9223372036854775808))

theorem isScale_scale (x : Decimal) : IsScale x.scale := ⟨x.place.le_toInt, x.place.toInt_lt⟩

/-- Nothing is lost of an integer that is a scale. -/
theorem toInt_ofInt {k : Int} (h : IsScale k) : (Int64.ofInt k).toInt = k :=
  Int64.toInt_ofInt_of_le h.1 h.2

theorem toInt_add {a b : Int64} (h : IsScale (a.toInt + b.toInt)) :
    (a + b).toInt = a.toInt + b.toInt := by
  rw [← toInt_ofInt h, Int64.ofInt_add, Int64.ofInt_toInt, Int64.ofInt_toInt]

theorem toInt_sub {a b : Int64} (h : IsScale (a.toInt - b.toInt)) :
    (a - b).toInt = a.toInt - b.toInt := by
  rw [← toInt_ofInt h, Int64.ofInt_sub, Int64.ofInt_toInt, Int64.ofInt_toInt]

/-- Numbers of one value and one scale are the same. -/
theorem eq_of_scale_eq {x y : Decimal} (hvalue : x.toRat = y.toRat) (hscale : x.scale = y.scale) :
    x = y := by
  have hint : x.int = y.int := by
    unfold toRat at hvalue
    rw [hscale] at hvalue
    exact_mod_cast mul_right_cancel₀ (ten_zpow_pos _).ne' hvalue
  have hplace : x.place = y.place := Int64.toInt_inj.mp hscale
  cases x
  cases y
  simp_all

/-- At a larger scale the number has more units, and each one is smaller. -/
theorem toRat_aligned {x : Decimal} {scale : Int} (h : x.scale ≤ scale) :
    ((x.int * tenPow (scale - x.scale).toNat : Int) : ℚ) * 10 ^ (-scale) = x.toRat := by
  have hscale : (10 : ℚ) ^ (scale - x.scale) * 10 ^ (-scale) = 10 ^ (-x.scale) := by
    rw [← zpow_add₀ (by norm_num)]
    congr 1
    ring
  rw [Int.cast_mul, Int.cast_natCast, cast_tenPow_toNat (by omega), mul_assoc, hscale]
  rfl

@[simp] theorem toRat_extendTo (x : Decimal) (place : Int64) :
    (x.extendTo place).toRat = x.toRat := by
  unfold extendTo
  split
  · rfl
  · rename_i hlt
    rw [Int64.le_iff_toInt_le, not_le] at hlt
    split
    · rename_i hzero
      rw [toRat_eq_zero_iff.mpr hzero]
      exact toRat_eq_zero_iff.mpr rfl
    · exact toRat_aligned hlt.le

@[simp] theorem scale_extendTo (x : Decimal) (place : Int64) :
    (x.extendTo place).scale = max x.scale place.toInt := by
  unfold extendTo
  split
  · rename_i hle
    exact (max_eq_left (Int64.le_iff_toInt_le.mp hle)).symm
  · rename_i hlt
    rw [Int64.le_iff_toInt_le, not_le] at hlt
    rw [max_eq_right (show x.scale ≤ place.toInt from hlt.le)]
    split <;> rfl

/-! ## Sums and differences -/

@[simp] theorem toRat_add (x y : Decimal) : (x.add y).toRat = x.toRat + y.toRat := by
  unfold add
  split
  · rename_i hy
    rw [toRat_extendTo, toRat_eq_zero_iff.mpr hy, add_zero]
  · split
    · rename_i hx
      rw [toRat_extendTo, toRat_eq_zero_iff.mpr hx, zero_add]
    · have hscale : (y.extendTo x.place).scale = (x.extendTo y.place).scale := by
        rw [scale_extendTo, scale_extendTo]
        exact max_comm y.scale x.scale
      rw [← toRat_extendTo x y.place, ← toRat_extendTo y x.place]
      unfold toRat
      rw [hscale, ← add_mul, ← Int.cast_add]
      rfl

theorem scale_add (x y : Decimal) : (x.add y).scale = max x.scale y.scale := by
  unfold add
  split
  · exact scale_extendTo x y.place
  · split
    · rw [max_comm]
      exact scale_extendTo y x.place
    · exact scale_extendTo x y.place

@[simp] theorem toRat_sub (x y : Decimal) : (x.sub y).toRat = x.toRat - y.toRat := by
  unfold sub
  split
  · rename_i hy
    rw [toRat_eq_zero_iff.mpr hy, sub_zero]
  · split
    · rename_i hx
      rw [toRat_neg, toRat_eq_zero_iff.mpr hx, zero_sub]
    · rw [toRat_add, toRat_neg, sub_eq_add_neg]

theorem scale_sub_le (x y : Decimal) : (x.sub y).scale ≤ max x.scale y.scale := by
  unfold sub
  split
  · exact le_max_left _ _
  · split
    · exact le_max_right x.scale y.scale
    · exact (scale_add x y.neg).le

/-! ## Products -/

/-- A number of the value one is one. -/
theorem toRat_of_isOne {x : Decimal} (h : x.isOne = true) : x.toRat = 1 := by
  have horder : x.compareValue one = .eq := eq_of_beq h
  -- A sign or a magnitude other than that of one would have decided the order.
  unfold compareValue at horder
  split at horder
  · rename_i hsign
    exact absurd (compare_eq_iff_eq.mp horder) hsign
  · split at horder
    · rename_i hsign hzero
      rw [hzero] at hsign
      exact absurd (by decide) hsign
    · split at horder
      · rename_i hmagnitude
        split at horder
        · exact absurd (compare_eq_iff_eq.mp horder) hmagnitude
        · exact absurd (compare_eq_iff_eq.mp horder).symm hmagnitude
      · have hint := compare_eq_iff_eq.mp horder
        rw [← toRat_aligned (le_max_left x.scale one.scale), hint,
          toRat_aligned (le_max_right x.scale one.scale)]
        simp [toRat, one]

/-- The product of two numbers has a place: it is zero, or the sum of the scales is one. -/
def HasProduct (x y : Decimal) : Prop := x.int = 0 ∨ y.int = 0 ∨ IsScale (x.scale + y.scale)

instance (x y : Decimal) : Decidable (HasProduct x y) :=
  inferInstanceAs (Decidable (x.int = 0 ∨ y.int = 0 ∨ IsScale (x.scale + y.scale)))

/-- A product that has a place is exact. -/
theorem toRat_mul {x y : Decimal} (h : HasProduct x y) : (x.mul y).toRat = x.toRat * y.toRat := by
  unfold mul
  split
  · rename_i hx
    rw [toRat_of_isOne hx, one_mul]
  · split
    · rename_i hy
      rw [toRat_of_isOne hy, mul_one]
    · rcases h with hx | hy | hscale
      · rw [toRat_eq_zero_iff.mpr hx, zero_mul]
        exact toRat_eq_zero_iff.mpr (by rw [hx, Int.zero_mul])
      · rw [toRat_eq_zero_iff.mpr hy, mul_zero]
        exact toRat_eq_zero_iff.mpr (by rw [hy, Int.mul_zero])
      · have hsum : scale ⟨x.int * y.int, x.place + y.place⟩ = x.scale + y.scale := toInt_add hscale
        unfold toRat
        rw [hsum, neg_add, zpow_add₀ (by norm_num)]
        push_cast
        ring

/-! ## Results within the bounds -/

theorem bound_eq_self {x : Decimal} (h : x.scale ≤ maxPlaces) : x.bound = x := if_pos h

/-- The result is the exact number, with no more places than these, unless that number is beyond
the doubles. -/
def Exact (result : Except Fault Decimal) (q : ℚ) (places : Nat) : Prop :=
  ∃ x : Decimal, x.toRat = q ∧ x.scale ≤ places ∧ result = x.finite

theorem exact_finite {x : Decimal} {places : Nat} (h : x.scale ≤ places) :
    Exact x.finite x.toRat places := ⟨x, rfl, h, rfl⟩

/-- A number is refused only if it is beyond the doubles. -/
theorem finite_cases (x : Decimal) :
    x.finite = .ok x ∧ x.isFinite = true ∨ x.finite = .error .tooLarge ∧ x.isFinite = false := by
  unfold finite
  cases x.isFinite
  · exact .inr ⟨rfl, rfl⟩
  · exact .inl ⟨rfl, rfl⟩

theorem eq_of_finite {x y : Decimal} (h : x.finite = .ok y) : y = x := by
  rcases finite_cases x with ⟨hok, -⟩ | ⟨hrefused, -⟩
  · rw [hok] at h
    exact (Except.ok.inj h).symm
  · rw [hrefused] at h
    cases h

end Formulary.Decimal
