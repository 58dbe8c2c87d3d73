-- How many digits a long number loses before it is rounded. The estimate counts
-- 30102999566398119521 digits for `10 ^ 20` bits, and so many digits a number with so many bits
-- does have. The power of two is far too long to be written out, so it is enclosed: from one tenth
-- power to the next the bounds keep thirty of their digits.
import Formulary.Decimal.Nearest
import Mathlib.Algebra.Order.Ring.Nat
import Mathlib.Tactic.Ring

namespace Formulary.Decimal

/-! ## Enclosures -/

/-- Two bounds of a number, in units of a power of ten. -/
structure Enclosure where
  low : Nat
  high : Nat
  places : Nat

namespace Enclosure

def Encloses (x : Enclosure) (n : Nat) : Prop :=
  x.low * 10 ^ x.places ≤ n ∧ n ≤ x.high * 10 ^ x.places

/-- The bounds of the tenth power, cut to thirty digits. -/
def tenth (x : Enclosure) : Enclosure :=
  let cut := digitCount (x.low ^ 10) - 30
  ⟨x.low ^ 10 / 10 ^ cut, (x.high ^ 10 + (10 ^ cut - 1)) / 10 ^ cut, 10 * x.places + cut⟩

theorem Encloses.tenth {x : Enclosure} {n : Nat} (h : x.Encloses n) :
    x.tenth.Encloses (n ^ 10) := by
  obtain ⟨hlow, hhigh⟩ := h
  unfold Enclosure.tenth Encloses
  dsimp only
  generalize digitCount (x.low ^ 10) - 30 = cut
  have hcut : 0 < 10 ^ cut := Nat.pow_pos (by decide)
  have hunit : 10 ^ (10 * x.places + cut) = 10 ^ cut * (10 ^ x.places) ^ 10 := by
    rw [Nat.pow_add, ← Nat.pow_mul, Nat.mul_comm x.places, Nat.mul_comm]
  rw [hunit, ← Nat.mul_assoc, ← Nat.mul_assoc]
  constructor
  · calc x.low ^ 10 / 10 ^ cut * 10 ^ cut * (10 ^ x.places) ^ 10
        ≤ x.low ^ 10 * (10 ^ x.places) ^ 10 :=
          Nat.mul_le_mul_right _ (Nat.div_mul_le_self _ _)
      _ = (x.low * 10 ^ x.places) ^ 10 := (Nat.mul_pow _ _ _).symm
      _ ≤ n ^ 10 := Nat.pow_le_pow_left hlow 10
  · have hround := Nat.lt_div_mul_add (a := x.high ^ 10 + (10 ^ cut - 1)) hcut
    calc n ^ 10 ≤ (x.high * 10 ^ x.places) ^ 10 := Nat.pow_le_pow_left hhigh 10
      _ = x.high ^ 10 * (10 ^ x.places) ^ 10 := Nat.mul_pow _ _ _
      _ ≤ _ := Nat.mul_le_mul_right _ (by omega)

/-- Bounds of two to the power of `10 ^ k`. -/
def climb : Nat → Enclosure
  | 0 => ⟨2, 2, 0⟩
  | k + 1 => (climb k).tenth

-- The exponent has a name, so that nobody writes the power out.
theorem encloses_climb (k : Nat) : ∃ bits, bits = 10 ^ k ∧ (climb k).Encloses (2 ^ bits) := by
  induction k with
  | zero => exact ⟨1, rfl, Nat.le_refl _, Nat.le_refl _⟩
  | succ k ih =>
    obtain ⟨bits, hbits, h⟩ := ih
    refine ⟨bits * 10, by rw [hbits, Nat.pow_succ], ?_⟩
    rw [Nat.pow_mul]
    exact h.tenth

theorem climb_twenty : (climb 20).places + 29 = 30102999566398119521 ∧
    10 ^ 29 ≤ (climb 20).low ∧ (climb 20).high ≤ 10 ^ 30 := by decide +kernel

/-- Two bounds with thirty digits tell how many digits the number has. -/
theorem Encloses.digits {x : Enclosure} {n digits : Nat} (h : x.Encloses n)
    (hdigits : x.places + 29 = digits) (hlow : 10 ^ 29 ≤ x.low) (hhigh : x.high ≤ 10 ^ 30) :
    10 ^ digits ≤ n ∧ n ≤ 10 ^ (digits + 1) := by
  obtain ⟨hbelow, habove⟩ := h
  subst hdigits
  constructor
  · calc 10 ^ (x.places + 29) = 10 ^ 29 * 10 ^ x.places := by rw [Nat.pow_add, Nat.mul_comm]
      _ ≤ x.low * 10 ^ x.places := Nat.mul_le_mul_right _ hlow
      _ ≤ n := hbelow
  · calc n ≤ x.high * 10 ^ x.places := habove
      _ ≤ 10 ^ 30 * 10 ^ x.places := Nat.mul_le_mul_right _ hhigh
      _ = 10 ^ (x.places + 29 + 1) := by rw [← Nat.pow_add, Nat.add_comm]

end Enclosure

/-! ## Bits and digits -/

theorem tenPow_eq (k : Nat) : tenPow k = 10 ^ k := rfl

/-- Two to the power of `10 ^ 20` has all digits that are counted for so many bits, and one more. -/
theorem exists_rate : ∃ digits bits : Nat, digits = 30102999566398119521 ∧
    bits = 100000000000000000000 ∧ 10 ^ digits ≤ 2 ^ bits ∧ 2 ^ bits ≤ 10 ^ (digits + 1) := by
  obtain ⟨hplaces, hlow, hhigh⟩ := Enclosure.climb_twenty
  obtain ⟨bits, hbits, hclimb⟩ := Enclosure.encloses_climb 20
  obtain ⟨digits, hdigits⟩ : ∃ digits, (Enclosure.climb 20).places + 29 = digits := ⟨_, rfl⟩
  refine ⟨digits, bits, ?_, ?_, hclimb.digits hdigits hlow hhigh⟩
  · rw [← hdigits, hplaces]
  · simp [hbits]

section
variable {digits bits a k : Nat}

/-- What holds of so many bits, holds of a few by roots. -/
theorem ten_pow_le_of_rate (hbits : bits ≠ 0) (hrate : 10 ^ digits ≤ 2 ^ bits)
    (h : a * bits ≤ k * digits) : 10 ^ a ≤ 2 ^ k := by
  rw [← Nat.pow_le_pow_iff_left hbits]
  calc (10 ^ a) ^ bits = 10 ^ (a * bits) := (Nat.pow_mul _ _ _).symm
    _ ≤ 10 ^ (k * digits) := Nat.pow_le_pow_right (by decide) h
    _ = (10 ^ digits) ^ k := by rw [← Nat.pow_mul, Nat.mul_comm]
    _ ≤ (2 ^ bits) ^ k := Nat.pow_le_pow_left hrate k
    _ = (2 ^ k) ^ bits := by rw [← Nat.pow_mul, ← Nat.pow_mul, Nat.mul_comm]

theorem two_pow_le_of_rate (hbits : bits ≠ 0) (hrate : 2 ^ bits ≤ 10 ^ digits)
    (h : k * digits ≤ a * bits) : 2 ^ k ≤ 10 ^ a := by
  rw [← Nat.pow_le_pow_iff_left hbits]
  calc (2 ^ k) ^ bits = (2 ^ bits) ^ k := by rw [← Nat.pow_mul, ← Nat.pow_mul, Nat.mul_comm]
    _ ≤ (10 ^ digits) ^ k := Nat.pow_le_pow_left hrate k
    _ = 10 ^ (k * digits) := by rw [← Nat.pow_mul, Nat.mul_comm]
    _ ≤ 10 ^ (a * bits) := Nat.pow_le_pow_right (by decide) h
    _ = (10 ^ a) ^ bits := Nat.pow_mul _ _ _

end

theorem digitEstimate_bounds (bits : Nat) :
    digitEstimate bits * 100000000000000000000 ≤ (bits + 1) * 30102999566398119521 ∧
      (bits + 1) * 30102999566398119521 < (digitEstimate bits + 1) * 100000000000000000000 := by
  have hpow : tenPow 20 = 100000000000000000000 := by decide
  unfold digitEstimate
  rw [hpow]
  omega

/-! ## Spare digits -/

/-- What is left of a number without its spare digits. -/
def kept (n : Nat) : Nat := n / tenPow (19 * spareGroups n)

/-- The scale of what is left of a number. -/
def keptScale (n : Nat) (scale : Int) : Int := scale - 19 * spareGroups n

theorem approximate_eq (n : Nat) (scale : Int) : approximate n scale =
    if n = 0 then .zero
    else if scale = 0 then .nearest n 1
    else if 2147483648 ≤ keptScale n scale ∨ keptScale n scale ≤ -2147483648 then .infinite
    else if keptScale n scale ≤ 0 then
      (Binary64.nearest (kept n) 1).mul ((Binary64.nearest 10 1).power (-keptScale n scale))
    else nearestFraction (kept n) (keptScale n scale).toNat := rfl

/-- The spare digits are no more than the bits have, and at most 44 are left. -/
theorem spareGroups_bounds (n : Nat) :
    19 * spareGroups n * 100000000000000000000 ≤ n.log2 * 30102999566398119521 ∧
      (n.log2 + 1) * 30102999566398119521 ≤ (19 * spareGroups n + 44) * 100000000000000000000 := by
  obtain ⟨hlow, hhigh⟩ := digitEstimate_bounds (n.log2 + 1)
  have hspare : spareGroups n = (digitEstimate (n.log2 + 1) - 25) / 19 := rfl
  omega

/-- Fewer digits are cut off than there are. -/
theorem tenPow_spareGroups_le {n : Nat} (hn : n ≠ 0) : tenPow (19 * spareGroups n) ≤ n := by
  obtain ⟨hcut, -⟩ := spareGroups_bounds n
  obtain ⟨digits, bits, hdigits, hbits, hrate, -⟩ := exists_rate
  rw [← hdigits, ← hbits] at hcut
  rw [tenPow_eq]
  exact (ten_pow_le_of_rate (hbits.trans_ne (by decide)) hrate hcut).trans (Nat.log2_self_le hn)

theorem kept_pos {n : Nat} (hn : n ≠ 0) : 0 < kept n :=
  Nat.div_pos (tenPow_spareGroups_le hn) (Nat.pow_pos (by decide))

/-- What is left is the number but for less than one in the last digit. -/
theorem kept_mul_le (n : Nat) : kept n * tenPow (19 * spareGroups n) ≤ n :=
  Nat.div_mul_le_self n _

/-- What is left is at least half of the number. -/
theorem le_twice_kept {n : Nat} (hn : n ≠ 0) :
    n ≤ 2 * (kept n * tenPow (19 * spareGroups n)) := by
  have hpos := kept_pos hn
  unfold kept at hpos ⊢
  generalize hcut : tenPow (19 * spareGroups n) = cut at hpos ⊢
  have hsplit := Nat.lt_div_mul_add (a := n) (b := cut) (hcut ▸ Nat.pow_pos (by decide))
  have hle : cut ≤ n / cut * cut := Nat.le_mul_of_pos_left cut hpos
  omega

/-- Of a number with at most `10 ^ 20` bits, at most 45 digits are left. -/
theorem kept_lt {n : Nat} (h : n.log2 < 100000000000000000000) : kept n < 10 ^ 45 := by
  obtain ⟨-, hcut⟩ := spareGroups_bounds n
  obtain ⟨digits, bits, hdigits, hbits, -, hrate⟩ := exists_rate
  rw [← hdigits, ← hbits] at hcut
  rw [← hbits] at h
  have hmore : (n.log2 + 1) * (digits + 1) ≤ (19 * spareGroups n + 45) * bits :=
    calc (n.log2 + 1) * (digits + 1) = (n.log2 + 1) * digits + (n.log2 + 1) := Nat.mul_succ _ _
      _ ≤ (19 * spareGroups n + 44) * bits + bits := Nat.add_le_add hcut h
      _ = (19 * spareGroups n + 44 + 1) * bits := (Nat.succ_mul _ _).symm
  have hdigits : n < 10 ^ (19 * spareGroups n + 45) :=
    Nat.lt_log2_self.trans_le (two_pow_le_of_rate (hbits.trans_ne (by decide)) hrate hmore)
  unfold kept
  rw [tenPow_eq]
  rw [Nat.pow_add] at hdigits
  exact Nat.div_lt_of_lt_mul hdigits

end Formulary.Decimal
