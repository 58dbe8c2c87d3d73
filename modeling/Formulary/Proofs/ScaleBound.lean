-- The bound on the places of a number. It answers at once where the number has few places or lies
-- far below the last of them, and both answers are the rounded number. A scale is a word of 64
-- bits, and so is the difference that the second answer is given by, which is never beyond its
-- word.
import Formulary.Proofs.ExactOperations

namespace Formulary.Decimal

/-! ## Words -/

/-- The bits of a whole number can be counted with a word of 64 bits, as they are before its digits
are. Such a number may fill `2 ^ 61` bytes. -/
def CountableBits (n : Int) : Prop := n.natAbs.log2 + 1 < 18446744073709551616

instance (n : Int) : Decidable (CountableBits n) :=
  inferInstanceAs (Decidable (n.natAbs.log2 + 1 < 18446744073709551616))

/-- The magnitude as it is computed with words: what is beyond 64 bits of the digit count and of
the difference is lost. -/
def wordMagnitude (x : Decimal) : Int64 := Int64.ofNat x.digits - x.place

/-- The bound as it is computed with words. -/
def wordBound (x : Decimal) : Decimal :=
  if x.place ≤ 1100 then x
  else if x.wordMagnitude < -1100 then zero
  else x.roundTo 1100

/-- Three bits are not worth more than a digit. -/
theorem digitCount_le (n : Nat) : digitCount n ≤ n.log2 / 3 + 1 := by
  refine (Nat.length_toDigits_le_iff (by decide) (Nat.succ_pos _)).mpr ?_
  calc n < 2 ^ (n.log2 + 1) := Nat.lt_log2_self
    _ ≤ 2 ^ (3 * (n.log2 / 3 + 1)) := Nat.pow_le_pow_right (by decide) (by omega)
    _ = 8 ^ (n.log2 / 3 + 1) := Nat.pow_mul 2 3 _
    _ ≤ 10 ^ (n.log2 / 3 + 1) := Nat.pow_le_pow_left (by decide) _

theorem CountableBits.digitCount_lt {n : Int} (h : CountableBits n) :
    digitCount n.natAbs < 9223372036854775808 := by
  have hle := digitCount_le n.natAbs
  unfold CountableBits at h
  omega

variable {x : Decimal}

/-- A digit count less a scale that is not negative is between the ends of a word. -/
theorem toInt_wordMagnitude (hpos : 0 ≤ x.scale) (hbits : CountableBits x.int) :
    x.wordMagnitude.toInt = x.magnitude := by
  have hdigits : x.digits < 9223372036854775808 := hbits.digitCount_lt
  have hlt := (isScale_scale x).2
  rw [wordMagnitude, toInt_sub, Int64.toInt_ofNat_of_lt hdigits]
  · rfl
  · rw [Int64.toInt_ofNat_of_lt hdigits]
    change IsScale (x.digits - x.scale)
    exact ⟨by omega, by omega⟩

theorem place_le_iff : x.place ≤ 1100 ↔ x.scale ≤ maxPlaces := Int64.le_iff_toInt_le

theorem wordMagnitude_lt_iff (hpos : 0 ≤ x.scale) (hbits : CountableBits x.int) :
    x.wordMagnitude < -1100 ↔ x.magnitude < -maxPlaces := by
  rw [Int64.lt_iff_toInt_lt, toInt_wordMagnitude hpos hbits]
  rfl

/-- A scale below zero could take the difference beyond its word, but it is not computed there. -/
theorem wordBound_eq (hbits : CountableBits x.int) : x.wordBound = x.bound := by
  unfold wordBound bound
  by_cases hfew : x.scale ≤ maxPlaces
  · rw [if_pos hfew, if_pos (place_le_iff.mpr hfew)]
  · have hpos : 0 ≤ x.scale := by
      unfold maxPlaces at hfew
      omega
    have hsmall := wordMagnitude_lt_iff hpos hbits
    rw [if_neg hfew, if_neg fun hle => hfew (place_le_iff.mp hle)]
    by_cases hzero : x.magnitude < -maxPlaces
    · rw [if_pos hzero, if_pos (hsmall.mpr hzero)]
    · rw [if_neg hzero, if_neg fun hlt => hzero (hsmall.mp hlt)]
      rfl

/-! ## The law -/

/-- The law of the bound. Every number is rounded to 1100 places, half away from zero. It stays as
it is where there is nothing to be rounded, and is zero at once only where zero is what it is
rounded to. With words of 64 bits the bound is the same, at every scale. -/
theorem bound_rounds (x : Decimal) :
    x.bound.scale ≤ maxPlaces ∧ x.bound.toRat = roundedAt maxPlaces x.toRat ∧
      (x.scale ≤ maxPlaces → x.bound = x ∧ FitsAt maxPlaces x.toRat) ∧
      (maxPlaces < x.scale → x.magnitude < -maxPlaces →
        x.bound = zero ∧ roundedAt maxPlaces x.toRat = 0) ∧
      (CountableBits x.int →
        (1100 < x.place → x.wordMagnitude.toInt = x.magnitude) ∧ x.wordBound = x.bound) := by
  refine ⟨scale_bound_le x, toRat_bound x, fun hfew => ⟨bound_eq_self hfew, fitsAt_toRat hfew⟩,
    fun hmany hsmall => ?_, fun hbits => ⟨fun hmany => ?_, wordBound_eq hbits⟩⟩
  · have hzero : x.bound = zero := by
      unfold bound
      rw [if_neg (by omega), if_pos hsmall]
    rw [← toRat_bound, hzero, toRat_zero]
    exact ⟨rfl, rfl⟩
  · have hscale : 1100 < x.scale := Int64.lt_iff_toInt_lt.mp hmany
    exact toInt_wordMagnitude (by omega) hbits

/-- A tie at the last place, and scales at both ends of the words. -/
theorem bound_rounds_ends : wordBound ⟨15, 1101⟩ = ⟨2, 1100⟩ ∧
    wordBound ⟨7, 9223372036854775807⟩ = zero ∧
      roundedAt maxPlaces (toRat ⟨7, 9223372036854775807⟩) = 0 ∧
      wordBound ⟨7, -9223372036854775808⟩ = ⟨7, -9223372036854775808⟩ ∧
      FitsAt maxPlaces (toRat ⟨7, -9223372036854775808⟩) := by
  have hbits : CountableBits 15 ∧ CountableBits 7 := by decide
  obtain ⟨-, -, -, -, htie⟩ := bound_rounds ⟨15, 1101⟩
  obtain ⟨-, -, -, hzero, hlast⟩ := bound_rounds ⟨7, 9223372036854775807⟩
  obtain ⟨-, -, hsame, -, hfirst⟩ := bound_rounds ⟨7, -9223372036854775808⟩
  obtain ⟨hbound, hrounded⟩ := hzero (by decide) (by decide)
  obtain ⟨hself, hfits⟩ := hsame (by decide)
  exact ⟨(htie hbits.1).2.trans rfl, (hlast hbits.2).2.trans hbound, hrounded,
    (hfirst hbits.2).2.trans hself, hfits⟩

end Formulary.Decimal
