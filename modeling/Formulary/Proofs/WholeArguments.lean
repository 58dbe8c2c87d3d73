-- What the methods make of a number that has to be whole: in whatever form it is, its value
-- counts, and it is refused where the value does not fit.
import Formulary.Builtin.Arguments
import Formulary.Proofs.ExactExponents

namespace Formulary.Builtin

variable {what : String} {args : List Value} {i : Nat} {x : Decimal}

/-- A number is taken without its fraction, and refused just where that is not a 64-bit integer. -/
theorem integerArg_eq (harg : args[i]? = some (.number x)) :
    integerArg what args i = if -2 ^ 63 ≤ Decimal.truncated x.toRat ∧ Decimal.truncated x.toRat < 2 ^ 63 then
      .ok (Decimal.truncated x.toRat) else .error (.invalidData what) := by
  have hnumber : numberArg args i = .ok x := by
    unfold numberArg typed argument
    rw [harg]
    rfl
  unfold integerArg
  rw [hnumber, ok_bind, Decimal.toInt64?_eq]
  by_cases hfits : -2 ^ 63 ≤ Decimal.truncated x.toRat ∧ Decimal.truncated x.toRat < 2 ^ 63
  · rw [if_pos hfits, if_pos hfits]
    exact congrArg Except.ok (Int64.toInt_ofInt_of_le hfits.1 hfits.2)
  · rw [if_neg hfits, if_neg hfits]

/-- A whole number is refused just where it is not a 64-bit integer. -/
theorem integerArg_of_toRat {n : ℤ} (harg : args[i]? = some (.number x)) (hx : x.toRat = n) :
    integerArg what args i =
      if -2 ^ 63 ≤ n ∧ n < 2 ^ 63 then .ok n else .error (.invalidData what) := by
  rw [integerArg_eq harg, hx, Decimal.truncated_intCast]

/-- A count may be as large as a 64-bit integer. -/
theorem countArg_of_toRat {n : Nat} (harg : args[i]? = some (.number x)) (hx : x.toRat = n) :
    countArg what args i = if n < 2 ^ 63 then .ok n else .error (.invalidData what) := by
  have hx' : x.toRat = (n : ℤ) := by rw [hx, Int.cast_natCast]
  unfold countArg
  rw [integerArg_of_toRat harg hx']
  by_cases hfits : n < 2 ^ 63
  · rw [if_pos hfits, if_pos (by omega), ok_bind]
    rfl
  · rw [if_neg hfits, if_neg (by omega)]
    rfl

/-- There is no negative count. -/
theorem countArg_of_neg {n : ℤ} (harg : args[i]? = some (.number x)) (hx : x.toRat = n)
    (hn : n < 0) : countArg what args i = .error (.invalidData what) := by
  unfold countArg
  rw [integerArg_of_toRat harg hx]
  by_cases hfits : -2 ^ 63 ≤ n ∧ n < 2 ^ 63
  · obtain ⟨k, rfl⟩ := Int.eq_negSucc_of_lt_zero hn
    rw [if_pos hfits, ok_bind]
    rfl
  · rw [if_neg hfits]
    rfl

/-! ## Counts -/

/-- A whole number that is not negative and that fits a 64-bit integer. -/
def IsCount (x : Decimal) (n : Nat) : Prop := x.toRat = n ∧ n < 2 ^ 63

theorem isCount_ofInt {n : Nat} (h : n < 2 ^ 63) : IsCount (.ofInt n) n :=
  ⟨by rw [Decimal.toRat_ofInt, Int.cast_natCast], h⟩

theorem countArg_of_isCount {n : Nat} (harg : args[i]? = some (.number x)) (hx : IsCount x n) :
    countArg what args i = .ok n := by
  rw [countArg_of_toRat harg hx.1, if_pos hx.2]

theorem countArg_of_large {n : Nat} (harg : args[i]? = some (.number x)) (hx : x.toRat = n)
    (hn : 2 ^ 63 ≤ n) : countArg what args i = .error (.invalidData what) := by
  rw [countArg_of_toRat harg hx, if_neg (by omega)]

end Formulary.Builtin
