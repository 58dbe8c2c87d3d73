-- Runs of decimal digits: the value of the digits that a number is written with, and a run that
-- is taken off the front of some characters up to the first one that is no digit.
import Formulary.Digits
import Formulary.Powers
import Mathlib.Data.List.TakeWhile
import Mathlib.Tactic.Ring

namespace Formulary

/-! ## Values -/

theorem digitsValue_toDigits (n : Nat) : digitsValue (Nat.toDigits 10 n) = n := by
  have hstep : (fun (m : Nat) (c : Char) => m * 10 + (c.toNat - '0'.toNat)) =
      fun m c => 10 * m + (c.toNat - '0'.toNat) := by
    funext m c
    rw [Nat.mul_comm]
  rw [digitsValue, hstep, ← Nat.ofDigitChars_eq_foldl]
  exact Nat.ofDigitChars_toDigits (by decide) (by decide)

/-- Zeros in front make no difference. -/
theorem digitsValue_zeros (k : Nat) (ds : List Char) :
    digitsValue (List.replicate k '0' ++ ds) = digitsValue ds := by
  induction k with
  | zero => rfl
  | succ k ih =>
    rw [List.replicate_succ, List.cons_append]
    exact ih

/-- Zeros behind are a power of ten. -/
theorem digitsValue_append_zeros (digits : List Char) (k : Nat) :
    digitsValue (digits ++ List.replicate k '0') = digitsValue digits * tenPow k := by
  induction k with
  | zero => simp [tenPow]
  | succ k ih =>
    have hlast : ∀ ds : List Char, digitsValue (ds ++ ['0']) = digitsValue ds * 10 := by
      intro ds
      simp [digitsValue]
    rw [List.replicate_succ', ← List.append_assoc, hlast, ih]
    simp only [tenPow, Nat.pow_eq, pow_succ]
    ring

theorem isDigit_toDigits {n : Nat} : ∀ c ∈ Nat.toDigits 10 n, c.isDigit = true :=
  fun _ hc => Nat.isDigit_of_mem_toDigits (by decide) (by decide) hc

theorem exists_digit_toDigits (n : Nat) :
    ∃ c more, Nat.toDigits 10 n = c :: more ∧ c.isDigit = true := by
  obtain ⟨c, more, hcs⟩ := List.exists_cons_of_ne_nil (Nat.toDigits_ne_nil (b := 10) (n := n))
  refine ⟨c, more, hcs, isDigit_toDigits (n := n) c ?_⟩
  rw [hcs]
  exact List.mem_cons_self

/-- Only zero is written with a zero in front. -/
theorem length_toDigits_of_head? {n : Nat} (h : (Nat.toDigits 10 n).head? = some '0') :
    (Nat.toDigits 10 n).length = 1 := by
  induction n using Nat.strongRecOn with
  | ind n ih =>
    by_cases hsmall : n < 10
    · rw [Nat.toDigits_of_lt_base hsmall]
      rfl
    · have hfront : (Nat.toDigits 10 (n / 10)).head? = some '0' := by
        obtain ⟨c, more, hcs, -⟩ := exists_digit_toDigits (n / 10)
        rw [Nat.toDigits_of_base_le (by decide) (by omega), hcs] at h
        rwa [hcs]
      have hlength := ih (n / 10) (by omega) hfront
      have hlt : n / 10 < 10 ^ 1 :=
        (Nat.length_toDigits_le_iff (by decide) (by decide)).mp hlength.le
      have hpos : n / 10 ≠ 0 := by omega
      rw [Nat.toDigits_of_lt_base (by omega)] at hfront
      have hzero : ∀ m < 10, m ≠ 0 → Nat.digitChar m ≠ '0' := by decide
      exact absurd (Option.some.inj hfront) (hzero _ (by omega) hpos)

/-! ## Runs in front -/

theorem ne_of_isDigit {c d : Char} (hc : c.isDigit = true) (hd : d.isDigit = false) : c ≠ d := by
  rintro rfl
  rw [hc] at hd
  cases hd

theorem takeWhile_digits {digits rest : List Char} (h : ∀ c ∈ digits, c.isDigit = true)
    (hrest : ∀ c ∈ rest.head?, c.isDigit = false) :
    (digits ++ rest).takeWhile Char.isDigit = digits ∧
      (digits ++ rest).dropWhile Char.isDigit = rest := by
  have hends : rest.takeWhile Char.isDigit = [] ∧ rest.dropWhile Char.isDigit = rest := by
    cases rest with
    | nil => exact ⟨rfl, rfl⟩
    | cons c more =>
      have hc : ¬ c.isDigit = true := by
        rw [hrest c rfl]
        decide
      exact ⟨List.takeWhile_cons_of_neg hc, List.dropWhile_cons_of_neg hc⟩
  rw [List.takeWhile_append_of_pos h, List.dropWhile_append_of_pos h, hends.1, hends.2,
    List.append_nil]
  exact ⟨rfl, rfl⟩

end Formulary
