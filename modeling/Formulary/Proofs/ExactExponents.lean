-- Which powers are computed exactly. A whole exponent up to 4096 is raised by squarings, at most
-- thirteen rounds of them, and a larger one goes to the power of the doubles. The least 64-bit
-- integer is an exception: it has no absolute value of 64 bits, and passes for a small exponent.
import Formulary.Proofs.Rounding

namespace Formulary.Decimal

/-! ## Whole numbers -/

variable {y : Decimal} {n : ℤ}

theorem int_eq_of_toRat (hy : y.toRat = n) (hscale : 0 ≤ y.scale) :
    y.int = n * tenPow y.scale.toNat := by
  have hshift := toRat_shift y y.scale
  rw [hy, sub_self, zpow_zero, mul_one, ← cast_tenPow_toNat hscale] at hshift
  exact_mod_cast hshift.symm

theorem ne_zero_of_toRat (hy : y.toRat = n) (hint : y.int ≠ 0) : n ≠ 0 := by
  rintro rfl
  rw [Int.cast_zero, toRat_eq_zero_iff] at hy
  exact hint hy

theorem one_le_magnitude (hy : y.toRat = n) (hint : y.int ≠ 0) : 0 < y.magnitude := by
  have hone : (1 : ℚ) ≤ |y.toRat| := by
    rw [hy]
    exact_mod_cast Int.one_le_abs (ne_zero_of_toRat hy hint)
  have hlt : (10 : ℚ) ^ (0 : ℤ) < 10 ^ y.magnitude := by
    rw [zpow_zero]
    exact hone.trans_lt (abs_toRat_lt y)
  exact (zpow_lt_zpow_iff_right₀ (by norm_num)).mp hlt

/-- A number with a whole value has no fraction, in whatever form it is. -/
theorem isInteger_of_toRat (hy : y.toRat = n) : y.isInteger = true := by
  unfold isInteger
  by_cases hscale : y.scale ≤ 0
  · simp [hscale]
  · by_cases hint : y.int = 0
    · simp [hint]
    · have hmagnitude := one_le_magnitude hy hint
      have hdigits : y.scale < y.digits := by
        unfold magnitude at hmagnitude
        omega
      have hrest : y.int % tenPow y.scale.toNat = 0 := by
        rw [int_eq_of_toRat hy (by omega)]
        exact Int.mul_emod_left _ _
      simp [hdigits, hrest]

/-! ## Numbers without their fraction -/

/-- A number without its fraction. -/
def truncated (q : ℚ) : ℤ := if 0 ≤ q then ⌊q⌋ else ⌈q⌉

theorem truncated_intCast (n : ℤ) : truncated n = n := by
  unfold truncated
  split <;> simp

theorem truncated_neg (q : ℚ) : truncated (-q) = -truncated q := by
  unfold truncated
  rcases lt_trichotomy q 0 with hq | rfl | hq
  · rw [if_pos (by linarith), if_neg (by linarith), Int.floor_neg]
  · simp
  · rw [if_neg (by linarith), if_pos hq.le, Int.ceil_neg]

/-- Cutting off the fraction of a quotient is division that rounds towards zero. -/
theorem truncated_div (n : ℤ) (k : Nat) : truncated (n / k : ℚ) = n.tdiv k := by
  have hnat : ∀ m : Nat, truncated (m / k : ℚ) = (m : ℤ).tdiv k := by
    intro m
    unfold truncated
    rw [if_pos (by positivity), Rat.floor_natCast_div_natCast, Int.tdiv_eq_ediv_of_nonneg (by omega)]
  rcases Int.eq_nat_or_neg n with ⟨m, rfl | rfl⟩
  · rw [Int.cast_natCast, hnat]
  · rw [Int.neg_tdiv, Int.cast_neg, neg_div, truncated_neg, Int.cast_natCast, hnat]

/-- A number keeps its size but for less than one. -/
theorem le_abs_truncated {n : Nat} {q : ℚ} (h : (n : ℚ) ≤ |q|) : (n : ℤ) ≤ |truncated q| := by
  unfold truncated
  by_cases hq : 0 ≤ q
  · rw [abs_of_nonneg hq] at h
    rw [if_pos hq]
    exact (Int.le_floor.mpr (by exact_mod_cast h)).trans (le_abs_self _)
  · rw [abs_of_neg (not_le.mp hq)] at h
    rw [if_neg hq]
    have hceil : ⌈q⌉ ≤ -(n : ℤ) := by
      rw [Int.ceil_le]
      push_cast
      linarith
    exact (le_neg_of_le_neg hceil).trans (neg_le_abs _)

theorem truncated_eq_zero {q : ℚ} (h : |q| < 1) : truncated q = 0 := by
  obtain ⟨hlow, hhigh⟩ := abs_lt.mp h
  unfold truncated
  split
  · rw [Int.floor_eq_zero_iff]
    exact ⟨‹_›, hhigh⟩
  · rw [Int.ceil_eq_zero_iff]
    exact ⟨hlow, (not_le.mp ‹_›).le⟩

theorem toRat_eq_intCast (h : y.scale ≤ 0) :
    y.toRat = ((y.int * tenPow (-y.scale).toNat : ℤ) : ℚ) := by
  rw [Int.cast_mul, Int.cast_natCast, cast_tenPow_toNat (by omega)]
  rfl

theorem toRat_eq_div (h : 0 ≤ y.scale) : y.toRat = y.int / (tenPow y.scale.toNat : Nat) := by
  rw [cast_tenPow_toNat h, div_eq_mul_inv, ← zpow_neg]
  rfl

/-- A number is turned into a 64-bit integer without its fraction, if it is within the range. -/
theorem toInt64?_eq (y : Decimal) :
    y.toInt64? = if -2 ^ 63 ≤ truncated y.toRat ∧ truncated y.toRat < 2 ^ 63 then
      some (Int64.ofInt (truncated y.toRat)) else none := by
  unfold toInt64?
  by_cases hint : y.int = 0
  · have hzero : truncated y.toRat = 0 := by
      rw [toRat_eq_zero_iff.mpr hint]
      exact truncated_intCast 0
    rw [if_pos hint, hzero]
    rfl
  · rw [if_neg hint]
    by_cases hmagnitude : 19 < y.magnitude
    · have hlarge : ((10 ^ 19 : Nat) : ℚ) ≤ |y.toRat| := by
        have hpow : (10 : ℚ) ^ (19 : ℤ) ≤ 10 ^ (y.magnitude - 1) :=
          zpow_le_zpow_right₀ (by norm_num) (by omega)
        exact_mod_cast hpow.trans (le_abs_toRat hint)
      have hlarge' := le_abs_truncated hlarge
      rw [Int.abs_eq_natAbs] at hlarge'
      rw [if_pos hmagnitude, if_neg (by omega)]
    · have hwhole : (if y.scale ≤ 0 then y.int * tenPow (-y.scale).toNat
          else if y.magnitude ≤ 0 then 0 else y.int.tdiv (tenPow y.scale.toNat)) =
            truncated y.toRat := by
        by_cases hscale : y.scale ≤ 0
        · rw [if_pos hscale, toRat_eq_intCast hscale, truncated_intCast]
        · rw [if_neg hscale]
          by_cases hsmall : y.magnitude ≤ 0
          · have hlt : |y.toRat| < 1 :=
              (abs_toRat_lt y).trans_le (zpow_le_one_of_nonpos₀ (by norm_num) hsmall)
            rw [if_pos hsmall, truncated_eq_zero hlt]
          · rw [if_neg hsmall, toRat_eq_div (by omega), truncated_div]
      rw [if_neg hmagnitude]
      dsimp only
      rw [hwhole]
      rfl

/-- The 64-bit integer of a whole value is that value, if there is one. -/
theorem toInt64?_of_toRat (hy : y.toRat = n) :
    y.toInt64? = if -2 ^ 63 ≤ n ∧ n < 2 ^ 63 then some (Int64.ofInt n) else none := by
  rw [toInt64?_eq, hy, truncated_intCast]

/-! ## Small exponents -/

/-- The absolute value of 64 bits is the absolute value, except for the least integer. -/
theorem toInt_abs {e : Int64} (h : e.toInt ≠ -2 ^ 63) : e.abs.toInt = |e.toInt| := by
  have hleast : e.toBitVec ≠ BitVec.intMin 64 := by
    intro heq
    apply h
    change e.toBitVec.toInt = _
    rw [heq]
    rfl
  rw [Int.abs_eq_natAbs]
  exact BitVec.toInt_abs_eq_natAbs_of_ne_intMin hleast

/-- The least 64-bit integer is its own absolute value of 64 bits. -/
theorem abs_least {e : Int64} (h : e.toInt = -2 ^ 63) : e.abs = e := by
  have he : e = Int64.minValue := Int64.toInt_inj.mp h
  rw [he]
  rfl

theorem abs_le_maxExactExponent_iff {e : Int64} :
    e.abs ≤ maxExactExponent ↔ |e.toInt| ≤ 4096 ∨ e.toInt = -2 ^ 63 := by
  have hmax : maxExactExponent.toInt = 4096 := rfl
  rw [Int64.le_iff_toInt_le, hmax]
  by_cases hleast : e.toInt = -2 ^ 63
  · rw [abs_least hleast, hleast]
    decide
  · rw [toInt_abs hleast, or_iff_left hleast]

/-- Which whole exponents count as small. -/
theorem exactExponent?_eq_some_iff (hy : y.toRat = n) {e : Int64} :
    exactExponent? y = some e ↔ e.toInt = n ∧ (|n| ≤ 4096 ∨ n = -2 ^ 63) := by
  unfold exactExponent?
  rw [if_pos (isInteger_of_toRat hy), toInt64?_of_toRat hy, Option.filter_eq_some_iff]
  simp only [decide_eq_true_eq, abs_le_maxExactExponent_iff]
  constructor
  · rintro ⟨hsome, hsmall⟩
    split at hsome
    · rename_i hrange
      cases hsome
      rw [Int64.toInt_ofInt_of_le hrange.1 hrange.2] at hsmall ⊢
      exact ⟨rfl, hsmall⟩
    · cases hsome
  · rintro ⟨rfl, hsmall⟩
    rw [if_pos ⟨e.le_toInt, e.toInt_lt⟩, Int64.ofInt_toInt]
    exact ⟨rfl, hsmall⟩

/-! ## Squaring -/

/-- The state of the squarings: the result so far, the power that is squared, and what is left of
the exponent. -/
structure Squaring where
  result : Decimal
  square : Decimal
  exponent : Nat

namespace Squaring

/-- One round takes the last bit off the exponent. -/
def round (s : Squaring) : Squaring where
  result := if s.exponent % 2 = 1 then bound (s.result.mulNormalized s.square) else s.result
  square := if s.exponent / 2 = 0 then s.square else bound (s.square.mulNormalized s.square)
  exponent := s.exponent / 2

/-- The loop ends in the state `t` after `k` rounds. -/
inductive Runs : Squaring → Nat → Squaring → Prop
  | done {s : Squaring} : s.exponent = 0 → Runs s 0 s
  | round {s t : Squaring} {k : Nat} : s.exponent ≠ 0 → Runs s.round k t → Runs s (k + 1) t

variable {s t : Squaring} {k : Nat}

/-- A round changes nothing of what the loop comes to. -/
theorem exactSquarings_round (h : s.exponent ≠ 0) :
    exactSquarings s.round.result s.round.square s.round.exponent =
      exactSquarings s.result s.square s.exponent := by
  rw [exactSquarings.eq_def s.result, if_neg h]
  unfold Squaring.round
  dsimp only
  by_cases hlast : s.exponent / 2 = 0
  · rw [if_pos hlast, if_pos hlast, hlast, exactSquarings, if_pos rfl]
  · rw [if_neg hlast, if_neg hlast]

/-- What the loop comes to is what the squarings are. -/
theorem Runs.result_eq (h : s.Runs k t) :
    t.result = exactSquarings s.result s.square s.exponent := by
  induction h with
  | done hzero => rw [hzero, exactSquarings, if_pos rfl]
  | round hne _ ih => rw [ih, exactSquarings_round hne]

/-- The loop makes as many rounds as the exponent has bits. -/
theorem Runs.le_iff (h : s.Runs k t) {m : Nat} : k ≤ m ↔ s.exponent < 2 ^ m := by
  induction h generalizing m with
  | done hzero => simp [hzero]
  | @round s t k hne _ ih =>
    cases m with
    | zero => simp [hne]
    | succ m =>
      rw [Nat.add_le_add_iff_right, ih, pow_succ]
      unfold Squaring.round
      dsimp only
      omega

theorem exists_runs (s : Squaring) : ∃ k t, s.Runs k t := by
  by_cases hzero : s.exponent = 0
  · exact ⟨0, s, .done hzero⟩
  · obtain ⟨k, t, hruns⟩ := exists_runs s.round
    exact ⟨k + 1, t, .round hzero hruns⟩
termination_by s.exponent
decreasing_by
  unfold Squaring.round
  dsimp only
  omega

end Squaring

/-- Before the first round. -/
def squaringStart (x : Decimal) (e : Int64) : Squaring := ⟨one, x.bound, e.toInt.natAbs⟩

/-! ## The law -/

theorem power_of_exactExponent? {x y : Decimal} {e : Int64} (h : exactExponent? y = some e) :
    x.power y = x.exactPower e := by
  unfold power
  rw [h]

theorem power_of_large {x y : Decimal} (h : exactExponent? y = none) :
    x.power y = x.doublePower y := by
  unfold power
  rw [h]

/-- The law of whole exponents, for all of them but the least 64-bit integer. The 64-bit integer
that the exponent is turned into has an absolute value of 64 bits. Only if it is at most 4096 the
power is computed by squarings, which take thirteen rounds at most, and otherwise the power is
that of the doubles. -/
theorem power_of_whole {y : Decimal} {n : ℤ} (hy : y.toRat = n) (hn : n ≠ -2 ^ 63) (x : Decimal) :
    (∀ e, y.toInt64? = some e → e.toInt = n ∧ e.abs.toInt = |n|) ∧
    (∀ e, exactExponent? y = some e → |n| ≤ 4096 ∧ x.power y = x.exactPower e ∧
      ∃ k t, (x.squaringStart e).Runs k t ∧ k ≤ 13 ∧
        t.result = exactSquarings one x.bound e.toInt.natAbs) ∧
    (|n| ≤ 4096 → x.power y = x.exactPower (Int64.ofInt n)) ∧
    (4096 < |n| → x.power y = x.doublePower y) := by
  have hsmall : ∀ e, exactExponent? y = some e ↔ e.toInt = n ∧ |n| ≤ 4096 := by
    intro e
    rw [exactExponent?_eq_some_iff hy, or_iff_left hn]
  refine ⟨fun e he => ?_, fun e he => ?_, fun hle => ?_, fun hlt => ?_⟩
  · rw [toInt64?_of_toRat hy] at he
    split at he
    · rename_i hrange
      cases he
      have hint : (Int64.ofInt n).toInt = n := Int64.toInt_ofInt_of_le hrange.1 hrange.2
      rw [toInt_abs (by rwa [hint]), hint]
      exact ⟨rfl, rfl⟩
    · cases he
  · obtain ⟨rfl, hle⟩ := (hsmall e).mp he
    obtain ⟨k, t, hruns⟩ := (x.squaringStart e).exists_runs
    have hbits : (x.squaringStart e).exponent < 2 ^ 13 := by
      rw [Int.abs_eq_natAbs] at hle
      change e.toInt.natAbs < 2 ^ 13
      omega
    exact ⟨hle, power_of_exactExponent? he, k, t, hruns, hruns.le_iff.mpr hbits, hruns.result_eq⟩
  · apply power_of_exactExponent?
    rw [hsmall]
    rw [Int.abs_eq_natAbs] at hle
    refine ⟨Int64.toInt_ofInt_of_le (by omega) (by omega), ?_⟩
    rwa [Int.abs_eq_natAbs]
  · apply power_of_large
    rw [Option.eq_none_iff_forall_ne_some]
    intro e he
    have hle := ((hsmall e).mp he).2
    omega

/-- The exponent 4096, written with a place. -/
theorem power_of_whole_largest : toRat ⟨40960, 1⟩ = ((4096 : ℤ) : ℚ) ∧
    one.neg.power ⟨40960, 1⟩ = one.neg.exactPower 4096 ∧
    ∃ k t, (one.neg.squaringStart 4096).Runs k t ∧ k ≤ 13 ∧
      t.result = exactSquarings one one.neg.bound 4096 := by
  have hvalue : toRat ⟨40960, 1⟩ = ((4096 : ℤ) : ℚ) := by
    rw [toRat_mk _ Int64.toInt_one]
    norm_num
  have hsome : exactExponent? ⟨40960, 1⟩ = some 4096 := by decide
  obtain ⟨-, hpower, hruns⟩ := (power_of_whole hvalue (by decide) one.neg).2.1 4096 hsome
  exact ⟨hvalue, hpower, hruns⟩

/-- The power of the doubles does not divide. -/
theorem doublePower_ne_divisionByZero (x y : Decimal) :
    x.doublePower y ≠ .error .divisionByZero := by
  unfold doublePower
  dsimp only
  split
  · nofun
  · split
    · nofun
    · nofun

/-- The least 64-bit integer passes for a small exponent: it is its own absolute value of 64 bits.
Zero is raised to it by 64 rounds of squaring, and the reciprocal of the result is not that of the
doubles. -/
theorem power_of_least : toRat ⟨-2 ^ 63, 0⟩ = ((-2 ^ 63 : ℤ) : ℚ) ∧
    exactExponent? ⟨-2 ^ 63, 0⟩ = some Int64.minValue ∧
    Int64.minValue.abs.toInt ≠ |Int64.minValue.toInt| ∧ 4096 < |Int64.minValue.toInt| ∧
    (∀ k t, (zero.squaringStart Int64.minValue).Runs k t → k = 64) ∧
    zero.power ⟨-2 ^ 63, 0⟩ = .error .divisionByZero ∧
    zero.power ⟨-2 ^ 63, 0⟩ ≠ zero.doublePower ⟨-2 ^ 63, 0⟩ := by
  have hpower : zero.power ⟨-2 ^ 63, 0⟩ = .error .divisionByZero := by
    have hsome : exactExponent? ⟨-2 ^ 63, 0⟩ = some Int64.minValue := by decide
    have hsquarings : exactSquarings one zero.bound Int64.minValue.toInt.natAbs = zero := by
      decide +kernel
    have hzero : zero.isZero = true := rfl
    rw [power_of_exactExponent? hsome, exactPower, hsquarings, hzero]
    rfl
  refine ⟨?_, by decide, by decide, by decide, fun k t hruns => ?_, hpower, ?_⟩
  · exact toRat_ofInt (-2 ^ 63)
  · have hle : k ≤ 64 := hruns.le_iff.mpr (by decide)
    have hgt : ¬ k ≤ 63 := by
      rw [hruns.le_iff]
      decide
    omega
  · rw [hpower]
    exact (doublePower_ne_divisionByZero _ _).symm

end Formulary.Decimal
