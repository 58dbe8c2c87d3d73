-- The decimals that the doubles cover. What stands for a number between `10 ^ (-300)` and
-- `10 ^ 300` is finite: a rounding takes little, and there are not enough of them to reach the
-- largest double. What stands for a number below `10 ^ (-400)` is zero, unless its digits end too
-- far behind the point, where it is infinite.
import Formulary.Proofs.Rounding
import Formulary.Proofs.Underflow
import Mathlib.Algebra.Order.Field.Basic

namespace Formulary.Binary64

/-! ## One rounding -/

/-- Rounding to the nearest whole number adds at most a half. -/
theorem roundHalfEven_le {num den : Nat} (hden : 0 < den) :
    (roundHalfEven num den : ℚ) ≤ num / den + 1 / 2 := by
  have hsplit := Nat.div_add_mod num den
  have hwhole : 2 * (den * roundHalfEven num den) ≤ 2 * num + den := by
    unfold roundHalfEven
    dsimp only
    generalize num / den = q at hsplit ⊢
    have hone : den * (q + 1) = den * q + den := Nat.mul_succ den q
    split
    · omega
    · split
      · omega
      · rcases Nat.mod_two_eq_zero_or_one q with heven | hodd
        · rw [heven, Nat.add_zero]
          omega
        · rw [hodd]
          omega
  have hd : (0 : ℚ) < den := Nat.cast_pos.mpr hden
  have hcast : (2 : ℚ) * (den * roundHalfEven num den) ≤ 2 * num + den := by exact_mod_cast hwhole
  rw [← sub_le_iff_le_add, le_div_iff₀ hd]
  linarith

/-- A fraction below the largest power of two is nearest to a finite double. It is too large by
at most half a unit, and the unit is the smallest one, or the fraction has 53 bits of it. -/
theorem nearest_finite {num den : Nat} (hnum : num ≠ 0) (hden : 0 < den)
    (h : (num : ℚ) / den < 2 ^ (1023 : Int)) :
    ∃ m unit, nearest num den = finite m unit ∧ (m : ℚ) * 2 ^ unit ≤ num / den + 2 ^ (unit - 1) ∧
      minExponent ≤ unit ∧ (unit = minExponent ∨ (2 : ℚ) ^ (unit + 52) ≤ num / den) := by
  have hbit := leadingBit_le hnum hden
  have hsmall : leadingBit num den < 1023 :=
    (zpow_lt_zpow_iff_right₀ (by norm_num)).mp (hbit.trans_lt h)
  unfold nearest
  rw [if_neg hnum]
  dsimp only
  obtain ⟨unit, hunit⟩ :
      ∃ unit, max (leadingBit num den - ((precision : Int) - 1)) minExponent = unit := ⟨_, rfl⟩
  have hexponent : unit = leadingBit num den - 52 ∨ unit = minExponent := by
    rw [← hunit]
    exact max_choice _ _
  rw [hunit, if_neg]
  · refine ⟨_, unit, rfl, ?_, hunit ▸ le_max_right _ _, ?_⟩
    · have hround : (roundHalfEven (shifted num den (-unit)).1 (shifted num den (-unit)).2 : ℚ) ≤
          (shifted num den (-unit)).1 / (shifted num den (-unit)).2 + 1 / 2 :=
        roundHalfEven_le (shifted_pos hden (-unit))
      rw [shifted_ratio hden] at hround
      have hback : (2 : ℚ) ^ (-unit) * 2 ^ unit = 1 := by
        rw [← zpow_add₀ (by norm_num), neg_add_cancel, zpow_zero]
      have hhalf : (2 : ℚ) ^ (unit - 1) = 1 / 2 * 2 ^ unit := by
        rw [zpow_sub_one₀ (by norm_num)]
        ring
      calc _ ≤ (num / den * 2 ^ (-unit) + 1 / 2 : ℚ) * 2 ^ unit :=
            mul_le_mul_of_nonneg_right hround (two_zpow_pos unit).le
        _ = num / den * (2 ^ (-unit) * 2 ^ unit) + 1 / 2 * 2 ^ unit := by ring
        _ = _ := by rw [hback, mul_one, hhalf]
    · rcases hexponent with hbits | hmin
      · right
        rwa [hbits, Int.sub_add_cancel]
      · exact .inl hmin
  · unfold maxExponent
    unfold minExponent at hexponent
    omega

/-- A fraction far below the smallest double is read as zero. -/
theorem nearest_tiny {num den : Nat} (hnum : num ≠ 0) (hden : 0 < den)
    (h : (num : ℚ) / den < 2 ^ (-1200 : Int)) :
    (nearest num den).isFinite = true ∧ (nearest num den).isZero = true := by
  have hlarge : (num : ℚ) / den < 2 ^ (1023 : Int) :=
    h.trans (zpow_lt_zpow_right₀ (by norm_num) (by norm_num))
  obtain ⟨m, unit, hnearest, hvalue, hmin, hunit⟩ := nearest_finite hnum hden hlarge
  have hsmallest : unit = minExponent := by
    refine hunit.resolve_right fun hbits => ?_
    have hlt := (zpow_lt_zpow_iff_right₀ (by norm_num)).mp (hbits.trans_lt h)
    unfold minExponent at hmin
    omega
  have hhalf : (num : ℚ) / den < 2 ^ (unit - 1) := by
    refine h.trans (zpow_lt_zpow_right₀ (by norm_num) ?_)
    rw [hsmallest]
    decide
  have hone : (m : ℚ) * 2 ^ unit < 1 * 2 ^ unit := by
    have hdouble : (2 : ℚ) ^ unit = 2 ^ (unit - 1) * 2 := by
      rw [← zpow_add_one₀ (by norm_num), Int.sub_add_cancel]
    rw [one_mul, hdouble]
    rw [hdouble] at hvalue
    linarith
  have hless : (m : ℚ) < 1 := lt_of_mul_lt_mul_right hone (two_zpow_pos unit).le
  have hm : m = 0 := Nat.lt_one_iff.mp (by exact_mod_cast hless)
  rw [hnearest, hm]
  exact ⟨rfl, rfl⟩

/-! ## Doubles within a bound -/

/-- What one rounding takes at most, as a factor. -/
def slack : ℚ := 128 / 125

/-- Products up to this bound stay finite. -/
def limit : ℚ := 10 ^ (3 * 102)

/-- A finite double that is within the bound also after one more rounding. -/
def Fits : Binary64 → ℚ → Prop
  | finite m e, b => slack * (m * 2 ^ e) ≤ b
  | infinite, _ => False

variable {x y : Binary64} {a b : ℚ}

theorem fits_finite {m : Nat} {e : Int} : (finite m e).Fits b ↔ slack * (m * 2 ^ e) ≤ b := Iff.rfl

theorem Fits.isFinite_eq (h : x.Fits b) : x.isFinite = true := by
  cases x with
  | finite m e => rfl
  | infinite => exact h.elim

theorem limit_lt : limit < 2 ^ (1023 : Int) := by
  have hten : limit ≤ 2 ^ (10 * 102) := Decimal.ten_pow_le_two_pow 102
  rw [← zpow_natCast] at hten
  exact hten.trans_lt (zpow_lt_zpow_right₀ (by norm_num) (by norm_num))

theorem one_le_slack : 1 ≤ slack := by
  unfold slack
  norm_num

theorem slack_pos : 0 < slack := zero_lt_one.trans_le one_le_slack

/-- Half a unit of a rounding is far less than a bound that is not below one. -/
theorem half_unit_le {q : ℚ} {unit : Int} (hunit : unit = minExponent ∨ (2 : ℚ) ^ (unit + 52) ≤ q)
    (hle : q ≤ b) (hone : 1 ≤ b) : (2 : ℚ) ^ (unit - 1) ≤ b * 2 ^ (-53 : Int) := by
  rcases hunit with hmin | hbits
  · have hsmall : (2 : ℚ) ^ (unit - 1) ≤ 2 ^ (-53 : Int) := by
      refine zpow_le_zpow_right₀ (by norm_num) ?_
      rw [hmin]
      decide
    exact hsmall.trans (le_mul_of_one_le_left (two_zpow_pos _).le hone)
  · have hshift : (2 : ℚ) ^ (unit - 1) = 2 ^ (unit + 52) * 2 ^ (-53 : Int) := by
      rw [← zpow_add₀ (by norm_num)]
      congr 1
      omega
    rw [hshift]
    exact mul_le_mul_of_nonneg_right (hbits.trans hle) (two_zpow_pos _).le

theorem fits_nearest {num den : Nat} (hden : 0 < den) (h : slack * slack * (num / den) ≤ b)
    (hone : 1 ≤ b) (hlimit : b ≤ limit) : (nearest num den).Fits b := by
  have hratio : (0 : ℚ) ≤ num / den := div_nonneg (Nat.cast_nonneg _) (Nat.cast_nonneg _)
  have hle : (num : ℚ) / den ≤ b := by
    refine (le_mul_of_one_le_left hratio ?_).trans h
    unfold slack
    norm_num
  by_cases hnum : num = 0
  · have hzero : nearest num den = finite 0 0 := if_pos hnum
    rw [hzero, fits_finite, Nat.cast_zero, zero_mul, mul_zero]
    exact zero_le_one.trans hone
  · obtain ⟨m, unit, hnearest, hvalue, -, hunit⟩ :=
      nearest_finite hnum hden ((hle.trans hlimit).trans_lt limit_lt)
    have htiny : b * 2 ^ (-53 : Int) ≤ b * (1 / 1000) :=
      mul_le_mul_of_nonneg_left (by norm_num) (zero_le_one.trans hone)
    have hhalf := (half_unit_le hunit hle hone).trans htiny
    have hsum := hvalue.trans (add_le_add_right hhalf _)
    rw [hnearest, fits_finite]
    refine (mul_le_mul_of_nonneg_left hsum slack_pos.le).trans ?_
    unfold slack at h ⊢
    linarith

/-! ## Products and powers -/

theorem Fits.mul (hx : x.Fits a) (hy : y.Fits b) (hone : 1 ≤ a * b) (hlimit : a * b ≤ limit) :
    (x.mul y).Fits (a * b) := by
  cases x with
  | infinite => exact hx.elim
  | finite m e =>
    cases y with
    | infinite => exact hy.elim
    | finite n f =>
      rw [fits_finite] at hx hy
      have hpositive : ∀ (k : Nat) (g : Int), (0 : ℚ) ≤ slack * (k * 2 ^ g) := fun k g =>
        mul_nonneg slack_pos.le (mul_nonneg (Nat.cast_nonneg k) (two_zpow_pos g).le)
      have hproduct := mul_le_mul hx hy (hpositive n f) ((hpositive m e).trans hx)
      have hvalue : slack * (m * 2 ^ e) * (slack * (n * 2 ^ f)) =
          slack * slack * (((m * n : Nat) : ℚ) / (1 : Nat) * 2 ^ (e + f)) := by
        rw [zpow_add₀ (by norm_num)]
        push_cast
        ring
      rw [hvalue, ← shifted_ratio Nat.one_pos] at hproduct
      exact fits_nearest (shifted_pos Nat.one_pos _) hproduct hone hlimit

theorem Fits.squarings (hy : y.Fits b) (hb : 1 ≤ b) (n : Nat) :
    ∀ {x : Binary64} {a : ℚ}, x.Fits a → 1 ≤ a → a * b ^ n ≤ limit →
      (squarings x y n).Fits (a * b ^ n) := by
  induction n using Nat.strongRecOn generalizing y b with
  | ind n ih =>
    intro x a hx ha hlimit
    unfold Binary64.squarings
    by_cases hn : n = 0
    · rw [if_pos hn, hn, pow_zero, mul_one]
      exact hx
    · rw [if_neg hn]
      dsimp only
      -- The lowest bit of the exponent goes to the result, the others to the square.
      have hbits : a * b ^ n = a * b ^ (n % 2) * (b * b) ^ (n / 2) := by
        rw [mul_assoc, ← pow_two, ← pow_mul, ← pow_add, Nat.mod_add_div]
      have hone : 1 ≤ a * b ^ (n % 2) := one_le_mul_of_one_le_of_one_le ha (one_le_pow₀ hb)
      have hsquare : 1 ≤ b * b := one_le_mul_of_one_le_of_one_le hb hb
      have hrest : 1 ≤ (b * b) ^ (n / 2) := one_le_pow₀ hsquare
      rw [hbits] at hlimit ⊢
      have hnext : (if n % 2 = 1 then x.mul y else x).Fits (a * b ^ (n % 2)) := by
        have hfits := (le_mul_of_one_le_right (zero_le_one.trans hone) hrest).trans hlimit
        rcases Nat.mod_two_eq_zero_or_one n with heven | hodd
        · rw [heven, pow_zero, mul_one]
          exact hx
        · rw [hodd, pow_one] at hone hfits ⊢
          exact hx.mul hy hone hfits
      by_cases hhalf : n / 2 = 0
      · rw [if_pos hhalf, hhalf, pow_zero, mul_one]
        exact hnext
      · rw [if_neg hhalf]
        have hfits : b * b ≤ limit :=
          (le_self_pow₀ hsquare hhalf).trans
            ((le_mul_of_one_le_left (zero_le_one.trans hrest) hone).trans hlimit)
        exact ih (n / 2) (by omega) (hy.mul hy hsquare hfits) hsquare hnext hone hlimit

/-! ## Powers of infinity -/

theorem mul_infinite (x : Binary64) : x.mul infinite = infinite := by
  cases x <;> rfl

theorem squarings_infinite (result : Binary64) {n : Nat} (hn : n ≠ 0) :
    squarings result infinite n = infinite := by
  induction n using Nat.strongRecOn generalizing result with
  | ind n ih =>
    unfold squarings
    rw [if_neg hn]
    dsimp only
    by_cases hhalf : n / 2 = 0
    · have hodd : n % 2 = 1 := by omega
      rw [if_pos hhalf, if_pos hodd, mul_infinite]
    · rw [if_neg hhalf, mul_infinite]
      exact ih (n / 2) (by omega) _ hhalf

/-- A power of infinity is infinite, or zero. -/
theorem power_infinite {n : Int} (hn : n ≠ 0) :
    (infinite.power n).isFinite = false ∨ (infinite.power n).isZero = true := by
  unfold power
  rw [squarings_infinite _ (Int.natAbs_ne_zero.mpr hn)]
  dsimp only
  split
  · exact .inr rfl
  · exact .inl rfl

/-! ## Finite doubles -/

/-- A whole number that is nearest to a finite double has at most 1025 bits. -/
theorem log2_le_of_isFinite_nearest {n : Nat} (hn : n ≠ 0) (h : (nearest n 1).isFinite = true) :
    n.log2 ≤ 1024 := by
  have hbit : (n.log2 : Int) - 1 ≤ leadingBit n 1 := by
    have hone : Nat.log2 1 = 0 := by decide
    unfold leadingBit
    rw [hone]
    dsimp only
    split <;> omega
  by_contra hlarge
  unfold nearest at h
  rw [if_neg hn] at h
  dsimp only at h
  rw [if_pos] at h
  · cases h
  · left
    unfold maxExponent precision
    omega

end Formulary.Binary64

namespace Formulary.Decimal

open Binary64

variable {n : Nat} {scale : Int}

/-! ## The scale of what is left -/

theorem log2_lt_of_lt_ten_pow {k : Nat} (hn : n ≠ 0) (h : n < 10 ^ k) : n.log2 < 4 * k := by
  rw [Nat.log2_lt hn, Nat.pow_mul]
  exact h.trans_le (Nat.pow_le_pow_left (by decide) k)

/-- A number of moderate size has few digits, since its scale has 64 bits. -/
theorem log2_lt_of_value_le (hn : n ≠ 0) (hscale : scale < 9223372036854775808)
    (h : (n : ℚ) * 10 ^ (-scale) ≤ 10 ^ (300 : Int)) : n.log2 < 100000000000000000000 := by
  have hle : (n : ℚ) ≤ 10 ^ (300 + scale) := by
    rwa [zpow_neg, ← div_eq_mul_inv, div_le_iff₀ (ten_zpow_pos scale),
      ← zpow_add₀ (by norm_num)] at h
  obtain ⟨k, hk⟩ : ∃ k, (301 + scale).toNat = k := ⟨_, rfl⟩
  have hlt : (n : ℚ) < ((10 ^ k : Nat) : ℚ) := by
    rw [Nat.cast_pow, Nat.cast_ofNat, ← zpow_natCast]
    exact hle.trans_lt (zpow_lt_zpow_right₀ (by norm_num) (by omega))
  have hbits := log2_lt_of_lt_ten_pow hn (Nat.cast_lt.mp hlt)
  omega

/-- There is a digit left, so that the number has no more than so many digits before the point. -/
theorem neg_keptScale_le {k : Int} (hn : n ≠ 0) (h : (n : ℚ) * 10 ^ (-scale) ≤ 10 ^ k) :
    -keptScale n scale ≤ k := by
  have hone : (1 : ℚ) ≤ kept n := Nat.one_le_cast.mpr (kept_pos hn)
  have hunit : (10 : ℚ) ^ (-keptScale n scale) ≤ kept n * 10 ^ (-keptScale n scale) :=
    le_mul_of_one_le_left (ten_zpow_pos _).le hone
  exact (zpow_le_zpow_iff_right₀ (by norm_num)).mp (hunit.trans ((kept_value_le n scale).trans h))

/-- Few digits are left, so that there are not too many places behind the point. -/
theorem keptScale_lt (hn : n ≠ 0) (hbits : n.log2 < 100000000000000000000)
    (h : (10 : ℚ) ^ (-300 : Int) ≤ n * 10 ^ (-scale)) : keptScale n scale < 346 := by
  have hfew : (2 : ℚ) * kept n < 10 ^ (46 : Int) := by
    have hlt : 2 * kept n < 10 ^ 46 := by
      have := kept_lt hbits
      omega
    exact_mod_cast hlt
  have hsmall : (10 : ℚ) ^ (-300 : Int) < 10 ^ (46 - keptScale n scale) := by
    calc (10 : ℚ) ^ (-300 : Int) ≤ 2 * (kept n * 10 ^ (-keptScale n scale)) :=
          h.trans (value_le_kept hn scale)
      _ = 2 * kept n * 10 ^ (-keptScale n scale) := (mul_assoc _ _ _).symm
      _ < 10 ^ (46 : Int) * 10 ^ (-keptScale n scale) :=
          mul_lt_mul_of_pos_right hfew (ten_zpow_pos _)
      _ = 10 ^ (46 - keptScale n scale) := by rw [← zpow_add₀ (by norm_num), sub_eq_add_neg]
  have hlt := (zpow_lt_zpow_iff_right₀ (by norm_num)).mp hsmall
  omega

/-! ## Numbers that are not too large -/

theorem slack_pow_le {k : Nat} (h : k ≤ 310) : slack ^ k ≤ 10 ^ 6 := by
  calc slack ^ k ≤ slack ^ (31 * 10) := pow_le_pow_right₀ one_le_slack h
    _ = (slack ^ 31) ^ 10 := pow_mul _ _ _
    _ ≤ 3 ^ 10 := by
      refine pow_le_pow_left₀ (pow_nonneg slack_pos.le _) ?_ 10
      unfold slack
      norm_num
    _ ≤ 10 ^ 6 := by norm_num

/-- A power of ten, with a rounding for each of its factors. -/
theorem fits_ten_power {k : Nat} (h : slack * (slack * 10) ^ k ≤ limit) :
    ((nearest 10 1).power k).Fits (slack * (slack * 10) ^ k) := by
  have hbase : (nearest 10 1).Fits (slack * 10) := by
    have hexact : nearest 10 1 = Binary64.finite (10 * 2 ^ 49) (-49) := by decide
    rw [hexact, fits_finite]
    norm_num
  have hstart : Binary64.one.Fits slack := by
    rw [Binary64.one, fits_finite]
    norm_num
  have hten : 1 ≤ slack * 10 := one_le_mul_of_one_le_of_one_le one_le_slack (by norm_num)
  unfold Binary64.power
  dsimp only
  rw [if_neg (by omega), Int.natAbs_natCast]
  exact hbase.squarings hten k hstart one_le_slack h

/-- A whole number with at most 300 zeros put behind it. -/
theorem isFinite_mul_power {k : Nat} (hn : n ≠ 0) (hk : k ≤ 300)
    (h : (n : ℚ) * 10 ^ k ≤ 10 ^ (300 : Int)) :
    ((nearest n 1).mul ((nearest 10 1).power k)).isFinite = true := by
  have htotal : slack * slack * n * (slack * (slack * 10) ^ k) ≤ limit := by
    calc slack * slack * n * (slack * (slack * 10) ^ k) = slack ^ (k + 3) * (n * 10 ^ k) := by
          rw [mul_pow]
          ring
      _ ≤ 10 ^ 6 * 10 ^ (300 : Int) :=
          mul_le_mul (slack_pow_le (by omega)) h (by positivity) (by positivity)
      _ = limit := by
          unfold limit
          rw [← zpow_natCast, ← zpow_natCast, ← zpow_add₀ (by norm_num)]
          rfl
  have hnumber : 1 ≤ slack * slack * n := by
    have hwhole : (1 : ℚ) ≤ n := Nat.one_le_cast.mpr (Nat.pos_of_ne_zero hn)
    have hsquare := one_le_mul_of_one_le_of_one_le one_le_slack one_le_slack
    exact one_le_mul_of_one_le_of_one_le hsquare hwhole
  have hpower : 1 ≤ slack * (slack * 10) ^ k := by
    have hten : 1 ≤ slack * 10 := one_le_mul_of_one_le_of_one_le one_le_slack (by norm_num)
    exact one_le_mul_of_one_le_of_one_le one_le_slack (one_le_pow₀ hten)
  have hleft : (nearest n 1).Fits (slack * slack * n) := by
    refine fits_nearest Nat.one_pos ?_ hnumber ?_
    · rw [Nat.cast_one, div_one]
    · exact (le_mul_of_one_le_right (zero_le_one.trans hnumber) hpower).trans htotal
  have hright : ((nearest 10 1).power k).Fits (slack * (slack * 10) ^ k) :=
    fits_ten_power ((le_mul_of_one_le_left (zero_le_one.trans hpower) hnumber).trans htotal)
  exact (hleft.mul hright (one_le_mul_of_one_le_of_one_le hnumber hpower) htotal).isFinite_eq

theorem ten_zpow_lt_limit : (10 : ℚ) ^ (300 : Int) < 2 ^ (1023 : Int) := by
  refine lt_of_le_of_lt ?_ limit_lt
  unfold limit
  rw [← zpow_natCast]
  exact zpow_le_zpow_right₀ (by norm_num) (by norm_num)

theorem isFinite_nearest {num den : Nat} (hden : 0 < den)
    (h : (num : ℚ) / den ≤ 10 ^ (300 : Int)) : (nearest num den).isFinite = true := by
  by_cases hnum : num = 0
  · rw [nearest, if_pos hnum]
    rfl
  · obtain ⟨m, unit, hnearest, -⟩ := nearest_finite hnum hden (h.trans_lt ten_zpow_lt_limit)
    rw [hnearest]
    rfl

theorem isFinite_nearestFraction {places : Nat} (h : (n : ℚ) / 10 ^ places ≤ 10 ^ (300 : Int)) :
    (nearestFraction n places).isFinite = true := by
  unfold nearestFraction
  split
  · rfl
  · refine isFinite_nearest (Nat.pow_pos (by decide)) ?_
    rwa [cast_tenPow]

/-- The double that stands for a number up to `10 ^ 300` is finite, if what is left of the number
does not have too many places. -/
theorem isFinite_of_keptScale_lt (hkept : keptScale n scale < 2147483648)
    (hhigh : (n : ℚ) * 10 ^ (-scale) ≤ 10 ^ (300 : Int)) :
    (approximate n scale).isFinite = true := by
  rw [approximate_eq]
  by_cases hn : n = 0
  · rw [if_pos hn]
    rfl
  · rw [if_neg hn]
    have hleast := neg_keptScale_le hn hhigh
    have hvalue := (kept_value_le n scale).trans hhigh
    split
    · rename_i hzero
      refine isFinite_nearest Nat.one_pos ?_
      rw [hzero, neg_zero, zpow_zero, mul_one] at hhigh
      rwa [Nat.cast_one, div_one]
    · rw [if_neg (by omega)]
      split
      · obtain ⟨k, hk⟩ : ∃ k : Nat, -keptScale n scale = k := ⟨(-keptScale n scale).toNat, by omega⟩
        rw [hk] at hvalue hleast ⊢
        rw [zpow_natCast] at hvalue
        exact isFinite_mul_power (kept_pos hn).ne' (by omega) hvalue
      · rw [mul_ten_zpow_neg (by omega)] at hvalue
        exact isFinite_nearestFraction hvalue

/-- The double that stands for a number between `10 ^ (-300)` and `10 ^ 300` is finite. -/
theorem isFinite_approximate (hscale : scale < 9223372036854775808)
    (hlow : (10 : ℚ) ^ (-300 : Int) ≤ n * 10 ^ (-scale))
    (hhigh : (n : ℚ) * 10 ^ (-scale) ≤ 10 ^ (300 : Int)) :
    (approximate n scale).isFinite = true := by
  by_cases hn : n = 0
  · rw [hn, approximate_eq, if_pos rfl]
    rfl
  · have hmost := keptScale_lt hn (log2_lt_of_value_le hn hscale hhigh) hlow
    exact isFinite_of_keptScale_lt (by omega) hhigh

/-! ## What finite doubles stand for -/

/-- The scale falls with the digits that are cut off. If it is not far below zero after that, there
were not too many of them. -/
theorem log2_lt_of_keptScale (hscale : scale < 9223372036854775808)
    (hkept : -2147483648 < keptScale n scale) : n.log2 < 100000000000000000000 := by
  obtain ⟨-, hbits⟩ := spareGroups_bounds n
  unfold keptScale at hkept
  omega

/-- Where the double that stands for a number is finite, the number is not beyond all bounds. -/
theorem value_lt_of_isFinite (hn : n ≠ 0) (hscale : scale < 9223372036854775808)
    (h : (approximate n scale).isFinite = true) :
    (n : ℚ) * 10 ^ (-scale) < 10 ^ (2147483700 : ℤ) := by
  rw [approximate_eq, if_neg hn] at h
  by_cases hzero : scale = 0
  · rw [if_pos hzero] at h
    have hbits : n < 2 ^ (n.log2 + 1) := Nat.lt_log2_self
    have hfew := log2_le_of_isFinite_nearest hn h
    rw [hzero, neg_zero, zpow_zero, mul_one]
    calc (n : ℚ) < ((2 ^ (n.log2 + 1) : Nat) : ℚ) := Nat.cast_lt.mpr hbits
      _ ≤ ((10 ^ (n.log2 + 1) : Nat) : ℚ) := Nat.cast_le.mpr (Nat.pow_le_pow_left (by decide) _)
      _ = 10 ^ ((n.log2 + 1 : Nat) : ℤ) := by rw [zpow_natCast, Nat.cast_pow, Nat.cast_ofNat]
      _ ≤ 10 ^ (2147483700 : ℤ) := zpow_le_zpow_right₀ (by norm_num) (by omega)
  · rw [if_neg hzero] at h
    by_cases hwide : 2147483648 ≤ keptScale n scale ∨ keptScale n scale ≤ -2147483648
    · rw [if_pos hwide] at h
      cases h
    · have hkept : kept n < 10 ^ 45 := kept_lt (log2_lt_of_keptScale hscale (by omega))
      have hdigits : (2 : ℚ) * kept n < 10 ^ (46 : ℤ) := by
        have hlt : 2 * kept n < 10 ^ 46 := by omega
        exact_mod_cast hlt
      calc (n : ℚ) * 10 ^ (-scale) ≤ 2 * (kept n * 10 ^ (-keptScale n scale)) :=
            value_le_kept hn scale
        _ = 2 * kept n * 10 ^ (-keptScale n scale) := (mul_assoc _ _ _).symm
        _ < 10 ^ (46 : ℤ) * 10 ^ (-keptScale n scale) :=
            mul_lt_mul_of_pos_right hdigits (ten_zpow_pos _)
        _ = 10 ^ (46 - keptScale n scale) := by rw [← zpow_add₀ (by norm_num), sub_eq_add_neg]
        _ ≤ 10 ^ (2147483700 : ℤ) := zpow_le_zpow_right₀ (by norm_num) (by omega)

/-- The number is not beyond all doubles, whatever form it has. -/
def InReach (x : Decimal) : Prop := |x.toRat| < 10 ^ (2147483700 : ℤ)

theorem inReach_of_toRat_eq_zero {x : Decimal} (h : x.toRat = 0) : x.InReach := by
  rw [InReach, h, abs_zero]
  exact ten_zpow_pos _

theorem inReach_of_isFinite {x : Decimal} (h : x.isFinite = true) : x.InReach := by
  by_cases hint : x.int = 0
  · exact inReach_of_toRat_eq_zero (toRat_eq_zero_iff.mpr hint)
  · have hvalue := value_lt_of_isFinite (Int.natAbs_ne_zero.mpr hint) (isScale_scale x).2 h
    rwa [InReach, abs_toRat]

/-! ## Numbers that are far too small -/

theorem ten_zpow_le_tiny : (10 : ℚ) ^ (-400 : Int) ≤ 2 ^ (-1200 : Int) := by
  have hpow : (2 : ℚ) ^ (3 * 400) ≤ 10 ^ 400 := by
    rw [pow_mul]
    exact pow_le_pow_left₀ (by norm_num) (by norm_num) 400
  have hinv := inv_anti₀ (by positivity) hpow
  rw [← zpow_natCast, ← zpow_natCast, ← zpow_neg, ← zpow_neg] at hinv
  exact hinv

theorem nearestFraction_tiny {places : Nat} (hn : n ≠ 0)
    (h : (n : ℚ) / 10 ^ places < 10 ^ (-400 : Int)) :
    (nearestFraction n places).isFinite = true ∧ (nearestFraction n places).isZero = true := by
  unfold nearestFraction
  split
  · exact ⟨rfl, rfl⟩
  · refine nearest_tiny hn (Nat.pow_pos (by decide)) ?_
    rw [cast_tenPow]
    exact h.trans_le ten_zpow_le_tiny

/-- The double that stands for a number below `10 ^ (-400)` is zero where the places of what is
left of the number are fewer than `2 ^ 31`, and infinite elsewhere. -/
theorem approximate_tiny (hn : n ≠ 0) (h : (n : ℚ) * 10 ^ (-scale) < 10 ^ (-400 : Int)) :
    if keptScale n scale < 2147483648 then
      (approximate n scale).isFinite = true ∧ (approximate n scale).isZero = true
    else approximate n scale = .infinite := by
  have hleast := neg_keptScale_le hn h.le
  have hnonzero : scale ≠ 0 := by
    rintro rfl
    rw [neg_zero, zpow_zero, mul_one] at h
    have hwhole : (1 : ℚ) ≤ n := Nat.one_le_cast.mpr (Nat.pos_of_ne_zero hn)
    have hone : (10 : ℚ) ^ (-400 : Int) ≤ 1 := zpow_le_one_of_nonpos₀ (by norm_num) (by norm_num)
    exact absurd (hwhole.trans_lt h) (not_lt.mpr hone)
  rw [approximate_eq, if_neg hn, if_neg hnonzero]
  split
  · rw [if_neg (by omega), if_neg (by omega)]
    have hvalue := (kept_value_le n scale).trans_lt h
    rw [mul_ten_zpow_neg (by omega)] at hvalue
    exact nearestFraction_tiny (kept_pos hn).ne' hvalue
  · exact if_pos (.inl (by omega))

end Formulary.Decimal
