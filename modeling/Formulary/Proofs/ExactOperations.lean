-- Sums, differences and products of any two numbers. Each operand is first rounded to 1100
-- places. A sum and a difference of such numbers need no more places than they have, so only a
-- product is rounded again, and the values alone say what comes out. A product is lost where the
-- sum of the scales does not have 64 bits.
import Formulary.Proofs.DoubleRange

namespace Formulary.Decimal

/-! ## Numbers with at most 1100 places -/

/-- The number rounded to 1100 places, half away from zero. -/
def bounded (q : ℚ) : ℚ := roundedAt maxPlaces q

theorem scale_bound_le (x : Decimal) : x.bound.scale ≤ maxPlaces := by
  unfold bound
  split
  · assumption
  · split
    · decide
    · exact (scale_roundTo x (.ofInt maxPlaces)).le

/-- Whatever is bounded and found to be within the doubles has its exact value rounded to 1100
places. -/
theorem exact_bounded (z : Decimal) : Exact (finite (bound z)) (bounded z.toRat) 1100 := by
  have h : Exact (finite (bound z)) (bound z).toRat 1100 := exact_finite (scale_bound_le z)
  rwa [toRat_bound] at h

/-- The bound takes nothing away from a number that has few places already. -/
theorem exact_unbounded {z : Decimal} (h : z.scale ≤ maxPlaces) :
    Exact (finite (bound z)) z.toRat 1100 := by
  rw [bound_eq_self h]
  exact exact_finite h

/-! ## The digits of a number -/

/-- The digits of the number stand on so many places behind the point and before it. -/
structure DigitsWithin (behind before : Nat) (q : ℚ) : Prop where
  fits : FitsAt behind q
  le : |q| ≤ 10 ^ before

variable {p q : ℚ} {x y : Decimal} {a b m n : Nat}

theorem digitsWithin_one : DigitsWithin 0 0 1 :=
  ⟨⟨1, by norm_num⟩, by norm_num⟩

theorem DigitsWithin.mul (hp : DigitsWithin a m p) (hq : DigitsWithin b n q) :
    DigitsWithin (a + b) (m + n) (p * q) := by
  constructor
  · rw [Nat.cast_add]
    exact hp.fits.mul hq.fits
  · rw [abs_mul, pow_add]
    exact mul_le_mul hp.le hq.le (abs_nonneg q) (by positivity)

theorem DigitsWithin.pow (hq : DigitsWithin a m q) (k : Nat) :
    DigitsWithin (a * k) (m * k) (q ^ k) := by
  induction k with
  | zero => simpa using digitsWithin_one
  | succ k ih =>
    rw [pow_succ, Nat.mul_succ, Nat.mul_succ]
    exact ih.mul hq

theorem DigitsWithin.lt (h : DigitsWithin a m q) : |q| < 10 ^ (m + 1 : ℤ) := by
  refine h.le.trans_lt ?_
  rw [← zpow_natCast]
  exact zpow_lt_zpow_right₀ (by norm_num) (lt_add_one _)

/-- A number that is not zero does not end before its digits. -/
theorem DigitsWithin.scale (h : DigitsWithin a m x.toRat) (hint : x.int ≠ 0) :
    -(m + 1 : ℤ) < x.scale ∧ x.magnitude ≤ m + 1 :=
  ⟨neg_lt_scale_of_lt hint h.lt, magnitude_le_of_lt hint h.lt⟩

/-- The product of two numbers has a place, if neither has too many digits. -/
theorem DigitsWithin.hasProduct (hx : DigitsWithin a m x.toRat) (hy : DigitsWithin b n y.toRat)
    (hxscale : x.scale ≤ maxPlaces) (hyscale : y.scale ≤ maxPlaces)
    (hdigits : m + n ≤ 4611686018427387904) : HasProduct x y := by
  by_cases hxint : x.int = 0
  · exact .inl hxint
  · by_cases hyint : y.int = 0
    · exact .inr (.inl hyint)
    · have hxlow := (hx.scale hxint).1
      have hylow := (hy.scale hyint).1
      unfold maxPlaces at hxscale hyscale
      exact .inr (.inr ⟨by omega, by omega⟩)

theorem InReach.digitsWithin (h : x.InReach) : DigitsWithin x.scale.toNat 2147483700 x.toRat := by
  refine ⟨fitsAt_toRat (Int.self_le_toNat _), ?_⟩
  rw [← zpow_natCast]
  exact le_of_lt h

/-- Rounding does not lead out of reach. -/
theorem InReach.digitsWithin_bound (h : x.InReach) :
    DigitsWithin 1100 2147483700 x.bound.toRat := by
  have hten : FitsAt maxPlaces (10 ^ 2147483700) :=
    fitsAt_mono (fitsAt_ten_pow 2147483700) (by decide)
  rw [toRat_bound]
  refine ⟨fitsAt_roundedAt maxPlaces _, abs_roundedAt_le hten ?_⟩
  rw [← zpow_natCast]
  exact le_of_lt h

/-- Two numbers that are within the doubles always have a product. -/
theorem hasProduct_bound (hx : x.InReach) (hy : y.InReach) : HasProduct x.bound y.bound :=
  hx.digitsWithin_bound.hasProduct hy.digitsWithin_bound (scale_bound_le x) (scale_bound_le y)
    (by decide)

/-! ## The three operations -/

variable (x y : Decimal)

theorem exact_sum_bounded : Exact (x.sum y) (bounded x.toRat + bounded y.toRat) 1100 := by
  have hscale : (x.bound.add y.bound).scale ≤ maxPlaces :=
    (scale_add x.bound y.bound).trans_le (max_le (scale_bound_le x) (scale_bound_le y))
  have h := exact_unbounded hscale
  rwa [toRat_add, toRat_bound, toRat_bound] at h

theorem exact_difference_bounded :
    Exact (x.difference y) (bounded x.toRat - bounded y.toRat) 1100 := by
  have hscale : (x.bound.sub y.bound).scale ≤ maxPlaces :=
    (scale_sub_le x.bound y.bound).trans (max_le (scale_bound_le x) (scale_bound_le y))
  have h := exact_unbounded hscale
  rwa [toRat_sub, toRat_bound, toRat_bound] at h

/-- Two factors have 2200 places together, so the product is rounded too. -/
theorem exact_product_bounded (h : HasProduct x.bound y.bound) :
    Exact (x.product y) (bounded (bounded x.toRat * bounded y.toRat)) 1100 := by
  have hproduct := exact_bounded (x.bound.mul y.bound)
  rwa [toRat_mul h, toRat_bound, toRat_bound] at hproduct

variable {x y}

theorem Exact.toRat_eq {result : Except Fault Decimal} {q : ℚ} {places : Nat} {z : Decimal}
    (h : Exact result q places) (hz : result = .ok z) : z.toRat = q := by
  obtain ⟨exact, hvalue, -, rfl⟩ := h
  rw [eq_of_finite hz, hvalue]

/-- Numbers of one value are interchangeable. -/
theorem Exact.same {result result' : Except Fault Decimal} {q : ℚ} {places : Nat}
    (h : Exact result q places) (h' : Exact result' q places) :
    ∀ z z', result = .ok z → result' = .ok z' → z.toRat = z'.toRat := by
  intro z z' hz hz'
  rw [h.toRat_eq hz, h'.toRat_eq hz']

/-! ## The law -/

/-- The law of sums, differences and products, for all numbers in all their forms. What comes out
has at most 1100 places, and it is refused only if it is beyond the doubles. It is the exact value
for the operands rounded to 1100 places, a product being rounded once more, if the product has a
place, as it always has for operands within the doubles. So operands of the same values give the
same value, whatever their scales are. -/
theorem operations_bounded (x y : Decimal) :
    Exact (x.sum y) (bounded x.toRat + bounded y.toRat) 1100 ∧
    Exact (x.difference y) (bounded x.toRat - bounded y.toRat) 1100 ∧
    (∃ q, Exact (x.product y) q 1100 ∧
      (HasProduct x.bound y.bound → q = bounded (bounded x.toRat * bounded y.toRat))) ∧
    (x.isFinite = true → y.isFinite = true → HasProduct x.bound y.bound) ∧
    ∀ x' y' : Decimal, x'.toRat = x.toRat → y'.toRat = y.toRat →
      (∀ op ∈ [sum, difference], ∀ z z', op x y = .ok z → op x' y' = .ok z' →
        z.toRat = z'.toRat) ∧
      (HasProduct x.bound y.bound → HasProduct x'.bound y'.bound →
        ∀ z z', x.product y = .ok z → x'.product y' = .ok z' → z.toRat = z'.toRat) := by
  refine ⟨exact_sum_bounded x y, exact_difference_bounded x y,
    ⟨_, exact_bounded (x.bound.mul y.bound), fun h => ?_⟩,
    fun hx hy => hasProduct_bound (inReach_of_isFinite hx) (inReach_of_isFinite hy),
    fun x' y' hx hy => ⟨?_, fun h h' => ?_⟩⟩
  · rw [toRat_mul h, toRat_bound, toRat_bound]
    rfl
  · have hsum := exact_sum_bounded x' y'
    have hdifference := exact_difference_bounded x' y'
    rw [hx, hy] at hsum hdifference
    intro op hop
    simp only [List.mem_cons, List.not_mem_nil, or_false] at hop
    rcases hop with rfl | rfl
    · exact (exact_sum_bounded x y).same hsum
    · exact (exact_difference_bounded x y).same hdifference
  · have hproduct := exact_product_bounded x' y' h'
    rw [hx, hy] at hproduct
    exact (exact_product_bounded x y h).same hproduct

/-- Half a unit behind the last place is rounded up before it is added, in both of its forms. -/
theorem operations_bounded_half_unit :
    toRat ⟨150, 1102⟩ = toRat ⟨15, 1101⟩ ∧ toRat ⟨10, 1⟩ = one.toRat ∧
      (⟨15, 1101⟩ : Decimal).sum one = .ok ⟨10 ^ 1100 + 2, 1100⟩ ∧
      (⟨150, 1102⟩ : Decimal).sum ⟨10, 1⟩ = .ok ⟨10 ^ 1100 + 2, 1100⟩ ∧
      toRat ⟨10 ^ 1100 + 2, 1100⟩ = bounded (toRat ⟨15, 1101⟩) + bounded one.toRat ∧
      (∀ z z', (⟨15, 1101⟩ : Decimal).sum one = .ok z →
        (⟨150, 1102⟩ : Decimal).sum ⟨10, 1⟩ = .ok z' → z.toRat = z'.toRat) ∧
      HasProduct (bound ⟨15, 1101⟩) (bound one) ∧ HasProduct (bound ⟨150, 1102⟩) (bound ⟨10, 1⟩) ∧
      ∀ z z', (⟨15, 1101⟩ : Decimal).product one = .ok z →
        (⟨150, 1102⟩ : Decimal).product ⟨10, 1⟩ = .ok z' → z.toRat = z'.toRat := by
  have hfirst : toRat ⟨150, 1102⟩ = toRat ⟨15, 1101⟩ := toRat_extendTo ⟨15, 1101⟩ 1102
  have hsecond : toRat ⟨10, 1⟩ = one.toRat := toRat_extendTo one 1
  have hsum : (⟨15, 1101⟩ : Decimal).sum one = .ok ⟨10 ^ 1100 + 2, 1100⟩ := by decide +kernel
  have hsum' : (⟨150, 1102⟩ : Decimal).sum ⟨10, 1⟩ = .ok ⟨10 ^ 1100 + 2, 1100⟩ := by decide +kernel
  have hplace' : HasProduct (bound ⟨150, 1102⟩) (bound ⟨10, 1⟩) := by decide +kernel
  obtain ⟨hexact, -, -, hfinite, hsame⟩ := operations_bounded ⟨15, 1101⟩ one
  have hplace := hfinite (by decide +kernel) (by decide +kernel)
  obtain ⟨hsums, hproducts⟩ := hsame _ _ hfirst hsecond
  exact ⟨hfirst, hsecond, hsum, hsum', hexact.toRat_eq hsum, hsums sum (by simp), hplace, hplace',
    hproducts hplace hplace'⟩

/-- A product may come out as zero, however large it is: the sum of these scales is beyond 64
bits, and what is left of it is far behind the point. -/
theorem product_not_exact :
    (⟨2, -5000000000000000000⟩ : Decimal).product ⟨2, -5000000000000000000⟩ = .ok zero ∧
      ¬ Exact ((⟨2, -5000000000000000000⟩ : Decimal).product ⟨2, -5000000000000000000⟩)
        (bounded (bounded (toRat ⟨2, -5000000000000000000⟩) *
          bounded (toRat ⟨2, -5000000000000000000⟩))) 1100 := by
  have hzero : (⟨2, -5000000000000000000⟩ : Decimal).product ⟨2, -5000000000000000000⟩ =
      .ok zero := by
    decide +kernel
  refine ⟨hzero, fun hexact => ?_⟩
  have hfits : FitsAt maxPlaces (toRat ⟨2, -5000000000000000000⟩) := fitsAt_toRat (by decide)
  have hlarge : 1 ≤ toRat ⟨2, -5000000000000000000⟩ := by
    rw [toRat_mk _ (show (-5000000000000000000 : Int64).toInt = -5000000000000000000 from rfl)]
    exact one_le_mul_of_one_le_of_one_le (by norm_num) (one_le_zpow₀ (by norm_num) (by norm_num))
  have hvalue := hexact.toRat_eq hzero
  have hsquare := one_le_mul_of_one_le_of_one_le hlarge hlarge
  have hmono := roundedAt_mono maxPlaces hsquare
  have hone : FitsAt maxPlaces 1 := by
    rw [← toRat_of_isOne (x := one) (by decide)]
    exact fitsAt_toRat (by decide)
  unfold bounded at hvalue
  rw [roundedAt_of_fitsAt hfits, toRat_zero] at hvalue
  rw [roundedAt_of_fitsAt hone, ← hvalue] at hmono
  exact absurd hmono (by norm_num)

end Formulary.Decimal
