-- Powers with a whole exponent. Repeated squaring rounds after every product, but where all places
-- of the power fit within the bound there is never anything to be rounded, and the power is exact.
-- A negative exponent divides one by that power.
import Formulary.Proofs.ExactExponents
import Formulary.Proofs.ExactOperations
import Formulary.Proofs.ShortQuotients

namespace Formulary.Decimal

variable {x y : Decimal} {q : ℚ} {a b m n : Nat}

/-! ## Products without trailing zeros -/

/-- Where the digits of both factors fit, the product is exact, and the bound takes nothing away. -/
theorem toRat_bound_mulNormalized (hx : DigitsWithin a m x.toRat) (hy : DigitsWithin b n y.toRat)
    (hxscale : x.scale ≤ maxPlaces) (hyscale : y.scale ≤ maxPlaces)
    (hplaces : (a + b : Nat) ≤ maxPlaces) (hdigits : m + n ≤ 4611686018427387904) :
    (bound (x.mulNormalized y)).toRat = x.toRat * y.toRat := by
  have hvalue : (x.mulNormalized y).toRat = x.toRat * y.toRat := by
    unfold mulNormalized
    split
    · rename_i hone
      rw [toRat_normalized_of_lt hy.lt (by omega), toRat_of_isOne hone, one_mul]
    · split
      · rename_i hone
        rw [toRat_normalized_of_lt hx.lt (by omega), toRat_of_isOne hone, mul_one]
      · exact toRat_mul (hx.hasProduct hy hxscale hyscale hdigits)
  rw [toRat_bound, hvalue, roundedAt_of_fitsAt (fitsAt_mono (hx.mul hy).fits hplaces)]

/-! ## Squarings without rounding -/

namespace Squaring

variable {s t : Squaring} {k : Nat}

/-- What is still to be multiplied gives the power `q`, and has room for all of its digits. -/
structure Carries (s : Squaring) (q : ℚ) : Prop where
  value : s.result.toRat * s.square.toRat ^ s.exponent = q
  room : ∃ a b m n : Nat, DigitsWithin a m s.result.toRat ∧ DigitsWithin b n s.square.toRat ∧
    (a + b * s.exponent : Nat) ≤ maxPlaces ∧ m + n * s.exponent ≤ 4611686018427387904
  result_scale : s.result.scale ≤ maxPlaces
  square_scale : s.square.scale ≤ maxPlaces

/-- The result takes in the square if the last bit of the exponent is set. -/
theorem toRat_result_round (hs : s.Carries q) (hresult : DigitsWithin a m s.result.toRat)
    (hsquare : DigitsWithin b n s.square.toRat)
    (hplaces : (a + b * (s.exponent % 2) : Nat) ≤ maxPlaces)
    (hdigits : m + n * (s.exponent % 2) ≤ 4611686018427387904) :
    s.round.result.toRat = s.result.toRat * s.square.toRat ^ (s.exponent % 2) := by
  unfold round
  dsimp only
  split
  · rename_i hodd
    rw [hodd, Nat.mul_one] at hplaces hdigits
    rw [hodd, pow_one]
    exact toRat_bound_mulNormalized hresult hsquare hs.result_scale hs.square_scale hplaces hdigits
  · rename_i heven
    have hzero : s.exponent % 2 = 0 := by omega
    rw [hzero, pow_zero, mul_one]

/-- The square is squared, unless nothing is left of the exponent. -/
theorem toRat_square_round (hs : s.Carries q) (hsquare : DigitsWithin b n s.square.toRat)
    (hplaces : (b * 2 * (s.exponent / 2) : Nat) ≤ maxPlaces)
    (hdigits : n * 2 * (s.exponent / 2) ≤ 4611686018427387904) (hlast : s.exponent / 2 ≠ 0) :
    s.round.square.toRat = s.square.toRat ^ 2 := by
  have hroom := Nat.le_mul_of_pos_right (b * 2) (Nat.pos_of_ne_zero hlast)
  have hroom' := Nat.le_mul_of_pos_right (n * 2) (Nat.pos_of_ne_zero hlast)
  unfold round
  dsimp only
  rw [if_neg hlast, pow_two]
  exact toRat_bound_mulNormalized hsquare hsquare hs.square_scale hs.square_scale (by omega)
    (by omega)

/-- No round leaves more than 1100 places. -/
theorem scale_round_le (hs : s.Carries q) :
    s.round.result.scale ≤ maxPlaces ∧ s.round.square.scale ≤ maxPlaces := by
  unfold round
  dsimp only
  constructor
  · split
    · exact scale_bound_le _
    · exact hs.result_scale
  · split
    · exact hs.square_scale
    · exact scale_bound_le _

/-- A round keeps the power and its room. -/
theorem Carries.round (h : s.Carries q) : s.round.Carries q := by
  obtain ⟨a, b, m, n, hresult, hsquare, hplaces, hdigits⟩ := h.room
  have hbits : s.exponent % 2 + 2 * (s.exponent / 2) = s.exponent := Nat.mod_add_div _ _
  have hsplit : ∀ c : Nat, c * s.exponent = c * (s.exponent % 2) + c * 2 * (s.exponent / 2) := by
    intro c
    rw [Nat.mul_assoc, ← Nat.mul_add, hbits]
  rw [hsplit] at hplaces hdigits
  have hvalue := toRat_result_round h hresult hsquare (by omega) (by omega)
  obtain ⟨hresultScale, hsquareScale⟩ := scale_round_le h
  have hexponent : s.round.exponent = s.exponent / 2 := rfl
  have hnext : DigitsWithin (a + b * (s.exponent % 2)) (m + n * (s.exponent % 2))
      s.round.result.toRat := by
    rw [hvalue]
    exact hresult.mul (hsquare.pow _)
  have hpower := h.value
  rw [← hbits, pow_add, pow_mul, ← mul_assoc, ← hvalue] at hpower
  by_cases hlast : s.exponent / 2 = 0
  · have hsame : s.round.square = s.square := if_pos hlast
    refine ⟨?_, ⟨_, b, _, n, hnext, ?_, ?_, ?_⟩, hresultScale, hsquareScale⟩
    · rw [hexponent, ← hpower, hlast, pow_zero, pow_zero]
    · rwa [hsame]
    · rw [hexponent, hlast]
      omega
    · rw [hexponent, hlast]
      omega
  · have hsquared := toRat_square_round h hsquare (by omega) (by omega) hlast
    refine ⟨?_, ⟨_, b * 2, _, n * 2, hnext, ?_, ?_, ?_⟩, hresultScale, hsquareScale⟩
    · rw [hexponent, hsquared, hpower]
    · rw [hsquared]
      exact hsquare.pow 2
    · rw [hexponent]
      omega
    · rw [hexponent]
      omega

/-- The whole loop comes to the power. -/
theorem Runs.carries (h : s.Runs k t) (hs : s.Carries q) :
    t.result.toRat = q ∧ t.result.scale ≤ maxPlaces := by
  induction h with
  | done hzero =>
    have hvalue := hs.value
    rw [hzero, pow_zero, mul_one] at hvalue
    exact ⟨hvalue, hs.result_scale⟩
  | round _ _ ih => exact ih hs.round

end Squaring

/-- The places of a number are enough for the base of a power, if they are for the power. -/
theorem scale_le_maxPlaces {n : Nat} (hn : n ≠ 0) (hscale : x.scale * n ≤ maxPlaces) :
    x.scale ≤ maxPlaces := by
  by_cases hsign : x.scale ≤ 0
  · exact hsign.trans (by decide)
  · have hone : (1 : Int) ≤ n := by exact_mod_cast Nat.pos_of_ne_zero hn
    exact (le_mul_of_one_le_right (by omega) hone).trans hscale

theorem toNat_scale_mul_le {n : Nat} (hscale : x.scale * n ≤ maxPlaces) :
    ((x.scale.toNat * n : Nat) : ℤ) ≤ maxPlaces := by
  rw [Nat.cast_mul]
  by_cases hsign : 0 ≤ x.scale
  · rwa [Int.toNat_of_nonneg hsign]
  · rw [Int.toNat_of_nonpos (by omega), Nat.cast_zero, zero_mul]
    decide

/-- Before the first round there is room for the power, if the base is within reach and its places
are enough for the power. -/
theorem Squaring.carries_start {e : Int64} (hsmall : e.toInt.natAbs ≤ 4096) (hx : x.InReach)
    (hscale : x.scale * e.toInt.natAbs ≤ maxPlaces) (hne : e.toInt.natAbs ≠ 0) :
    (x.squaringStart e).Carries (x.toRat ^ e.toInt.natAbs) := by
  have hone : one.toRat = 1 := toRat_of_isOne (by decide)
  have hbound : x.bound = x := bound_eq_self (scale_le_maxPlaces hne hscale)
  unfold squaringStart
  rw [hbound]
  refine ⟨by rw [hone, one_mul], ⟨0, x.scale.toNat, 0, 2147483700, ?_, hx.digitsWithin, ?_, ?_⟩, ?_,
    scale_le_maxPlaces hne hscale⟩
  · rw [hone]
    exact digitsWithin_one
  · rw [Nat.zero_add]
    exact toNat_scale_mul_le hscale
  · dsimp only
    omega
  · change one.scale ≤ maxPlaces
    decide

/-- Squarings with room for all digits are exact. -/
theorem exactSquarings_exact {e : Int64} (hsmall : e.toInt.natAbs ≤ 4096) (hx : x.InReach)
    (hscale : x.scale * e.toInt.natAbs ≤ maxPlaces) :
    (exactSquarings one x.bound e.toInt.natAbs).toRat = x.toRat ^ e.toInt.natAbs ∧
      (exactSquarings one x.bound e.toInt.natAbs).scale ≤ maxPlaces := by
  by_cases hzero : e.toInt.natAbs = 0
  · rw [hzero, exactSquarings, if_pos rfl, pow_zero]
    exact ⟨toRat_of_isOne (by decide), by decide⟩
  · obtain ⟨k, t, hruns⟩ := (x.squaringStart e).exists_runs
    have hresult : t.result = exactSquarings one x.bound e.toInt.natAbs := hruns.result_eq
    rw [← hresult]
    exact hruns.carries (Squaring.carries_start hsmall hx hscale hzero)

/-! ## The power -/

/-- The power by squarings, and one divided by it for a negative exponent. -/
def squaredPower (x : Decimal) (e : Int64) : Except Fault Decimal :=
  if e < 0 then one.quotient (exactSquarings one x.bound e.toInt.natAbs)
  else finite (exactSquarings one x.bound e.toInt.natAbs)

theorem toInt_toInt32 {e : Int64} (h : e.toInt.natAbs ≤ 4096) : e.toInt32.toInt = e.toInt := by
  rw [Int64.toInt_toInt32]
  exact Int.bmod_eq_of_le (by omega) (by omega)

/-- The estimate refuses the power or takes it for zero, or the power is computed. Then the base is
not beyond all bounds, unless its exponent is zero. -/
theorem exactPower_cases (x : Decimal) {e : Int64} (hsmall : e.toInt.natAbs ≤ 4096) :
    x.exactPower e = .error .tooLarge ∨ x.exactPower e = .ok zero ∨
      x.exactPower e = x.squaredPower e ∧ (e.toInt = 0 ∨ x.InReach) := by
  unfold exactPower
  dsimp only
  split
  · exact .inl rfl
  · rename_i hfinite
    split
    · exact .inr (.inl rfl)
    · rename_i hzero
      refine .inr (.inr ⟨rfl, ?_⟩)
      by_cases hnull : x.isZero = true
      · right
        exact inReach_of_toRat_eq_zero (toRat_eq_zero_iff.mpr (beq_iff_eq.mp hnull))
      · rw [toInt_toInt32 hsmall] at hfinite hzero
        rw [Bool.not_eq_true] at hnull
        rw [hnull] at hfinite hzero
        refine or_iff_not_imp_left.mpr fun hexponent => inReach_of_isFinite ?_
        unfold isFinite
        cases hdouble : x.toBinary64 with
        | finite m k => rfl
        | infinite =>
          rw [hdouble] at hfinite hzero
          rcases Binary64.power_infinite hexponent with hlarge | hsmall
          · simp [hlarge] at hfinite
          · simp [hsmall] at hzero

/-- A power that is not zero has been computed. -/
theorem squaredPower_of_ok {x r : Decimal} {e : Int64} (hsmall : e.toInt.natAbs ≤ 4096)
    (h : x.exactPower e = .ok r) (hne : r.toRat ≠ 0) :
    x.squaredPower e = .ok r ∧ (e.toInt = 0 ∨ x.InReach) := by
  rcases exactPower_cases x hsmall with hrefused | hnull | ⟨hcomputed, hlt⟩
  · rw [h] at hrefused
    cases hrefused
  · rw [h] at hnull
    cases hnull
    exact absurd toRat_zero hne
  · exact ⟨hcomputed.symm.trans h, hlt⟩

theorem squaredPower_of_error {x : Decimal} {e : Int64} {fault : Fault}
    (hsmall : e.toInt.natAbs ≤ 4096) (h : x.exactPower e = .error fault) :
    fault = .tooLarge ∨ x.squaredPower e = .error fault ∧
      (e.toInt = 0 ∨ x.InReach) := by
  rcases exactPower_cases x hsmall with hrefused | hnull | ⟨hcomputed, hlt⟩
  · rw [h] at hrefused
    cases hrefused
    exact .inl rfl
  · rw [h] at hnull
    cases hnull
  · exact .inr ⟨hcomputed.symm.trans h, hlt⟩

theorem power_zero {x : Decimal} (hy : exactExponent? y = some 0) : x.power y = .ok one := by
  have hestimate : ∀ z : Binary64, z.power 0 = Binary64.one := by
    intro z
    unfold Binary64.power
    simp [Binary64.squarings]
  have hsquarings : exactSquarings one x.bound 0 = one := by
    rw [exactSquarings, if_pos rfl]
  have hfinite : finite one = .ok one := by decide +kernel
  rw [power_of_exactExponent? hy]
  unfold exactPower
  have hexponent : (0 : Int64).toInt32.toInt = 0 := rfl
  rw [hexponent, hestimate]
  change (if _ then _ else if _ then _ else if _ then _
    else finite (exactSquarings one x.bound 0)) = _
  rw [hsquarings, hfinite]
  simp [Binary64.one, Binary64.isFinite, Binary64.isZero]

theorem eq_tooLarge_of_finite {x : Decimal} {fault : Fault} (h : x.finite = .error fault) :
    fault = .tooLarge := by
  unfold finite at h
  split at h
  · cases h
  · cases h
    rfl

theorem fault_of_quotient {x y : Decimal} {fault : Fault} (h : x.quotient y = .error fault) :
    fault = .tooLarge ∨ y.bound.isZero = true ∧ fault = .divisionByZero := by
  unfold quotient at h
  split at h
  · rename_i hdivisor
    cases h
    exact .inr ⟨hdivisor, rfl⟩
  · exact .inl (eq_tooLarge_of_finite h)

/-- One can be divided by any number with few digits. -/
theorem DigitsWithin.hasQuotient_one {z : Decimal} (h : DigitsWithin a m z.toRat)
    (ha : (a : ℤ) ≤ maxPlaces) (hm : m ≤ 4611686018427387904) (hne : z.toRat ≠ 0) :
    HasQuotient one.bound z.bound := by
  have hone : one.bound.scale = 0 := by decide
  have hvalue : z.bound.toRat = z.toRat := toRat_bound_of_fitsAt (fitsAt_mono h.fits ha)
  rw [← hvalue] at h hne
  have hmagnitude := (h.scale (mt toRat_eq_zero_iff.mpr hne)).2
  have hscale := scale_bound_le z
  unfold maxPlaces at hscale
  apply hasQuotient_of_le <;> rw [hone] <;> omega

/-- The reciprocal of a power depends on the value of the power alone. -/
theorem quotient_one_congr {z r : Decimal} {n : Nat} (hsmall : n ≤ 4096) (hx : x.InReach)
    (hscale : x.scale * n ≤ maxPlaces) (hz : z.toRat = x.toRat ^ n) (hr : one.quotient z = .ok r)
    {z' : Decimal} (hz' : z'.toRat = x.toRat ^ n) : one.quotient z' = .ok r := by
  have hdigits := hx.digitsWithin.pow n
  have hplaces := toNat_scale_mul_le hscale
  have hne : x.toRat ^ n ≠ 0 := by
    intro hzero
    have hnull : z.bound.isZero = true := by
      rw [isZero, beq_iff_eq, ← toRat_eq_zero_iff, toRat_bound, hz, hzero, roundedAt_zero]
    rw [quotient, if_pos hnull] at hr
    cases hr
  rw [← hr]
  apply quotient_congr (by decide) (hz'.trans hz.symm)
  · rw [← hz'] at hdigits hne
    exact hdigits.hasQuotient_one hplaces (by omega) hne
  · rw [← hz] at hdigits hne
    exact hdigits.hasQuotient_one hplaces (by omega) hne

/-- The law of whole exponents, for a base whose places, taken as often as the exponent says, fit
within 1100. The power zero is one. What comes out of any other power is zero, or it is exactly the
power, and for a negative exponent one divided by it. A power is refused only if it is too large, or
if one would have to be divided by zero. -/
theorem power_exact {x y : Decimal} {n : ℤ} (hy : y.toRat = n) (hsmall : |n| ≤ 4096)
    (hscale : x.scale * |n| ≤ maxPlaces) :
    (n = 0 → x.power y = .ok one) ∧
    (∀ r, x.power y = .ok r → r.toRat ≠ 0 →
      (0 ≤ n → r.toRat = x.toRat ^ n.natAbs) ∧
      (n < 0 → ∀ p : Decimal, p.toRat = x.toRat ^ n.natAbs → one.quotient p = .ok r)) ∧
    ∀ fault, x.power y = .error fault →
      fault = .tooLarge ∨ n < 0 ∧ x.toRat = 0 ∧ fault = .divisionByZero := by
  obtain ⟨e, he, rfl⟩ : ∃ e, exactExponent? y = some e ∧ e.toInt = n := by
    have hint : (Int64.ofInt n).toInt = n := by
      rw [Int.abs_eq_natAbs] at hsmall
      exact Int64.toInt_ofInt_of_le (by omega) (by omega)
    exact ⟨Int64.ofInt n, (exactExponent?_eq_some_iff hy).mpr ⟨hint, .inl hsmall⟩, hint⟩
  rw [Int.abs_eq_natAbs] at hscale hsmall
  replace hsmall : e.toInt.natAbs ≤ 4096 := by omega
  have hsign : e < 0 ↔ e.toInt < 0 := Int64.lt_iff_toInt_lt
  have hzero : e.toInt = 0 → x.power y = .ok one := by
    intro hzero
    have he0 : e = 0 := Int64.toInt_inj.mp hzero
    exact power_zero (he0 ▸ he)
  refine ⟨hzero, fun r hr hne => ⟨fun hnonneg => ?_, fun hneg p hp => ?_⟩, fun fault hfault => ?_⟩
  · by_cases hexponent : e.toInt = 0
    · rw [hzero hexponent] at hr
      cases hr
      rw [hexponent, Int.natAbs_zero, pow_zero]
      exact toRat_of_isOne (by decide)
    · rw [power_of_exactExponent? he] at hr
      obtain ⟨hcomputed, hreach⟩ := squaredPower_of_ok hsmall hr hne
      obtain ⟨hvalue, -⟩ := exactSquarings_exact hsmall (hreach.resolve_left hexponent) hscale
      rw [squaredPower, if_neg (by rw [hsign]; omega)] at hcomputed
      rw [eq_of_finite hcomputed, hvalue]
  · rw [power_of_exactExponent? he] at hr
    obtain ⟨hcomputed, hreach⟩ := squaredPower_of_ok hsmall hr hne
    have hx : x.InReach := hreach.resolve_left hneg.ne
    obtain ⟨hvalue, -⟩ := exactSquarings_exact hsmall hx hscale
    rw [squaredPower, if_pos (hsign.mpr hneg)] at hcomputed
    exact quotient_one_congr hsmall hx hscale hvalue hcomputed hp
  · rw [power_of_exactExponent? he] at hfault
    rcases squaredPower_of_error hsmall hfault with hlarge | ⟨hcomputed, hreach⟩
    · exact .inl hlarge
    · by_cases hneg : e.toInt < 0
      · obtain ⟨hvalue, hplaces⟩ :=
          exactSquarings_exact hsmall (hreach.resolve_left hneg.ne) hscale
        rw [squaredPower, if_pos (hsign.mpr hneg)] at hcomputed
        rcases fault_of_quotient hcomputed with hlarge | ⟨hdivisor, hfault⟩
        · exact .inl hlarge
        · rw [bound_eq_self hplaces] at hdivisor
          have hnull := toRat_eq_zero_iff.mpr (beq_iff_eq.mp hdivisor)
          rw [hvalue] at hnull
          exact .inr ⟨hneg, pow_eq_zero_iff (by omega) |>.mp hnull, hfault⟩
      · rw [squaredPower, if_neg (by rw [hsign]; exact hneg)] at hcomputed
        exact .inl (eq_tooLarge_of_finite hcomputed)

/-- The square of 1.1, and the reciprocal of the fourth power of 2.5. -/
theorem power_exact_square :
    toRat ⟨20, 1⟩ = ((2 : ℤ) : ℚ) ∧ (⟨11, 1⟩ : Decimal).power ⟨20, 1⟩ = .ok ⟨121, 2⟩ ∧
      toRat ⟨121, 2⟩ = toRat ⟨11, 1⟩ ^ 2 ∧
      toRat ⟨-4, 0⟩ = ((-4 : ℤ) : ℚ) ∧ (⟨25, 1⟩ : Decimal).power ⟨-4, 0⟩ = .ok ⟨256, 4⟩ ∧
      toRat ⟨3906250, 5⟩ = toRat ⟨25, 1⟩ ^ 4 ∧ one.quotient ⟨3906250, 5⟩ = .ok ⟨256, 4⟩ := by
  have hone : (1 : Int64).toInt = 1 := rfl
  have htwo : toRat ⟨20, 1⟩ = ((2 : ℤ) : ℚ) := by
    rw [toRat_mk _ hone]
    norm_num
  have hfour : toRat ⟨-4, 0⟩ = ((-4 : ℤ) : ℚ) := toRat_ofInt (-4)
  have hpower : toRat ⟨3906250, 5⟩ = toRat ⟨25, 1⟩ ^ 4 := by
    rw [toRat_mk _ hone, toRat_mk _ (show (5 : Int64).toInt = 5 from rfl)]
    norm_num
  have hsquare : (⟨11, 1⟩ : Decimal).power ⟨20, 1⟩ = .ok ⟨121, 2⟩ := by decide +kernel
  have hinverse : (⟨25, 1⟩ : Decimal).power ⟨-4, 0⟩ = .ok ⟨256, 4⟩ := by decide +kernel
  obtain ⟨-, hexact, -⟩ := power_exact (x := ⟨11, 1⟩) htwo (by decide) (by decide)
  obtain ⟨-, hdivided, -⟩ := power_exact (x := ⟨25, 1⟩) hfour (by decide) (by decide)
  refine ⟨htwo, hsquare, ?_, hfour, hinverse, hpower, ?_⟩
  · exact (hexact _ hsquare (mt toRat_eq_zero_iff.mp (by decide))).1 (by decide)
  · exact (hdivided _ hinverse (mt toRat_eq_zero_iff.mp (by decide))).2 (by decide) _ hpower

end Formulary.Decimal
