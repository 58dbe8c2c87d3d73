-- The text of a number fixed to so many places. It is the plain form of the rounded number, except
-- that zero is written without places, and that a number below a millionth is written with an
-- exponent, as numbers are written everywhere.
import Formulary.Builtin.Math
import Formulary.Proofs.DigitRuns
import Formulary.Proofs.ExactOperations
import Formulary.Proofs.WholeArguments

namespace Formulary

namespace Decimal

/-! ## Written numbers -/

def signText (q : ℚ) : List Char := if q < 0 then ['-'] else []

/-- The point and the digits behind it, if there are any. -/
def pointed : List Char → List Char
  | [] => []
  | ds => '.' :: ds

/-- The plain form: a minus for a negative number, at least one digit before the point and exactly
so many behind it. -/
def Plain (places : Nat) (q : ℚ) (cs : List Char) : Prop :=
  ∃ whole fraction, cs = signText q ++ (whole ++ pointed fraction) ∧ whole ≠ [] ∧
    fraction.length = places ∧ (∀ c ∈ whole ++ fraction, c.isDigit = true) ∧
    |q| = digitsValue (whole ++ fraction) * 10 ^ (-(places : ℤ))

/-- The form with an exponent: one digit before the point, and the negative power of ten. -/
def Scientific (q : ℚ) (cs : List Char) : Prop :=
  ∃ d rest exponent,
    cs = signText q ++ (d :: pointed rest ++ 'E' :: '-' :: Nat.toDigits 10 exponent) ∧
    (∀ c ∈ d :: rest, c.isDigit = true) ∧
    |q| = digitsValue (d :: rest) * 10 ^ (-((rest.length + exponent : Nat) : ℤ))

theorem mem_pointed {c : Char} {ds : List Char} (h : c ∈ pointed ds) : c = '.' ∨ c ∈ ds := by
  cases ds with
  | nil => exact absurd h (by simp [pointed])
  | cons d ds => simpa [pointed] using h

/-- There is no other character in a plain form. -/
theorem Plain.mem {places : Nat} {q : ℚ} {cs : List Char} (h : Plain places q cs) :
    ∀ c ∈ cs, c = '-' ∨ c = '.' ∨ c.isDigit = true := by
  obtain ⟨whole, fraction, rfl, -, -, hdigits, -⟩ := h
  intro c hc
  rw [List.mem_append, List.mem_append] at hc
  rcases hc with hsign | hwhole | hpoint
  · unfold signText at hsign
    split at hsign <;> simp_all
  · exact .inr (.inr (hdigits c (List.mem_append_left _ hwhole)))
  · rcases mem_pointed hpoint with rfl | hfraction
    · exact .inr (.inl rfl)
    · exact .inr (.inr (hdigits c (List.mem_append_right _ hfraction)))

/-- Places are written behind a point. -/
theorem Plain.point_mem {places : Nat} {q : ℚ} {cs : List Char} (h : Plain places q cs)
    (hplaces : 0 < places) : '.' ∈ cs := by
  obtain ⟨whole, fraction, rfl, -, hlength, -, -⟩ := h
  cases fraction with
  | nil =>
    rw [List.length_nil] at hlength
    omega
  | cons d ds => simp [pointed]

/-! ## The form of a positive number -/

theorem withPoint_plain (n places : Nat) : ∃ whole fraction,
    withPoint (Nat.toDigits 10 n) places = whole ++ pointed fraction ∧ whole ≠ [] ∧
      fraction.length = places ∧ (∀ c ∈ whole ++ fraction, c.isDigit = true) ∧
      digitsValue (whole ++ fraction) = n := by
  have hdigits := isDigit_toDigits (n := n)
  have hvalue := digitsValue_toDigits n
  have hpos : 0 < (Nat.toDigits 10 n).length := Nat.length_toDigits_pos
  generalize Nat.toDigits 10 n = digits at hdigits hvalue hpos ⊢
  unfold withPoint
  by_cases hnone : places = 0
  · rw [if_pos hnone]
    refine ⟨digits, [], by simp [pointed], List.ne_nil_of_length_pos hpos, hnone.symm, ?_, ?_⟩
    · simpa using hdigits
    · simpa using hvalue
  · rw [if_neg hnone]
    by_cases hfew : digits.length ≤ places
    · rw [if_pos hfew]
      have hlength : (List.replicate (places - digits.length) '0' ++ digits).length = places := by
        simp
        omega
      refine ⟨['0'], List.replicate (places - digits.length) '0' ++ digits, ?_, by simp, hlength,
        ?_, ?_⟩
      · cases hfraction : List.replicate (places - digits.length) '0' ++ digits with
        | nil =>
          rw [hfraction, List.length_nil] at hlength
          omega
        | cons d ds => rfl
      · intro c hc
        simp only [List.singleton_append, List.mem_cons, List.mem_append, List.mem_replicate] at hc
        rcases hc with rfl | ⟨-, rfl⟩ | hc
        · decide
        · decide
        · exact hdigits c hc
      · rw [← hvalue]
        exact digitsValue_zeros (places - digits.length + 1) digits
    · rw [if_neg hfew]
      have hlength : (digits.drop (digits.length - places)).length = places := by
        simp
        omega
      refine ⟨digits.take (digits.length - places), digits.drop (digits.length - places), ?_, ?_,
        hlength, ?_, ?_⟩
      · cases hfraction : digits.drop (digits.length - places) with
        | nil =>
          rw [hfraction, List.length_nil] at hlength
          omega
        | cons d ds => rfl
      · apply List.ne_nil_of_length_pos
        simp
        omega
      · rwa [List.take_append_drop]
      · rwa [List.take_append_drop]

/-- With places but not too many zeros behind the point, the form is plain. -/
theorem magnitudeText_plain {n places : Nat} (h : ¬ 5 < (places : Int) - digitCount n) :
    magnitudeText n places = withPoint (Nat.toDigits 10 n) places := by
  unfold digitCount at h
  unfold magnitudeText
  dsimp only
  rw [if_neg h, if_neg (by omega)]
  split
  · have hnone : places = 0 := by omega
    subst hnone
    simp [withPoint]
  · rw [Int.toNat_natCast]

/-- With more zeros than that, it has an exponent. -/
theorem magnitudeText_scientific {n places : Nat} (h : 5 < (places : Int) - digitCount n) :
    ∃ d rest exponent, magnitudeText n places =
        d :: pointed rest ++ 'E' :: '-' :: Nat.toDigits 10 exponent ∧
      Nat.toDigits 10 n = d :: rest ∧ rest.length + exponent = places := by
  unfold digitCount at h
  unfold magnitudeText
  dsimp only
  rw [if_pos h]
  unfold scientific
  cases hdigits : Nat.toDigits 10 n with
  | nil => exact absurd hdigits Nat.toDigits_ne_nil
  | cons d rest =>
    rw [hdigits] at h
    refine ⟨d, rest, ((places : Int) - (d :: rest).length + 1).toNat, ?_, rfl, ?_⟩
    · cases rest <;> rfl
    · rw [List.length_cons] at h ⊢
      omega

/-! ## The form of a number with its sign -/

variable {z : Decimal} {places : Nat}

theorem render_of_ne_zero (hz : z.int ≠ 0) :
    z.render = signText z.toRat ++ magnitudeText z.int.natAbs z.scale := by
  have hsign : z.toRat < 0 ↔ z.int < 0 := by
    have hpos := ten_zpow_pos (-z.scale)
    rw [← Int.cast_lt_zero (R := ℚ)]
    exact ⟨fun h => neg_of_mul_neg_left h hpos.le, fun h => mul_neg_of_neg_of_pos h hpos⟩
  unfold render signText
  rw [if_neg hz]
  by_cases hneg : z.int < 0
  · rw [if_pos hneg, if_pos (hsign.mpr hneg)]
    rfl
  · rw [if_neg hneg, if_neg (mt hsign.mp hneg)]
    rfl

/-- From a millionth on, the form of a number is plain. -/
theorem plain_render (hscale : z.scale = places) (hsize : (10 : ℚ) ^ (-6 : ℤ) ≤ |z.toRat|) :
    Plain places z.toRat z.render := by
  have hz : z.int ≠ 0 := by
    intro hzero
    rw [toRat_eq_zero_iff.mpr hzero, abs_zero] at hsize
    exact absurd hsize (not_le.mpr (ten_zpow_pos _))
  have hdigits : ¬ 5 < (places : Int) - digitCount z.int.natAbs := by
    intro hfew
    have hlt := hsize.trans_lt (abs_toRat_lt z)
    rw [zpow_lt_zpow_iff_right₀ (by norm_num)] at hlt
    unfold magnitude digits at hlt
    omega
  obtain ⟨whole, fraction, htext, hwhole, hlength, hall, hvalue⟩ :=
    withPoint_plain z.int.natAbs places
  refine ⟨whole, fraction, ?_, hwhole, hlength, hall, ?_⟩
  · rw [render_of_ne_zero hz, hscale, magnitudeText_plain hdigits, htext]
  · rw [hvalue, abs_toRat, hscale]

/-- Below a millionth it has an exponent. -/
theorem scientific_render (hscale : z.scale = places) (hpos : 0 < |z.toRat|)
    (hsize : |z.toRat| < (10 : ℚ) ^ (-6 : ℤ)) : Scientific z.toRat z.render := by
  have hz : z.int ≠ 0 := by
    intro hzero
    rw [toRat_eq_zero_iff.mpr hzero, abs_zero] at hpos
    exact absurd hpos (lt_irrefl 0)
  have hdigits : 5 < (places : Int) - digitCount z.int.natAbs := by
    have hlt := (le_abs_toRat hz).trans_lt hsize
    rw [zpow_lt_zpow_iff_right₀ (by norm_num)] at hlt
    unfold magnitude digits at hlt
    omega
  obtain ⟨d, rest, exponent, htext, hall, hplaces⟩ := magnitudeText_scientific hdigits
  refine ⟨d, rest, exponent, ?_, ?_, ?_⟩
  · rw [render_of_ne_zero hz, hscale, htext]
  · rw [← hall]
    exact isDigit_toDigits
  · rw [← hall, digitsValue_toDigits, abs_toRat, hscale, hplaces]

/-- Zero has no places, whatever its scale is. -/
theorem render_of_eq_zero (hz : z.toRat = 0) : z.render = ['0'] := by
  unfold render
  rw [if_pos (toRat_eq_zero_iff.mp hz)]

/-- A whole number is plain. -/
theorem plain_render_whole (hscale : z.scale = 0) : Plain 0 z.toRat z.render := by
  by_cases hz : z.toRat = 0
  · rw [render_of_eq_zero hz, hz]
    exact ⟨['0'], [], by simp [signText, pointed], by simp, rfl, List.all_eq_true.mp rfl,
      by simp [digitsValue]⟩
  · refine plain_render hscale ?_
    have hint : z.int ≠ 0 := fun hint => hz (toRat_eq_zero_iff.mpr hint)
    have hone : (1 : ℚ) ≤ z.int.natAbs := by
      exact_mod_cast Int.natAbs_pos.mpr hint
    rw [abs_toRat, hscale, neg_zero, zpow_zero, mul_one]
    exact le_trans (by norm_num) hone

end Decimal

namespace Builtin

open Decimal

/-! ## The law -/

theorem run_fixedMethod {d : Decimal} {places : Nat} (hd : d.toRat = places)
    (hplaces : places ≤ 100) (x : Decimal) :
    fixedMethod.run [.number x, .number d] = .ok (.text (x.roundTo (.ofNat places)).toText) := by
  have htext : fixedText x places = .ok (x.roundTo (.ofNat places)).toText :=
    if_neg (Nat.not_lt.mpr hplaces)
  change (countArg "decimals" [.number x, .number d] 1 >>= fun places =>
    Value.text <$> fixedText x places) = _
  rw [countArg_of_toRat rfl hd, if_pos (by omega), ok_bind, htext]
  rfl

/-- The law of fixed places, for all numbers and up to a hundred places. The text stands for the
number rounded half away from zero. It is plain, with exactly so many digits behind the point, if
there are to be none or the rounded number is at least a millionth. Zero is written without places,
and a smaller number with an exponent. -/
theorem fixed_text {d : Decimal} {places : Nat} (hd : d.toRat = places) (hplaces : places ≤ 100)
    (x : Decimal) : ∃ text, fixedMethod.run [.number x, .number d] = .ok (.text text) ∧
      (places = 0 ∨ (10 : ℚ) ^ (-6 : ℤ) ≤ |roundedAt places x.toRat| →
        Plain places (roundedAt places x.toRat) text.toList) ∧
      (0 < places → roundedAt places x.toRat = 0 → text = "0") ∧
      (0 < |roundedAt places x.toRat| → |roundedAt places x.toRat| < (10 : ℚ) ^ (-6 : ℤ) →
        Scientific (roundedAt places x.toRat) text.toList) := by
  have hplace : (Int64.ofNat places).toInt = places := Int64.toInt_ofNat_of_lt (by omega)
  have hscale := scale_roundTo x (.ofNat places)
  have hvalue := toRat_roundTo x (.ofNat places)
  have hchars : (x.roundTo (.ofNat places)).toText.toList = (x.roundTo (.ofNat places)).render :=
    String.toList_ofList
  rw [hplace] at hscale hvalue
  refine ⟨_, run_fixedMethod hd hplaces x, ?_, ?_, ?_⟩ <;> rw [← hvalue]
  · rw [hchars]
    rintro (rfl | hsize)
    · exact plain_render_whole hscale
    · exact plain_render hscale hsize
  · intro _ hzero
    rw [toText, render_of_eq_zero hzero]
  · rw [hchars]
    exact scientific_render hscale

/-- Two and a half thousandths to three places, a tie. -/
theorem fixed_text_tie : (ofInt 3).toRat = (3 : Nat) ∧
    fixedMethod.run [.number ⟨-25, 4⟩, .number (ofInt 3)] = .ok (.text "-0.003") ∧
    (10 : ℚ) ^ (-6 : ℤ) ≤ |roundedAt 3 (toRat ⟨-25, 4⟩)| ∧
    Plain 3 (roundedAt 3 (toRat ⟨-25, 4⟩)) "-0.003".toList := by
  have hthree : (ofInt 3).toRat = (3 : Nat) := toRat_ofInt 3
  have hround : roundedAt 3 (toRat ⟨-25, 4⟩) = toRat ⟨-3, 3⟩ := (toRat_roundTo ⟨-25, 4⟩ 3).symm
  have hsize : (10 : ℚ) ^ (-6 : ℤ) ≤ |roundedAt 3 (toRat ⟨-25, 4⟩)| := by
    rw [hround, toRat_mk _ (show (3 : Int64).toInt = 3 from rfl)]
    norm_num
  have hrun : fixedMethod.run [.number ⟨-25, 4⟩, .number (ofInt 3)] = .ok (.text "-0.003") := by
    decide +kernel
  obtain ⟨text, htext, hplain, -⟩ := fixed_text hthree (by decide) ⟨-25, 4⟩
  rw [hrun] at htext
  cases htext
  exact ⟨hthree, hrun, hsize, hplain (.inr hsize)⟩

/-- Not all texts are plain: zero has no places, and a ten-millionth has an exponent. -/
theorem not_always_plain :
    (fixedMethod.run [.number zero, .number (ofInt 2)] = .ok (.text "0") ∧
      ¬ Plain 2 (roundedAt 2 zero.toRat) "0".toList) ∧
    fixedMethod.run [.number ⟨1, 7⟩, .number (ofInt 7)] = .ok (.text "1E-7") ∧
      ¬ Plain 7 (roundedAt 7 (toRat ⟨1, 7⟩)) "1E-7".toList := by
  refine ⟨⟨by decide +kernel, fun hplain => ?_⟩, by decide +kernel, fun hplain => ?_⟩
  · exact absurd (hplain.point_mem (by decide)) (by decide)
  · have hmark := hplain.mem 'E' (by decide)
    exact absurd hmark (by decide)

end Builtin

end Formulary
