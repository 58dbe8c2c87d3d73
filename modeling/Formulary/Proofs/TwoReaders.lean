-- The text of a number that stands alone in a formula can also be made a number by a method. Both
-- readers take the text apart in the same way. The scanner then reads zero where the double is
-- zero, and the method rounds to the places that results have, and looks at the double after that.
import Formulary.Proofs.Literals
import Formulary.Proofs.NumberTexts

namespace Formulary

open Decimal (bounded maxPlaces powerMarks)

/-! ## What each reader makes of a literal -/

namespace SignedLiteral

variable {l : SignedLiteral}

/-- The number that the scanner reads. -/
def scanned (l : SignedLiteral) : Decimal :=
  if l.number.toBinary64.isZero then .zero else l.number

/-- The places of results are enough for the literal. One that the scanner reads as zero must be
rounded to zero as well. -/
def ReadAlike (l : SignedLiteral) : Prop :=
  if l.number.toBinary64.isZero then |l.toRat| < 1 / 2 * 10 ^ (-maxPlaces)
  else FitsAt maxPlaces l.toRat

/-- A literal that is accepted has a scale, and is within the doubles. -/
theorem evaluate_eq_ok {cs : List Char} {x : Decimal}
    (hread : NumberLiteral.read? cs = some l.literal)
    (h : NumberLiteral.evaluate cs l.negative = .ok x) :
    l.HasScale ∧ l.number.isFinite = true ∧ x = l.scanned := by
  by_cases hscale : l.HasScale
  · rw [evaluate_of_hasScale hread hscale] at h
    unfold scanned
    split_ifs at h with hfinite hzero
    · rw [if_pos hzero]
      exact ⟨hscale, by simpa using hfinite, (Except.ok.inj h).symm⟩
    · rw [if_neg hzero]
      exact ⟨hscale, by simpa using hfinite, (Except.ok.inj h).symm⟩
  · rw [evaluate_of_not_hasScale hread hscale] at h
    cases h

/-- From `10 ^ (-300)` on, the scanner reads what is written. -/
theorem scanned_of_le (hscale : l.HasScale) (h : (10 : ℚ) ^ (-300 : ℤ) ≤ |l.toRat|) :
    l.scanned = l.number := by
  rw [abs_toRat] at h
  have hzero : l.number.toBinary64.isZero = false := by
    rw [toBinary64_number hscale]
    exact Decimal.isZero_approximate h
  unfold scanned
  rw [hzero, if_neg (by decide)]

/-- Below `10 ^ (-400)` it reads zero. -/
theorem scanned_of_lt (hscale : l.HasScale) (hfinite : l.number.isFinite = true)
    (h : |l.toRat| < 10 ^ (-400 : ℤ)) : l.scanned = .zero := by
  have hzero : l.number.toBinary64.isZero = true := by
    rw [Decimal.isFinite] at hfinite
    rw [toBinary64_number hscale] at hfinite ⊢
    by_cases hint : l.int = 0
    · rw [hint]
      rfl
    · rw [abs_toRat] at h
      have happrox := Decimal.approximate_tiny (Int.natAbs_ne_zero.mpr hint) h
      split at happrox
      · exact happrox.2
      · rw [happrox] at hfinite
        cases hfinite
  unfold scanned
  rw [if_pos hzero]

theorem bounded_eq_scanned_iff (h : l.HasScale) :
    bounded l.toRat = l.scanned.toRat ↔ l.ReadAlike := by
  unfold bounded scanned ReadAlike
  by_cases hzero : l.number.toBinary64.isZero = true
  · rw [if_pos hzero, if_pos hzero, Decimal.toRat_zero, roundedAt_eq_zero_iff]
  · rw [if_neg hzero, if_neg hzero, toRat_number h, roundedAt_eq_self_iff]

/-- With no more places than results have, or up to `10 ^ 300`, the rounded number is within the
doubles. -/
theorem exists_finite_bound (hhas : l.HasScale) (hfinite : l.number.isFinite = true)
    (h : l.scale ≤ maxPlaces ∨ |l.toRat| ≤ 10 ^ (300 : ℤ)) :
    ∃ w, l.number.bound.finite = .ok w := by
  rcases h with hscale | hsize
  · have hbound : l.number.bound = l.number :=
      Decimal.bound_eq_self ((scale_number hhas).trans_le hscale)
    refine ⟨l.number, ?_⟩
    rw [hbound, Decimal.finite, if_pos hfinite]
  · have hfits : FitsAt maxPlaces (10 ^ (300 : ℤ)) := by
      rw [zpow_ofNat]
      exact fitsAt_mono (fitsAt_ten_pow 300) (by decide)
    refine ⟨l.number.bound, Decimal.finite_of_le (Decimal.scale_bound_le l.number) ?_⟩
    rw [Decimal.toRat_bound, toRat_number hhas]
    exact abs_roundedAt_le hfits hsize

end SignedLiteral

/-! ## A number alone -/

namespace Written

/-- A number alone in a formula is written with nothing but blanks around it. -/
theorem exists_numeral_of_tokenize {text : String} {span : Span} {v : Decimal}
    (h : tokenize text = .ok [.value span (.number v)]) :
    ∃ (n : Numeral) (before after : Blanks),
      text.toList = before.chars ++ (n.chars ++ after.chars) ∧ v = n.value := by
  obtain ⟨⟨before, level, after⟩, hchars, hnodes⟩ := exists_written_of_tokenize h
  rw [Padded.nodes] at hnodes
  cases level with
  | text t => cases hnodes
  | chain first rest =>
    cases rest with
    | nil =>
      have hnode := (List.cons.inj hnodes).1
      cases first with
      | number n =>
        rw [Operand.node] at hnode
        cases hnode
        refine ⟨n, before, after, ?_, rfl⟩
        rw [hchars]
        simp [Padded.chars, Level.chars, Operand.chars, Tail.chars]
      | _ => cases hnode
    | more before op after operand apart rest =>
      have htail := (List.cons.inj hnodes).2
      rw [Tail.nodes] at htail
      cases htail

/-- What the scanner reads is in parts that the method reads. -/
theorem writtenAs_powerMarks {cs : List Char} {l : NumberLiteral}
    (h : NumberLiteral.read? cs = some l) : l.WrittenAs powerMarks cs :=
  (writtenAs_of_read? h).mono (by simp [powerMarks])

variable (n : Numeral) {l : SignedLiteral} {text : String}

theorem Numeral.trim_eq (before after : Blanks)
    (htext : text.toList = before.chars ++ (n.chars ++ after.chars)) :
    (Text.trim text).toList = n.chars := by
  obtain ⟨literal, hread⟩ := exists_read?_of_evaluate n.reads
  exact Builtin.trim_writtenAs (writtenAs_powerMarks hread) n.isSign before.blank after.blank htext

/-- The method takes a numeral apart as the scanner does, and rounds what is written. -/
theorem Numeral.numberOfText_eq (hread : NumberLiteral.read? n.literal = some l.literal)
    (hsign : l.negative = (n.sign == some .subtract)) (htrim : (Text.trim text).toList = n.chars) :
    Builtin.numberOfText text = l.number.bound.finite := by
  have hreads := n.reads
  rw [← hsign] at hreads
  obtain ⟨hscale, -, -⟩ := SignedLiteral.evaluate_eq_ok hread hreads
  have hvalue : l.literal.value? l.negative = some l.number := if_pos hscale
  have hnumber := Builtin.numberOfText_writtenAs (writtenAs_powerMarks hread) n.isSign htrim
  rw [← hsign, hvalue] at hnumber
  exact hnumber

end Written

/-! ## The law -/

namespace Builtin

/-- The law of the two readers, for every text that the scanner reads as a number alone. It is a
literal for both of them, with a scale. The scanner reads what is written, and zero where the double
is zero: never from `10 ^ (-300)` on, and always below `10 ^ (-400)`. The method rounds what is
written to 1100 places; only a number beyond `10 ^ 300` with more places may then be too large. The
two numbers are equal where the places are enough. -/
theorem toNumber_of_tokenize {text : String} {span : Span} {v : Decimal}
    (h : tokenize text = .ok [.value span (.number v)]) :
    ∃ l : SignedLiteral, SignedLiteral.read? (Text.trim text).toList = some l ∧ l.HasScale ∧
      v = l.scanned ∧
      ((10 : ℚ) ^ (-300 : ℤ) ≤ |l.toRat| → v = l.number) ∧
      (|l.toRat| < 10 ^ (-400 : ℤ) → v = .zero) ∧
      toNumber (.text text) = l.number.bound.finite ∧
      (l.scale ≤ maxPlaces ∨ |l.toRat| ≤ 10 ^ (300 : ℤ) → ∃ w, toNumber (.text text) = .ok w) ∧
      ∀ w, toNumber (.text text) = .ok w →
        w.toRat = bounded l.toRat ∧ (w.toRat = v.toRat ↔ l.ReadAlike) := by
  obtain ⟨n, before, after, htext, rfl⟩ := Written.exists_numeral_of_tokenize h
  obtain ⟨l, hsigned, hread, hsign⟩ := n.exists_literal
  have htrim := n.trim_eq before after htext
  have hreads := n.reads
  rw [← hsign] at hreads
  obtain ⟨hscale, hfinite, hscanned⟩ := SignedLiteral.evaluate_eq_ok hread hreads
  have hnumber : toNumber (.text text) = l.number.bound.finite := by
    rw [toNumber_text, n.numberOfText_eq hread hsign htrim]
  refine ⟨l, ?_, hscale, hscanned, ?_, ?_, hnumber, ?_, ?_⟩
  · rw [htrim, hsigned]
  · intro hlow
    rw [hscanned, SignedLiteral.scanned_of_le hscale hlow]
  · intro htiny
    rw [hscanned, SignedLiteral.scanned_of_lt hscale hfinite htiny]
  · intro hwithin
    rw [hnumber]
    exact SignedLiteral.exists_finite_bound hscale hfinite hwithin
  · intro w hw
    rw [hnumber] at hw
    have hvalue : w.toRat = bounded l.toRat := by
      rw [Decimal.eq_of_finite hw, Decimal.toRat_bound, SignedLiteral.toRat_number hscale]
      rfl
    refine ⟨hvalue, ?_⟩
    rw [hvalue, hscanned, SignedLiteral.bounded_eq_scanned_iff hscale]

/-- A literal with blanks around it, and with a trailing zero in its fraction. -/
theorem toNumber_of_tokenize_spaced :
    tokenize " -1.50e-3 " = .ok [.value ⟨1, "-1.50e-3"⟩ (.number ⟨-150, 5⟩)] ∧
      ∃ w : Decimal, toNumber (.text " -1.50e-3 ") = .ok w ∧
        w.toRat = (⟨-150, 5⟩ : Decimal).toRat := by
  have htokens : tokenize " -1.50e-3 " =
      .ok [.value ⟨1, "-1.50e-3"⟩ (.number ⟨-150, 5⟩)] := rfl
  obtain ⟨l, hread, -, -, -, -, -, hok, hvalue⟩ := toNumber_of_tokenize htokens
  have hliteral : SignedLiteral.read? (Text.trim " -1.50e-3 ").toList =
      some ⟨true, ⟨['1'], ['5', '0'], -3⟩⟩ := rfl
  rw [hliteral] at hread
  cases hread
  obtain ⟨w, hw⟩ := hok (.inl (by decide))
  refine ⟨htokens, w, hw, ((hvalue w hw).2).mpr ?_⟩
  unfold SignedLiteral.ReadAlike
  rw [if_neg (by decide)]
  exact Decimal.fitsAt_toRat (x := ⟨-150, 5⟩) (by decide)

end Builtin

namespace Written

/-- One and a last digit at the place 1101. -/
def manyPlaces : List Char := '1' :: '.' :: (List.replicate 1100 '0' ++ ['1'])

theorem evaluate_manyPlaces : NumberLiteral.evaluate manyPlaces false =
    .ok ⟨10 ^ 1101 + 1, 1101⟩ := by decide +kernel

/-- A number near the largest double, with 1102 zeros behind the point. -/
def nearLimit : List Char :=
  "17976931348623150".toList ++ (List.replicate 292 '0' ++ '.' :: List.replicate 1102 '0')

theorem evaluate_nearLimit : NumberLiteral.evaluate nearLimit false =
    .ok ⟨17976931348623150 * 10 ^ 1394, 1102⟩ := by decide +kernel

/-- A literal without a sign, before each of the readers. -/
theorem readings_of_evaluate {literal : List Char} {x : Decimal} {l : NumberLiteral}
    (hvalue : NumberLiteral.evaluate literal false = .ok x)
    (hread : NumberLiteral.read? literal = some l) :
    tokenize (String.ofList literal) = .ok [.value ⟨0, String.ofList literal⟩ (.number x)] ∧
      Builtin.toNumber (.text (String.ofList literal)) =
        (SignedLiteral.number ⟨false, l⟩).bound.finite := by
  have hsign : ∀ op ∈ (none : Option Operator), op.isSign = true := by simp
  have hnone : ∀ c ∈ ([] : List Char), Text.isBlank c = true := by simp
  let n : Numeral := ⟨none, literal, x, hsign, hvalue⟩
  have htrim : (Text.trim (String.ofList literal)).toList = literal := by
    apply n.trim_eq ⟨[], hnone⟩ ⟨[], hnone⟩
    simp [n, Numeral.chars, signChars]
  constructor
  · exact n.tokenize_text
  · rw [Builtin.toNumber_text]
    exact n.numberOfText_eq (l := ⟨false, l⟩) hread rfl htrim

end Written

namespace Builtin

open Written (manyPlaces nearLimit)

/-- The readers part where the scanner reads zero, where the places are not enough, and where the
rounded number is too large. -/
theorem readers_differ :
    (tokenize "1e-500" = .ok [.value ⟨0, "1e-500"⟩ (.number .zero)] ∧
      toNumber (.text "1e-500") = .ok ⟨1, 500⟩) ∧
    (tokenize (String.ofList manyPlaces) =
        .ok [.value ⟨0, String.ofList manyPlaces⟩ (.number ⟨10 ^ 1101 + 1, 1101⟩)] ∧
      toNumber (.text (String.ofList manyPlaces)) = .ok ⟨10 ^ 1100, 1100⟩) ∧
    (tokenize (String.ofList nearLimit) =
        .ok [.value ⟨0, String.ofList nearLimit⟩ (.number ⟨17976931348623150 * 10 ^ 1394, 1102⟩)] ∧
      toNumber (.text (String.ofList nearLimit)) = .error .tooLarge) ∧
    ¬ ∀ (text : String) (span : Span) (v : Decimal),
      tokenize text = .ok [.value span (.number v)] →
        ∃ w, toNumber (.text text) = .ok w ∧ w.toRat = v.toRat := by
  have htokens : tokenize "1e-500" = .ok [.value ⟨0, "1e-500"⟩ (.number .zero)] := rfl
  have hnumber : toNumber (.text "1e-500") = .ok ⟨1, 500⟩ := rfl
  have hplaces : NumberLiteral.read? manyPlaces =
      some ⟨['1'], List.replicate 1100 '0' ++ ['1'], 0⟩ := by decide +kernel
  have hlimit : NumberLiteral.read? nearLimit =
      some ⟨"17976931348623150".toList ++ List.replicate 292 '0', List.replicate 1102 '0', 0⟩ := by
    decide +kernel
  obtain ⟨hscanned, hrounded⟩ := Written.readings_of_evaluate Written.evaluate_manyPlaces hplaces
  obtain ⟨hscanned', hrefused⟩ := Written.readings_of_evaluate Written.evaluate_nearLimit hlimit
  refine ⟨⟨htokens, hnumber⟩, ⟨hscanned, ?_⟩, ⟨hscanned', ?_⟩, ?_⟩
  · rw [hrounded]
    decide +kernel
  · rw [hrefused]
    decide +kernel
  · intro h
    obtain ⟨w, hw, hvalue⟩ := h _ _ _ htokens
    rw [hnumber] at hw
    cases hw
    rw [Decimal.toRat_zero, Decimal.toRat_eq_zero_iff] at hvalue
    cases hvalue

end Builtin

end Formulary
