-- The text of a number is read back as the number. The three forms in which numbers are written are
-- texts of one shape, and the reader takes every text of this shape apart into its digits and
-- the place of its point.
import Formulary.Builtin.Text
import Formulary.Proofs.DoubleRange
import Formulary.Proofs.ExactOperations
import Formulary.Proofs.FixedText
import Formulary.Proofs.Numerals

namespace Formulary

open Written (signChars)

/-! ## Reading the parts of a number -/

namespace Decimal

/-- The marks of a power of ten. -/
def powerMarks : List Char := ['e', 'E']

theorem isBlank_powerMarks : ∀ c ∈ powerMarks, Text.isBlank c = false := by
  intro c hc
  simp only [powerMarks, List.mem_cons, List.not_mem_nil, or_false] at hc
  rcases hc with rfl | rfl <;> decide

theorem isMark_eq_false {c : Char} (h : c.isDigit = true ∨ c = '+' ∨ c = '-' ∨ c = '.') :
    (c == 'e' || c == 'E') = false := by
  rcases h with h | rfl | rfl | rfl
  · have he : c ≠ 'e' := ne_of_isDigit h rfl
    have hE : c ≠ 'E' := ne_of_isDigit h rfl
    simp [he, hE]
  all_goals decide

/-- The digits of a number reach to the mark of its power. -/
theorem takeWhile_power {front power : List Char} {exponent : Int}
    (hfront : ∀ c ∈ front, (c == 'e' || c == 'E') = false)
    (hpower : PowerOf powerMarks exponent power) :
    (front ++ power).takeWhile (fun c => !(c == 'e' || c == 'E')) = front ∧
      (front ++ power).dropWhile (fun c => !(c == 'e' || c == 'E')) = power := by
  have hall : ∀ c ∈ front, (!(c == 'e' || c == 'E')) = true := by
    intro c hc
    rw [hfront c hc]
    rfl
  rw [List.takeWhile_append_of_pos hall, List.dropWhile_append_of_pos hall]
  rcases hpower with ⟨rfl, -⟩ | ⟨mark, hmark, cs, rfl, -⟩
  · simp
  · simp only [powerMarks, List.mem_cons, List.not_mem_nil, or_false] at hmark
    rcases hmark with rfl | rfl <;> simp

/-- What stands behind the digits is read as the power. -/
theorem read_power (build : Int → Int → Option Decimal) {power : List Char} {exponent : Int}
    (h : PowerOf powerMarks exponent power) (int places : Int) : (do
      let int ← some int
      let exponent ← match power with
        | [] => some 0
        | _ :: cs => signedDigits? cs
      build int (places - exponent)) = build int (places - exponent) := by
  rcases h with ⟨rfl, rfl⟩ | ⟨mark, -, cs, rfl, hexponent⟩
  · rfl
  · dsimp only
    rw [hexponent]
    rfl

theorem filter_digits {digits : List Char} (h : ∀ c ∈ digits, c.isDigit = true) :
    digits.filter (fun c => decide (c ≠ '_')) = digits := by
  rw [List.filter_eq_self]
  intro c hc
  apply decide_eq_true
  exact ne_of_isDigit (h c hc) rfl

/-- The point is taken out of the digits. -/
theorem splitPoint_of_pointOf {front fraction point : List Char}
    (hfront : ∀ c ∈ front, c ≠ '.') (hfraction : ∀ c ∈ fraction, c.isDigit = true)
    (hpoint : PointOf fraction point) :
    splitPoint (front ++ point) = (front ++ fraction, fraction.length) := by
  have hall : ∀ c ∈ front, decide (c ≠ '.') = true := by
    intro c hc
    exact decide_eq_true (hfront c hc)
  unfold splitPoint
  rw [List.takeWhile_append_of_pos hall, List.dropWhile_append_of_pos hall]
  rcases hpoint with ⟨rfl, rfl⟩ | rfl
  · simp
  · rw [List.takeWhile_cons_of_neg (by simp), List.dropWhile_cons_of_neg (by simp)]
    dsimp only
    rw [filter_digits hfraction, List.append_nil]

theorem mem_signChars {sign : Option Operator} (hsign : ∀ op ∈ sign, op.isSign = true) :
    ∀ c ∈ signChars sign, c = '+' ∨ c = '-' := by
  cases sign with
  | none => exact nofun
  | some op =>
    have hop := hsign op rfl
    cases op with
    | add => simp [signChars, Operator.symbol]
    | subtract => simp [signChars, Operator.symbol]
    | _ => cases hop

/-- Digits with a sign before them. -/
theorem mantissa?_signed {sign : Option Operator} (hsign : ∀ op ∈ sign, op.isSign = true)
    {digits : List Char} (hne : digits ≠ []) (hdigits : ∀ c ∈ digits, c.isDigit = true) :
    mantissa? (signChars sign ++ digits) = some (if sign == some .subtract then
      -(digitsValue digits : Int) else digitsValue digits) := by
  obtain ⟨c, more, rfl⟩ := List.exists_cons_of_ne_nil hne
  have hc : c.isDigit = true := hdigits c List.mem_cons_self
  have hall : (c :: more).all (fun c => c.isDigit || c == '_') = true := by
    rw [List.all_eq_true]
    intro d hd
    simp [hdigits d hd]
  have hread : (if (c :: more).head?.any Char.isDigit = true ∧
      (c :: more).all (fun c => c.isDigit || c == '_') = true then
        some (digitsValue ((c :: more).filter (fun c => decide (c ≠ '_'))) : Int)
      else none) = some (digitsValue (c :: more) : Int) := by
    rw [filter_digits hdigits]
    exact if_pos ⟨hc, hall⟩
  cases sign with
  | none =>
    have hplus : c ≠ '+' := ne_of_isDigit hc rfl
    have hminus : c ≠ '-' := ne_of_isDigit hc rfl
    rw [signChars, List.nil_append, mantissa?]
    · exact hread
    · exact fun _ h => hplus (List.cons.inj h).1
    · exact fun _ h => hminus (List.cons.inj h).1
  | some op =>
    have hop := hsign op rfl
    cases op with
    | add => exact hread
    | subtract => exact congrArg (Option.map fun n : Int => -n) hread
    | _ => cases hop

/-- The reader takes a number apart into its digits and the place of its point. -/
theorem read?_writtenAs {l : NumberLiteral} {cs : List Char} (h : l.WrittenAs powerMarks cs)
    {sign : Option Operator} (hsign : ∀ op ∈ sign, op.isSign = true) :
    read? (signChars sign ++ cs) = l.value? (sign == some .subtract) := by
  obtain ⟨hdigits, hne, point, power, rfl, hpoint, hpower⟩ := h
  have hsigned := mem_signChars hsign
  have hwhole : ∀ c ∈ l.whole, c.isDigit = true := fun c hc =>
    hdigits c (List.mem_append_left _ hc)
  have hfraction : ∀ c ∈ l.fraction, c.isDigit = true := fun c hc =>
    hdigits c (List.mem_append_right _ hc)
  have hmark : ∀ c ∈ signChars sign ++ l.whole ++ point, (c == 'e' || c == 'E') = false := by
    intro c hc
    apply isMark_eq_false
    rw [List.mem_append, List.mem_append] at hc
    rcases hc with (hc | hc) | hc
    · exact .inr ((hsigned c hc).imp_right .inl)
    · exact .inl (hwhole c hc)
    · rcases hpoint with ⟨rfl, -⟩ | rfl
      · cases hc
      · rcases List.mem_cons.mp hc with rfl | hc
        · exact .inr (.inr (.inr rfl))
        · exact .inl (hfraction c hc)
  have hdot : ∀ c ∈ signChars sign ++ l.whole, c ≠ '.' := by
    rintro c hc rfl
    rcases List.mem_append.mp hc with hc | hc
    · rcases hsigned _ hc with h | h <;> exact absurd h (by decide)
    · exact absurd (hwhole _ hc) (by decide)
  obtain ⟨htake, hdrop⟩ := takeWhile_power hmark hpower
  have hchars : signChars sign ++ (l.whole ++ (point ++ power)) =
      signChars sign ++ l.whole ++ point ++ power := by
    simp
  unfold read?
  dsimp only
  rw [hchars, htake, hdrop, splitPoint_of_pointOf hdot hfraction hpoint, List.append_assoc]
  dsimp only
  rw [mantissa?_signed hsign hne hdigits]
  exact read_power ofParts? hpower _ _

/-! ## The forms of a number -/

theorem signedDigits?_toDigits (n : Nat) :
    signedDigits? ('+' :: Nat.toDigits 10 n) = some (n : Int) ∧
      signedDigits? ('-' :: Nat.toDigits 10 n) = some (-n : Int) := by
  have hread : (if Nat.toDigits 10 n ≠ [] ∧ (Nat.toDigits 10 n).all Char.isDigit = true then
      some (digitsValue (Nat.toDigits 10 n) : Int) else none) = some (n : Int) := by
    rw [digitsValue_toDigits]
    exact if_pos ⟨Nat.toDigits_ne_nil, List.all_eq_true.mpr isDigit_toDigits⟩
  exact ⟨hread, congrArg (Option.map fun n : Int => -n) hread⟩

theorem pointOf_pointed (fraction : List Char) : PointOf fraction (pointed fraction) := by
  cases fraction with
  | nil => exact .inl ⟨rfl, rfl⟩
  | cons d ds => exact .inr rfl

/-- The characters are the parts of a number with `n` units at that scale. There are more units, and
the scale is zero, where zeros stand in place of the power of ten. -/
def Spells (n : Nat) (scale : Int) (cs : List Char) : Prop :=
  ∃ (l : NumberLiteral) (zeros : Nat), l.WrittenAs powerMarks cs ∧
    digitsValue (l.whole ++ l.fraction) = n * tenPow zeros ∧
    l.fraction.length - l.exponent = scale + zeros ∧ (zeros = 0 ∨ scale + zeros = 0)

variable {n : Nat} {scale : Int}

/-- The form with a negative power of ten. -/
theorem spells_scientific {places : Nat} (h : 5 < (places : Int) - digitCount n) :
    Spells n places (magnitudeText n places) := by
  obtain ⟨d, rest, exponent, htext, hall, hplaces⟩ := magnitudeText_scientific h
  have hdigits := isDigit_toDigits (n := n)
  have hvalue := digitsValue_toDigits n
  rw [hall] at hdigits hvalue
  have hpower : PowerOf powerMarks (-exponent) ('E' :: '-' :: Nat.toDigits 10 exponent) :=
    .inr ⟨'E', by simp [powerMarks], _, rfl, (signedDigits?_toDigits exponent).2⟩
  refine ⟨⟨[d], rest, -exponent⟩, 0, ⟨hdigits, by simp, _, _, htext, pointOf_pointed rest, hpower⟩,
    ?_, ?_, .inl rfl⟩
  · simpa [tenPow] using hvalue
  · dsimp only
    omega

/-- The form with a positive power of ten. -/
theorem spells_power (hscale : scale ≤ 0) :
    Spells n scale (Nat.toDigits 10 n ++ 'e' :: '+' :: Nat.toDigits 10 (-scale).toNat) := by
  have hpower : PowerOf powerMarks (-scale).toNat ('e' :: '+' :: Nat.toDigits 10 (-scale).toNat) :=
    .inr ⟨'e', by simp [powerMarks], _, rfl, (signedDigits?_toDigits _).1⟩
  refine ⟨⟨Nat.toDigits 10 n, [], (-scale).toNat⟩, 0, ⟨?_, ?_, [], _, rfl, .inl ⟨rfl, rfl⟩, hpower⟩,
    ?_, ?_, .inl rfl⟩
  · simpa using isDigit_toDigits
  · simp [Nat.toDigits_ne_nil]
  · simpa [tenPow] using digitsValue_toDigits n
  · simp
    omega

/-- The form with zeros at the end. -/
theorem spells_zeros (hscale : scale ≤ 0) :
    Spells n scale (Nat.toDigits 10 n ++ List.replicate (-scale).toNat '0') := by
  refine ⟨⟨Nat.toDigits 10 n ++ List.replicate (-scale).toNat '0', [], 0⟩, (-scale).toNat,
    ⟨?_, ?_, [], [], ?_, .inl ⟨rfl, rfl⟩, .inl ⟨rfl, rfl⟩⟩, ?_, ?_, .inr ?_⟩
  · intro c hc
    simp only [List.append_nil, List.mem_append, List.mem_replicate] at hc
    rcases hc with hc | ⟨-, rfl⟩
    · exact isDigit_toDigits c hc
    · decide
  · simp [Nat.toDigits_ne_nil]
  · simp
  · rw [List.append_nil, digitsValue_append_zeros, digitsValue_toDigits]
  · simp
    omega
  · omega

/-- The form with a point. -/
theorem spells_withPoint (n places : Nat) :
    Spells n places (withPoint (Nat.toDigits 10 n) places) := by
  obtain ⟨whole, fraction, htext, hne, hlength, hall, hvalue⟩ := withPoint_plain n places
  refine ⟨⟨whole, fraction, 0⟩, 0, ⟨hall, ?_, pointed fraction, [], ?_, pointOf_pointed fraction,
    .inl ⟨rfl, rfl⟩⟩, ?_, ?_, .inl rfl⟩
  · simp [hne]
  · rw [htext, List.append_nil]
  · simpa [tenPow] using hvalue
  · simp [hlength]

/-- Each form spells its number. -/
theorem spells_magnitudeText (n : Nat) (scale : Int) : Spells n scale (magnitudeText n scale) := by
  by_cases hmany : 5 < scale - digitCount n
  · obtain ⟨places, rfl⟩ := Int.eq_ofNat_of_zero_le (by omega : 0 ≤ scale)
    exact spells_scientific hmany
  · have hmany' : ¬ 5 < scale - (Nat.toDigits 10 n).length := hmany
    unfold magnitudeText
    dsimp only
    rw [if_neg hmany']
    by_cases hfew : scale < -15
    · rw [if_pos hfew]
      exact spells_power (by omega)
    · rw [if_neg hfew]
      by_cases hwhole : scale ≤ 0
      · rw [if_pos hwhole]
        exact spells_zeros hwhole
      · rw [if_neg hwhole]
        obtain ⟨places, rfl⟩ := Int.eq_ofNat_of_zero_le (by omega : 0 ≤ scale)
        exact spells_withPoint n places

/-- The form of a number with its sign. -/
theorem exists_sign_render {z : Decimal} (hz : z.int ≠ 0) :
    ∃ sign : Option Operator, (∀ op ∈ sign, op.isSign = true) ∧
      z.render = signChars sign ++ magnitudeText z.int.natAbs z.scale ∧
      (if sign == some .subtract then -(z.int.natAbs : Int) else z.int.natAbs) = z.int := by
  unfold render
  rw [if_neg hz]
  by_cases hneg : z.int < 0
  · refine ⟨some .subtract, by simp [Operator.isSign], if_pos hneg, ?_⟩
    rw [if_pos (by decide)]
    omega
  · refine ⟨none, nofun, if_neg hneg, ?_⟩
    rw [if_neg (by decide)]
    omega

/-- The parts of such characters stand for the number, which has no places in place of a positive
power of ten. -/
theorem Spells.exists_value? {cs : List Char} (h : Spells n scale cs) (hscale : IsScale scale)
    (negative : Bool) :
    ∃ (l : NumberLiteral) (x : Decimal), l.WrittenAs powerMarks cs ∧ l.value? negative = some x ∧
      x.toRat = (if negative then -(n : ℤ) else n : ℤ) * 10 ^ (-scale) ∧
        x.scale ≤ max scale 0 := by
  obtain ⟨l, zeros, hwritten, hunits, hplaces, hzeros⟩ := h
  have hmoved : IsScale (scale + zeros) := by
    unfold IsScale at hscale ⊢
    omega
  refine ⟨l, ⟨(if negative then -(n : ℤ) else n) * tenPow zeros, .ofInt (scale + zeros)⟩, hwritten,
    ?_, ?_, ?_⟩
  · unfold NumberLiteral.value?
    dsimp only
    rw [hunits, hplaces, ofParts?, if_pos ⟨hmoved.1, hmoved.2⟩]
    split <;> simp
  · have hpower : (10 : ℚ) ^ (zeros : ℤ) * 10 ^ (-(scale + zeros)) = 10 ^ (-scale) := by
      rw [← zpow_add₀ (by norm_num)]
      congr 1
      ring
    rw [toRat_mk _ (toInt_ofInt hmoved), Int.cast_mul, Int.cast_natCast, cast_tenPow, mul_assoc,
      ← zpow_natCast, hpower]
  · rw [scale_mk, toInt_ofInt hmoved]
    omega

/-- A number is read back from its text, whatever its scale. -/
theorem ofText?_toText (x : Decimal) :
    ∃ z, Decimal.ofText? x.toText = some z ∧ z.toRat = x.toRat := by
  by_cases hint : x.int = 0
  · refine ⟨zero, ?_, ?_⟩
    · rw [toText, render, if_pos hint]
      decide
    · rw [toRat_zero, toRat_eq_zero_iff.mpr hint]
  · obtain ⟨sign, hsign, htext, hint⟩ := exists_sign_render hint
    obtain ⟨l, z, hwritten, hread, hvalue, -⟩ :=
      (spells_magnitudeText x.int.natAbs x.scale).exists_value? (isScale_scale x)
        (sign == some .subtract)
    rw [hint] at hvalue
    refine ⟨z, ?_, hvalue⟩
    rw [toText, Decimal.ofText?, String.toList_ofList, htext, read?_writtenAs hwritten hsign, hread]

/-! ## Numbers up to `10 ^ 300` -/

/-- A number up to `10 ^ 300` with no more places than results have is within the range of the
doubles. -/
theorem finite_of_le {z : Decimal} (hscale : z.scale ≤ maxPlaces)
    (hsize : |z.toRat| ≤ 10 ^ (300 : ℤ)) : z.finite = .ok z := by
  have hfinite : z.isFinite = true := by
    rw [abs_toRat] at hsize
    refine isFinite_of_keptScale_lt ?_ hsize
    unfold keptScale
    unfold maxPlaces at hscale
    omega
  rw [finite, if_pos hfinite]

variable {x : Decimal}

theorem lt_of_size (hsize : |x.toRat| ≤ 10 ^ (300 : ℤ)) : |x.toRat| < 10 ^ (301 : ℤ) :=
  hsize.trans_lt (zpow_lt_zpow_right₀ (by norm_num) (by norm_num))

/-- Without trailing zeros a number has no more places than it needs, and no more zeros than its
size allows. -/
theorem scale_normalized (hint : x.int ≠ 0) (hfits : FitsAt maxPlaces x.toRat)
    (hsize : |x.toRat| ≤ 10 ^ (300 : ℤ)) : x.normalized.scale ≤ maxPlaces := by
  have hmagnitude := magnitude_le_of_lt hint (lt_of_size hsize)
  have hleast := one_le_magnitude_add hint hfits
  have hmost := (isScale_scale x).2
  have hvalue : x.normalized.toRat = x.bound.toRat := by
    rw [toRat_normalized_of_lt (lt_of_size hsize) (by norm_num), toRat_bound_of_fitsAt hfits]
  unfold normalized at hvalue ⊢
  rw [if_neg hint] at hvalue ⊢
  unfold magnitude at hmagnitude hleast
  have hroom : -9223372036854775808 ≤ x.scale - (min x.digits maxZeros : Nat) := by omega
  rcases stripped_or_scale_stripZeros hroom with hstripped | hscale
  · exact (hstripped.scale_le hvalue).trans (scale_bound_le x)
  · rw [hscale]
    unfold maxPlaces at hleast ⊢
    unfold maxZeros
    omega

end Decimal

/-! ## Texts of numbers -/

theorem NumberLiteral.WrittenAs.chars_ne_nil {marks cs : List Char} {l : NumberLiteral}
    (h : l.WrittenAs marks cs) : cs ≠ [] := by
  obtain ⟨-, hne, point, power, rfl, hpoint, -⟩ := h
  intro hnil
  rw [List.append_eq_nil_iff, List.append_eq_nil_iff] at hnil
  rcases hpoint with ⟨-, hfraction⟩ | hpoint
  · rw [hnil.1, hfraction] at hne
    exact hne rfl
  · rw [hpoint] at hnil
    cases hnil.2.1

/-- No part of a number is blank. -/
theorem NumberLiteral.WrittenAs.not_blank {marks cs : List Char} {l : NumberLiteral}
    (h : l.WrittenAs marks cs) (hmarks : ∀ c ∈ marks, Text.isBlank c = false) :
    ∀ c ∈ cs, Text.isBlank c = false := by
  obtain ⟨hdigits, -, point, power, rfl, hpoint, hpower⟩ := h
  have hblank : ∀ c ∈ l.whole ++ l.fraction, Text.isBlank c = false := fun c hc =>
    Text.isBlank_of_isDigit (hdigits c hc)
  intro c hc
  simp only [List.mem_append] at hc hblank
  rcases hc with hc | hc | hc
  · exact hblank c (.inl hc)
  · rcases hpoint with ⟨rfl, -⟩ | rfl
    · cases hc
    · rcases List.mem_cons.mp hc with rfl | hc
      · decide
      · exact hblank c (.inr hc)
  · rcases hpower with ⟨rfl, -⟩ | ⟨mark, hmark, e, rfl, he⟩
    · cases hc
    · obtain ⟨sign, digits, rfl, hsign, -, hall⟩ := exists_sign_of_signedDigits? he
      rcases List.mem_cons.mp hc with rfl | hc
      · exact hmarks _ hmark
      · rcases List.mem_append.mp hc with hc | hc
        · rcases hsign with rfl | rfl | rfl
          · cases hc
          · rw [List.mem_singleton.mp hc]
            decide
          · rw [List.mem_singleton.mp hc]
            decide
        · exact Text.isBlank_of_isDigit (hall c hc)

namespace Builtin

open Decimal

variable {l : NumberLiteral} {cs before after : List Char} {text : String} {sign : Option Operator}

/-- The blanks around a number are trimmed off. -/
theorem trim_writtenAs (h : l.WrittenAs powerMarks cs) (hsign : ∀ op ∈ sign, op.isSign = true)
    (hbefore : ∀ c ∈ before, Text.isBlank c = true) (hafter : ∀ c ∈ after, Text.isBlank c = true)
    (htext : text.toList = before ++ ((signChars sign ++ cs) ++ after)) :
    (Text.trim text).toList = signChars sign ++ cs := by
  have hnot : ∀ c ∈ signChars sign ++ cs, Text.isBlank c = false := by
    intro c hc
    rcases List.mem_append.mp hc with hc | hc
    · rcases mem_signChars hsign c hc with rfl | rfl <;> decide
    · exact h.not_blank isBlank_powerMarks c hc
  rw [Text.trim, String.toList_ofList, htext, Text.trimChars_around hbefore hafter hnot]

/-- A text that is a number, but for blanks around it, is the number that its parts stand for,
within bounds. -/
theorem numberOfText_writtenAs (h : l.WrittenAs powerMarks cs)
    (hsign : ∀ op ∈ sign, op.isSign = true)
    (htrim : (Text.trim text).toList = signChars sign ++ cs) :
    numberOfText text = match l.value? (sign == some .subtract) with
      | none => .error (.unexpectedKind "number")
      | some x => x.bound.finite := by
  have hne : ¬ (Text.trim text).isEmpty = true := by
    intro hempty
    rw [String.isEmpty_iff.mp hempty] at htrim
    exact h.chars_ne_nil (List.append_eq_nil_iff.mp htrim.symm).2
  have hread : Decimal.ofText? (Text.trim text) = l.value? (sign == some .subtract) := by
    rw [Decimal.ofText?, htrim, read?_writtenAs h hsign]
  unfold numberOfText
  cases hvalue : l.value? (sign == some .subtract) with
  | none => simp only [if_neg hne, hread, hvalue]
  | some x => simp only [if_neg hne, hread, hvalue]

/-- The characters that spell a number are read as the number. -/
theorem numberOfText_spelled {n : Nat} {scale : Int} (h : Spells n scale cs)
    (hsign : ∀ op ∈ sign, op.isSign = true) (hscale : IsScale scale) :
    ∃ z : Decimal, numberOfText (String.ofList (signChars sign ++ cs)) = z.bound.finite ∧
      z.toRat = (if sign == some .subtract then -(n : ℤ) else n : ℤ) * 10 ^ (-scale) ∧
        z.scale ≤ max scale 0 := by
  obtain ⟨l, z, hwritten, hvalue, hz⟩ := h.exists_value? hscale (sign == some .subtract)
  have hnone : ∀ c ∈ ([] : List Char), Text.isBlank c = true := nofun
  have htrim : (Text.trim (String.ofList (signChars sign ++ cs))).toList = signChars sign ++ cs :=
    trim_writtenAs hwritten hsign hnone hnone (by simp)
  have htext := numberOfText_writtenAs hwritten hsign htrim
  rw [hvalue] at htext
  exact ⟨z, htext, hz⟩

variable {x : Decimal}

/-- The text of a number is read as the number. -/
theorem numberOfText_render (hfits : FitsAt maxPlaces x.toRat)
    (hsize : |x.toRat| ≤ 10 ^ (300 : ℤ)) :
    ∃ z, numberOfText x.normalized.toText = .ok z ∧ z.toRat = x.toRat := by
  have hsame := toRat_normalized_of_lt (lt_of_size hsize) (by norm_num)
  by_cases hint : x.int = 0
  · refine ⟨zero, ?_, ?_⟩
    · rw [normalized, if_pos hint]
      decide
    · rw [toRat_zero, toRat_eq_zero_iff.mpr hint]
  · have hunits : x.normalized.int ≠ 0 := by
      rwa [Ne, ← toRat_eq_zero_iff, hsame, toRat_eq_zero_iff]
    obtain ⟨sign, hsign, htext, hunits⟩ := exists_sign_render hunits
    obtain ⟨z, hread, hvalue, hscale⟩ := numberOfText_spelled
      (spells_magnitudeText x.normalized.int.natAbs x.normalized.scale) hsign (isScale_scale _)
    rw [hunits] at hvalue
    have hz : z.toRat = x.toRat := hvalue.trans hsame
    have hplaces : z.scale ≤ maxPlaces :=
      hscale.trans (max_le (scale_normalized hint hfits hsize) (by decide))
    refine ⟨z, ?_, hz⟩
    rw [toText, htext, hread, bound_eq_self hplaces]
    exact finite_of_le hplaces (by simpa only [hz] using hsize)

/-! ## The law -/

theorem toNumber_text (text : String) : toNumber (.text text) = numberOfText text := by
  rw [toNumber]

theorem run_numberConversion (v : Value) : numberConversion.run [v] = .number <$> toNumber v := rfl

/-- The law of the text of a number, for every number up to `10 ^ 300` with at most 1100 places:
the text is read back as the number, and so it is where the two methods follow one another. -/
theorem toNumber_display (hfits : FitsAt maxPlaces x.toRat) (hsize : |x.toRat| ≤ 10 ^ (300 : ℤ)) :
    ∃ z : Decimal, z.toRat = x.toRat ∧ toNumber (.text (Value.number x).display) = .ok z ∧
      (textConversion.run [.number x] >>= fun text => numberConversion.run [text]) =
        .ok (.number z) := by
  obtain ⟨z, hread, hvalue⟩ := numberOfText_render hfits hsize
  have hnumber : toNumber (.text (Value.number x).display) = .ok z := by
    rw [toNumber_text]
    exact hread
  have hconversion : numberConversion.run [.text (Value.number x).display] = .ok (.number z) := by
    rw [run_numberConversion, hnumber]
    rfl
  refine ⟨z, hvalue, hnumber, ?_⟩
  unfold textConversion
  exact hconversion

/-- A number that is shown with a power of ten, with a trailing zero that is not shown. -/
theorem toNumber_display_small : (Value.number ⟨-120, 9⟩).display = "-1.2E-7" ∧
    FitsAt maxPlaces (⟨-120, 9⟩ : Decimal).toRat ∧ |(⟨-120, 9⟩ : Decimal).toRat| ≤ 10 ^ (300 : ℤ) ∧
    ∃ z : Decimal, z.toRat = (⟨-120, 9⟩ : Decimal).toRat ∧ toNumber (.text "-1.2E-7") = .ok z := by
  have htext : (Value.number ⟨-120, 9⟩).display = "-1.2E-7" := by decide
  have hfits : FitsAt maxPlaces (⟨-120, 9⟩ : Decimal).toRat := fitsAt_toRat (by decide)
  have hsize : |(⟨-120, 9⟩ : Decimal).toRat| ≤ 10 ^ (300 : ℤ) := by
    have hone : |(⟨-120, 9⟩ : Decimal).toRat| ≤ 1 := by
      rw [toRat_mk _ (show (9 : Int64).toInt = 9 from rfl)]
      norm_num [abs_le]
    exact hone.trans (one_le_zpow₀ (by norm_num) (by norm_num))
  obtain ⟨z, hvalue, hread, -⟩ := toNumber_display hfits hsize
  rw [htext] at hread
  exact ⟨htext, hfits, hsize, z, hvalue, hread⟩

end Builtin

end Formulary
