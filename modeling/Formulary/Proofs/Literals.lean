-- What a number literal is read as, for every literal of the grammar, however long its digits and
-- its exponent are. A literal of moderate size is read as the number that it writes. One that is
-- far too small is zero, but only while the scale of what is left of it has 31 bits.
import Formulary.Proofs.DigitRuns
import Formulary.Proofs.DoubleRange
import Formulary.Proofs.ExactFormulas
import Formulary.Proofs.Retained

namespace Formulary

open Written (signChars)

namespace Written

/-! ## The grammar of literals -/

/-- The power of ten of a literal. -/
structure Exponent where
  sign : Option Operator
  digits : List Char
  isSign : ∀ op ∈ sign, op.isSign = true
  ne_nil : digits ≠ []
  areDigits : ∀ c ∈ digits, c.isDigit = true

/-- A number as formulas write it: a sign, digits of which only a zero alone is a zero in front,
a point with digits, and a power of ten. There is a digit before the power. -/
structure Literal where
  sign : Option Operator
  whole : List Char
  fraction : Option (List Char)
  exponent : Option Exponent
  isSign : ∀ op ∈ sign, op.isSign = true
  wholeDigits : ∀ c ∈ whole, c.isDigit = true
  noZeros : whole.head? = some '0' → whole = ['0']
  fractionDigits : ∀ digits ∈ fraction, ∀ c ∈ digits, c.isDigit = true
  hasDigit : whole = [] → fraction.getD [] ≠ []

def Exponent.chars (e : Exponent) : List Char := 'e' :: (signChars e.sign ++ e.digits)

def Exponent.value (e : Exponent) : Int :=
  if e.sign = some .subtract then -(digitsValue e.digits : Int) else digitsValue e.digits

namespace Literal

variable (l : Literal)

/-- The point with its digits. -/
def pointChars : List Char := l.fraction.elim [] fun digits => '.' :: digits

def exponentChars : List Char := l.exponent.elim [] Exponent.chars

/-- The characters behind the sign. -/
def unsigned : List Char := l.whole ++ (l.pointChars ++ l.exponentChars)

def chars : List Char := signChars l.sign ++ l.unsigned

def text : String := String.ofList l.chars

/-- The literal in parts, with its sign. -/
def parts : SignedLiteral :=
  ⟨l.sign == some .subtract, l.whole, l.fraction.getD [], l.exponent.elim 0 Exponent.value⟩

end Literal

/-! ## Reading the parts -/

theorem Exponent.signedDigits?_chars (e : Exponent) :
    Decimal.signedDigits? (signChars e.sign ++ e.digits) = some e.value := by
  have hread : e.digits ≠ [] ∧ e.digits.all Char.isDigit = true :=
    ⟨e.ne_nil, List.all_eq_true.mpr e.areDigits⟩
  have hsign := e.isSign
  unfold Exponent.value
  cases hs : e.sign with
  | none =>
    obtain ⟨c, more, hdigits⟩ := List.exists_cons_of_ne_nil e.ne_nil
    have hc : c.isDigit = true := e.areDigits c (by rw [hdigits]; exact List.mem_cons_self)
    have hplus : c ≠ '+' := ne_of_isDigit hc rfl
    have hminus : c ≠ '-' := ne_of_isDigit hc rfl
    rw [signChars, List.nil_append, if_neg (by decide), hdigits, Decimal.signedDigits?]
    · rw [← hdigits]
      exact if_pos hread
    · exact fun _ h => hplus (List.cons.inj h).1
    · exact fun _ h => hminus (List.cons.inj h).1
  | some op =>
    have hop := hsign op hs
    cases op with
    | add => exact if_pos hread
    | subtract => exact congrArg (Option.map fun n : Int => -n) (if_pos hread)
    | _ => cases hop

namespace Literal

variable (l : Literal)

theorem exponentChars_head : ∀ c ∈ l.exponentChars.head?, c = 'e' := by
  intro c hc
  unfold exponentChars at hc
  cases he : l.exponent with
  | none =>
    rw [he] at hc
    cases hc
  | some e =>
    rw [he] at hc
    cases hc
    rfl

/-- What stands behind the digits is read as the power. -/
theorem read_exponent (fraction : List Char) : (match l.exponentChars with
    | [] => some ⟨l.whole, fraction, 0⟩
    | 'e' :: exponent =>
      (Decimal.signedDigits? exponent).map fun e => (⟨l.whole, fraction, e⟩ : NumberLiteral)
    | _ => none) = some ⟨l.whole, fraction, l.exponent.elim 0 Exponent.value⟩ := by
  unfold exponentChars
  cases l.exponent with
  | none => rfl
  | some e => exact congrArg (Option.map _) e.signedDigits?_chars

/-- The literals of the grammar can be read. -/
theorem read?_unsigned : NumberLiteral.read? l.unsigned = some l.parts.literal := by
  have hexponent : ∀ c ∈ l.exponentChars.head?, c.isDigit = false := by
    intro c hc
    rw [l.exponentChars_head c hc]
    decide
  have hpoint : ∀ c ∈ (l.pointChars ++ l.exponentChars).head?, c.isDigit = false := by
    unfold pointChars
    cases l.fraction with
    | none => exact hexponent
    | some digits =>
      intro c hc
      cases hc
      decide
  have hzeros : ¬ (l.whole.head? = some '0' ∧ l.whole.length ≠ 1) := by
    rintro ⟨hhead, hlength⟩
    rw [l.noZeros hhead] at hlength
    exact hlength rfl
  have hdigit : ¬ (l.whole = [] ∧ l.fraction.getD [] = []) := fun h => l.hasDigit h.1 h.2
  obtain ⟨htake, hdrop⟩ := takeWhile_digits l.wholeDigits hpoint
  unfold NumberLiteral.read? unsigned parts
  rw [htake, hdrop]
  unfold pointChars
  cases hf : l.fraction with
  | none =>
    rw [hf] at hdigit
    have hpower := l.read_exponent []
    unfold exponentChars at hpower ⊢
    generalize l.exponent = exponent at hpower ⊢
    cases exponent with
    | none => exact (if_neg hzeros).trans ((if_neg hdigit).trans hpower)
    | some e => exact (if_neg hzeros).trans ((if_neg hdigit).trans hpower)
  | some digits =>
    rw [hf] at hdigit
    obtain ⟨hfraction, hrest⟩ := takeWhile_digits (l.fractionDigits digits hf) hexponent
    simp only [Option.elim, List.cons_append, hfraction, hrest]
    exact (if_neg hzeros).trans ((if_neg hdigit).trans (l.read_exponent digits))

end Literal

end Written

/-! ## What a literal is evaluated to -/

namespace SignedLiteral

variable {l : SignedLiteral} {cs : List Char}

/-- The scale of the number is one that numbers can have. -/
def HasScale (l : SignedLiteral) : Prop :=
  -9223372036854775808 ≤ l.scale ∧ l.scale < 9223372036854775808

/-- The number that a literal writes, with all its places. -/
def number (l : SignedLiteral) : Decimal := ⟨l.int, .ofInt l.scale⟩

theorem scale_number (h : l.HasScale) : l.number.scale = l.scale := Decimal.toInt_ofInt h

theorem toRat_number (h : l.HasScale) : l.number.toRat = l.toRat := by
  rw [Decimal.toRat, scale_number h]
  rfl

theorem toBinary64_number (h : l.HasScale) :
    l.number.toBinary64 = Decimal.approximate l.int.natAbs l.scale := by
  rw [Decimal.toBinary64, scale_number h]
  rfl

theorem evaluate_of_not_hasScale (hread : NumberLiteral.read? cs = some l.literal)
    (h : ¬ l.HasScale) : NumberLiteral.evaluate cs l.negative = .error .malformedNumber := by
  have hvalue : l.literal.value? l.negative = none := if_neg h
  unfold NumberLiteral.evaluate
  rw [hread, Option.bind_some, hvalue]

/-- A literal with such a scale is judged by the double that stands for it. -/
theorem evaluate_of_hasScale (hread : NumberLiteral.read? cs = some l.literal) (h : l.HasScale) :
    NumberLiteral.evaluate cs l.negative =
      if !l.number.isFinite then .error .tooLarge
      else if l.number.toBinary64.isZero then .ok .zero
      else .ok l.number := by
  have hvalue : l.literal.value? l.negative = some l.number := if_pos h
  unfold NumberLiteral.evaluate
  rw [hread, Option.bind_some, hvalue]

theorem toRat_eq_zero_iff : l.toRat = 0 ↔ l.int = 0 := by
  unfold toRat
  rw [mul_eq_zero, Int.cast_eq_zero]
  exact or_iff_left (Decimal.ten_zpow_pos _).ne'

/-- A number of moderate size is within the range of the doubles. -/
theorem Moderate.isFinite (h : l.Moderate) (hscale : l.HasScale) : l.number.isFinite = true := by
  rw [Decimal.isFinite, toBinary64_number hscale]
  rcases h with hzero | ⟨hlow, hhigh⟩
  · rw [toRat_eq_zero_iff.mp hzero]
    rfl
  · rw [abs_toRat] at hlow hhigh
    exact Decimal.isFinite_approximate hscale.2 hlow hhigh

theorem exists_evaluate_of_moderate (hread : NumberLiteral.read? cs = some l.literal)
    (h : l.HasScale) (hmoderate : l.Moderate) :
    ∃ x, NumberLiteral.evaluate cs l.negative = .ok x ∧ x.toRat = l.toRat := by
  have heval := evaluate_of_hasScale hread h
  rw [hmoderate.isFinite h, if_neg (by decide)] at heval
  have hok : ∃ x, NumberLiteral.evaluate cs l.negative = .ok x := by
    split at heval
    · exact ⟨_, heval⟩
    · exact ⟨_, heval⟩
  obtain ⟨x, hx⟩ := hok
  exact ⟨x, hx, (toRat_of_evaluate hread hx hmoderate).1⟩

/-- Where the scale of what is left has 31 bits, a number that is far too small is zero. -/
theorem evaluate_of_tiny (hread : NumberLiteral.read? cs = some l.literal) (h : l.HasScale)
    (hne : l.toRat ≠ 0) (htiny : |l.toRat| < 10 ^ (-400 : Int)) :
    NumberLiteral.evaluate cs l.negative =
      if Decimal.keptScale l.int.natAbs l.scale < 2147483648 then .ok .zero
      else .error .tooLarge := by
  have hint : l.int.natAbs ≠ 0 := by
    intro hzero
    exact hne (toRat_eq_zero_iff.mpr (Int.natAbs_eq_zero.mp hzero))
  rw [abs_toRat] at htiny
  have happrox := Decimal.approximate_tiny hint htiny
  rw [evaluate_of_hasScale hread h, Decimal.isFinite, toBinary64_number h]
  split at happrox
  · rename_i hfew
    rw [if_pos hfew, happrox.1, happrox.2]
    rfl
  · rename_i hmany
    rw [if_neg hmany, happrox]
    rfl

end SignedLiteral

/-! ## The scan of a literal -/

namespace Scanner

/-- A literal that cannot be evaluated ends the scan. -/
theorem result_literal_fault {read rest literal : List Char} {nodes : List Node}
    {frames : List Frame} {l : NumberLiteral} {sign : Option Operator} {fault : Fault}
    (hread : NumberLiteral.read? literal = some l) (hsign : ∀ op ∈ sign, op.isSign = true)
    (hexpects : (place nodes frames).expectsOperand = true) (hrest : EndsNumber rest)
    (h : NumberLiteral.evaluate literal (sign == some .subtract) = .error fault) :
    (between read (signChars sign ++ (literal ++ rest)) nodes frames).result = .error fault := by
  obtain ⟨scan, -, hscan, hliteral, hlast, hresult⟩ := result_signed hread hsign hexpects
  have hliteral' : scan.literal.reverse = literal := by rw [hliteral, List.reverse_reverse]
  have hread' : NumberLiteral.read? scan.literal.reverse = some l := by rw [hliteral', hread]
  rw [hresult]
  refine result_of_fault (fun h => by cases h) ?_
  rw [step_number_end hrest hlast, endNumber_eq hread', hliteral', hscan, h]
  rfl

end Scanner

/-- A literal alone is read as one node. -/
theorem tokenize_signed {literal : List Char} {l : NumberLiteral} {sign : Option Operator}
    (hread : NumberLiteral.read? literal = some l) (hsign : ∀ op ∈ sign, op.isSign = true) :
    tokenize (String.ofList (signChars sign ++ literal)) =
      (NumberLiteral.evaluate literal (sign == some .subtract)).map fun x =>
        [.value ⟨0, String.ofList (signChars sign ++ literal)⟩ (.number x)] := by
  cases heval : NumberLiteral.evaluate literal (sign == some .subtract) with
  | error fault =>
    have hfault : (Scanner.between [] (signChars sign ++ (literal ++ [])) [] []).result =
        .error fault :=
      Scanner.result_literal_fault hread hsign rfl (fun _ hc => by cases hc) heval
    rw [tokenize_eq_result, String.toList_ofList, Scanner.start_eq_between]
    rwa [List.append_nil] at hfault
  | ok x => exact Written.Numeral.tokenize_text ⟨sign, literal, x, hsign, heval⟩

/-! ## The law -/

/-- The law of literals, for every literal of the grammar. One whose scale does not have 64 bits is
malformed. Of the others, one that writes zero or a number between `10 ^ (-300)` and `10 ^ 300` is
read as that number. One that writes less than `10 ^ (-400)` is read as zero, if what is left of
it without its spare digits has fewer than `2 ^ 31` places, and is too large, if it has more. -/
theorem tokenize_literal (l : Written.Literal) :
    (¬ l.parts.HasScale → tokenize l.text = .error .malformedNumber) ∧
    (l.parts.HasScale → l.parts.Moderate → ∃ x : Decimal,
      tokenize l.text = .ok [.value ⟨0, l.text⟩ (.number x)] ∧ x.toRat = l.parts.toRat) ∧
    (l.parts.HasScale → l.parts.toRat ≠ 0 → |l.parts.toRat| < 10 ^ (-400 : Int) →
      tokenize l.text =
        if Decimal.keptScale l.parts.int.natAbs l.parts.scale < 2147483648 then
          .ok [.value ⟨0, l.text⟩ (.number .zero)]
        else .error .tooLarge) := by
  have hread := l.read?_unsigned
  have htokens : tokenize l.text = (NumberLiteral.evaluate l.unsigned l.parts.negative).map fun x =>
      [.value ⟨0, l.text⟩ (.number x)] := tokenize_signed hread l.isSign
  refine ⟨fun h => ?_, fun h hmoderate => ?_, fun h hne htiny => ?_⟩
  · rw [htokens, SignedLiteral.evaluate_of_not_hasScale hread h]
    rfl
  · obtain ⟨x, hx, hvalue⟩ := SignedLiteral.exists_evaluate_of_moderate hread h hmoderate
    refine ⟨x, ?_, hvalue⟩
    rw [htokens, hx]
    rfl
  · rw [htokens, SignedLiteral.evaluate_of_tiny hread h hne htiny]
    split <;> rfl

namespace Written

/-- One, with a negative power of ten. -/
def Literal.small (digits : List Char) (hne : digits ≠ []) (h : digits.all Char.isDigit = true) :
    Literal where
  sign := none
  whole := ['1']
  fraction := none
  exponent := some ⟨some .subtract, digits, by simp [Operator.isSign], hne, List.all_eq_true.mp h⟩
  isSign := nofun
  wholeDigits := List.all_eq_true.mp rfl
  noZeros := nofun
  fractionDigits := nofun
  hasDigit := nofun

theorem Literal.toRat_small {digits : List Char} {hne : digits ≠ []}
    {h : digits.all Char.isDigit = true} :
    (small digits hne h).parts.toRat = 10 ^ (-(digitsValue digits : Int)) := by
  have hscale : (small digits hne h).parts.scale = digitsValue digits := by
    change (0 : Int) - -(digitsValue digits : Int) = _
    omega
  have hint : (small digits hne h).parts.int = 1 := rfl
  rw [SignedLiteral.toRat, hint, hscale, Int.cast_one, one_mul]

end Written

open Written (Literal)

/-- A literal of moderate size, one that is read as zero, and one without a scale. -/
theorem tokenize_literal_powers :
    (∃ x : Decimal, tokenize "1e-5" = .ok [.value ⟨0, "1e-5"⟩ (.number x)] ∧
      x.toRat = 10 ^ (-5 : Int)) ∧
    tokenize "1e-999999" = .ok [.value ⟨0, "1e-999999"⟩ (.number .zero)] ∧
    tokenize "1e-9223372036854775808" = .error .malformedNumber := by
  refine ⟨?_, ?_, ?_⟩
  · have hvalue : (Literal.small ['5'] (by decide) (by decide)).parts.toRat = 10 ^ (-5 : Int) :=
      Literal.toRat_small
    rw [← hvalue]
    refine (tokenize_literal (.small ['5'] (by decide) (by decide))).2.1
      ⟨by decide, by decide⟩ (.inr ?_)
    rw [hvalue, abs_of_pos (Decimal.ten_zpow_pos _)]
    constructor <;> exact zpow_le_zpow_right₀ (by norm_num) (by norm_num)
  · have hvalue : (Literal.small "999999".toList (by decide) (by decide)).parts.toRat =
        10 ^ (-999999 : Int) := Literal.toRat_small
    refine ((tokenize_literal (.small "999999".toList (by decide) (by decide))).2.2
      ⟨by decide, by decide⟩ ?_ ?_).trans (if_pos (by decide))
    · rw [hvalue]
      exact (Decimal.ten_zpow_pos _).ne'
    · rw [hvalue, abs_of_pos (Decimal.ten_zpow_pos _)]
      exact zpow_lt_zpow_right₀ (by norm_num) (by norm_num)
  · exact (tokenize_literal (.small "9223372036854775808".toList (by decide) (by decide))).1
      fun h => absurd h.2 (by decide)

/-- The power of ten may be too large for a literal that is almost zero. -/
theorem not_every_tiny_zero : ¬ ∀ l : Literal, l.parts.toRat ≠ 0 →
    |l.parts.toRat| < 10 ^ (-400 : Int) →
    tokenize l.text = .ok [.value ⟨0, l.text⟩ (.number .zero)] := by
  intro h
  have hzero := h (.small "3000000000".toList (by decide) (by decide))
  rw [Literal.toRat_small, abs_of_pos (Decimal.ten_zpow_pos _)] at hzero
  have hlarge : tokenize "1e-3000000000" = .error .tooLarge := rfl
  have hvalue : (digitsValue "3000000000".toList : Int) = 3000000000 := by decide
  rw [hvalue] at hzero
  have hread := hzero (Decimal.ten_zpow_pos _).ne' (zpow_lt_zpow_right₀ (by norm_num) (by norm_num))
  cases hlarge.symm.trans hread

end Formulary
