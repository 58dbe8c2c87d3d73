-- The number that a JSON literal stands for: a 64-bit integer, or a double. A double is
-- computed from a significand of 64 bits and one power of ten, with a rounding at each step, so
-- that it may miss the nearest one.
import Formulary.Binary64
import Formulary.Digits
import Formulary.Json.Basic

namespace Formulary.Json

/-! ## Significands -/

/-- A significand below `2 ^ 64` and a power of ten. -/
structure Significand where
  value : Nat
  exponent : Int

namespace Significand

/-- The significand with one more digit. -/
def next (s : Significand) (c : Char) : Nat := s.value * 10 + (c.toNat - '0'.toNat)

/-- Adds the digits before the point. From the first that does not fit on they only raise the
exponent. -/
def addWhole : Significand → List Char → Significand
  | s, [] => s
  | s, c :: cs =>
    if s.next c < 18446744073709551616 then addWhole ⟨s.next c, s.exponent⟩ cs
    else ⟨s.value, s.exponent + (cs.length + 1)⟩

/-- Adds the digits after the point. From the first that does not fit on they do not count. -/
def addFraction : Significand → List Char → Significand
  | s, [] => s
  | s, c :: cs =>
    if s.next c < 18446744073709551616 then addFraction ⟨s.next c, s.exponent - 1⟩ cs else s

/-- A double times a power of ten, computed with the doubles nearest to powers of ten up to 308.
A number that becomes too large is none. -/
def scale? (x : Binary64) (exponent : Int) : Option Binary64 :=
  if exponent < -308 then
    if x.isZero then some x else scale? (x.div (.nearest (tenPow 308) 1)) (exponent + 308)
  else if exponent < 0 then some (x.div (.nearest (tenPow (-exponent).toNat) 1))
  else if exponent ≤ 308 then
    let product := x.mul (.nearest (tenPow exponent.toNat) 1)
    if product.isFinite then some product else none
  else if x.isZero then some x
  else none
termination_by (-exponent).toNat

/-- The double of a significand. -/
def double? (s : Significand) : Option Binary64 := scale? (.nearest s.value 1) s.exponent

end Significand

/-! ## Literals -/

/-- The parts of a number literal. -/
structure NumberParts where
  negative : Bool
  whole : List Char
  fraction : List Char
  exponentNegative : Bool
  exponent : List Char

/-- Takes a literal apart. -/
def NumberParts.ofLiteral (literal : List Char) : NumberParts :=
  let body := literal.dropWhile (· == '-')
  let rest := body.dropWhile Char.isDigit
  let fraction := (rest.dropWhile (· == '.')).takeWhile Char.isDigit
  let power := (rest.dropWhile fun c => c == '.' || c.isDigit).drop 1
  ⟨literal.head? == some '-', body.takeWhile Char.isDigit, fraction, power.head? == some '-',
    power.dropWhile fun c => c == '-' || c == '+'⟩

/-- A number as JSON gives it. -/
inductive Number where
  | integer (n : Int)
  | double (negative : Bool) (magnitude : Binary64)

namespace Number

/-- The double of a literal. An exponent beyond 31 bits makes it zero or too large. -/
def double? (p : NumberParts) : Option Binary64 :=
  let s := (Significand.addWhole ⟨0, 0⟩ p.whole).addFraction p.fraction
  let power := digitsValue p.exponent
  if power < 2147483648 then
    Significand.double? ⟨s.value, if p.exponentNegative then s.exponent - power
      else s.exponent + power⟩
  else if s.value = 0 ∨ p.exponentNegative then some .zero
  else none

/-- The number of a literal: a whole number without an exponent that fits 64 bits as it is, and
any other as a double. Minus zero is a double. -/
def ofLiteral? (literal : List Char) : Option Number :=
  let p := NumberParts.ofLiteral literal
  let n := digitsValue p.whole
  let isWhole := literal.all fun c => c.isDigit || c == '-'
  if isWhole ∧ !p.negative ∧ n < 18446744073709551616 then some (integer n)
  else if isWhole ∧ p.negative ∧ 0 < n ∧ n ≤ 9223372036854775808 then some (integer (-n))
  else (double? p).map (double p.negative)

end Number

end Formulary.Json
