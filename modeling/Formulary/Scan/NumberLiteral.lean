-- Numbers as formulas write them: no zeros in front, a fraction, and an exponent.
import Formulary.Decimal.Nearest
import Formulary.Decimal.Reader
import Formulary.Fault

namespace Formulary

/-- The parts of a number literal. -/
structure NumberLiteral where
  whole : List Char
  fraction : List Char
  exponent : Int
  deriving DecidableEq, Repr

namespace NumberLiteral

/-- Cuts a literal into digits, a point with digits, and an exponent. Zero is the only whole
part that begins with a zero, and there must be a digit before the exponent. -/
def read? (cs : List Char) : Option NumberLiteral :=
  let whole := cs.takeWhile Char.isDigit
  let (fraction, rest) := match cs.dropWhile Char.isDigit with
    | '.' :: rest => (rest.takeWhile Char.isDigit, rest.dropWhile Char.isDigit)
    | rest => ([], rest)
  if whole.head? = some '0' ∧ whole.length ≠ 1 then none
  else if whole = [] ∧ fraction = [] then none
  else match rest with
    | [] => some ⟨whole, fraction, 0⟩
    | 'e' :: exponent => (Decimal.signedDigits? exponent).map fun e => ⟨whole, fraction, e⟩
    | _ => none

/-- The number that a literal stands for, if its scale is one that numbers can have. -/
def value? (l : NumberLiteral) (negative : Bool) : Option Decimal :=
  let n : Int := digitsValue (l.whole ++ l.fraction)
  Decimal.ofParts? (if negative then -n else n) (l.fraction.length - l.exponent)

/-- The number that a literal is read as: a literal beyond the doubles is refused, and one
below them is zero. -/
def evaluate (cs : List Char) (negative : Bool) : Except Fault Decimal :=
  match (read? cs).bind (·.value? negative) with
  | none => .error .malformedNumber
  | some x =>
    if !x.isFinite then .error .tooLarge
    else if x.toBinary64.isZero then .ok .zero
    else .ok x

end NumberLiteral

end Formulary
