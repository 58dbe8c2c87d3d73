-- Long division of decimals: the quotient digit by digit, up to a hundred digits.
import Formulary.Decimal.Basic

namespace Formulary.Decimal

/-- The most digits that long division brings down. -/
def quotientDigits : Nat := 100

/-! ## Long division -/

/-- Multiplies the numerator by ten until it reaches the denominator, and counts how often. -/
def scaleUp (num den : Nat) : Nat × Nat :=
  if _h : 0 < num ∧ num < den then
    let (n, k) := scaleUp (num * 10) den
    (n, k + 1)
  else (num, 0)
termination_by den - num
decreasing_by omega

/-- A quotient under way: the digits so far, what remains, and the digits brought down. -/
structure LongDivision where
  quotient : Nat
  rest : Nat
  brought : Nat

/-- Brings down at most `room` more digits, and stops when nothing remains. -/
def bringDown (den : Nat) : Nat → LongDivision → LongDivision
  | 0, p => p
  | room + 1, p =>
    if p.rest = 0 then p
    else bringDown den room
      ⟨p.quotient * 10 + p.rest * 10 / den, p.rest * 10 % den, p.brought + 1⟩

/-- The quotient of two positive numbers and the places it has gained. If digits are left
over, the last digit is rounded half up by the next one. -/
def longDivide (num den : Nat) : Nat × Nat :=
  let (num, raised) := scaleUp num den
  let first := num / den
  let p := bringDown den (quotientDigits - digitCount first) ⟨first, num % den, 0⟩
  let last := if 5 ≤ p.rest * 10 / den then 1 else 0
  (p.quotient + last, raised + p.brought)

/-- The quotient of two numbers, the divisor not zero. It has a hundred digits, or as many as
its whole part, unless it ends before. -/
def divide (x y : Decimal) : Decimal :=
  if x.int = 0 ∨ y.isOne then x
  else
    let place := x.place - y.place
    if x.int = y.int then ⟨1, place⟩
    else
      let (quotient, places) := longDivide x.int.natAbs y.int.natAbs
      ⟨x.int.sign * y.int.sign * quotient, place + .ofNat places⟩

end Formulary.Decimal
