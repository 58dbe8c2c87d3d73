-- The arithmetic of formulas: decimals within bounds. Results keep at most 1100 places
-- and must stay within the range of the doubles.
import Formulary.Decimal.Division
import Formulary.Decimal.Nearest
import Formulary.Decimal.Rounding
import Formulary.Fault
import Formulary.Operator
import Formulary.Value

namespace Formulary.Decimal

/-! ## Bounds -/

/-- The most fraction digits of a result. Every double has an exact form with fewer. -/
def maxPlaces : Int := 1100

/-- The fraction digits of a quotient. -/
def quotientPlaces : Int := 20

/-- The largest exponent that a power is computed exactly for. -/
def maxExactExponent : Int64 := 4096

/-- The number rounded to 1100 places, if it has more. Where the leading digit is too far
behind the point, nothing is left. -/
def bound (x : Decimal) : Decimal :=
  if x.scale ≤ maxPlaces then x
  else if x.magnitude < -maxPlaces then zero
  else x.roundTo (.ofInt maxPlaces)

/-- Refuses a number beyond the doubles. -/
def finite (x : Decimal) : Except Fault Decimal :=
  if x.isFinite then .ok x else .error .tooLarge

/-! ## Operations -/

def sum (x y : Decimal) : Except Fault Decimal := finite (bound (x.bound.add y.bound))

def difference (x y : Decimal) : Except Fault Decimal := finite (bound (x.bound.sub y.bound))

def product (x y : Decimal) : Except Fault Decimal := finite (bound (x.bound.mul y.bound))

def quotient (x y : Decimal) : Except Fault Decimal :=
  if y.bound.isZero then .error .divisionByZero
  else finite ((x.bound.divide y.bound).roundTo (.ofInt quotientPlaces)).normalized

/-! ## Powers -/

/-- The product; the other factor of a one is put into its form without trailing
zeros. -/
def mulNormalized (x y : Decimal) : Decimal :=
  if x.isOne then y.normalized else if y.isOne then x.normalized else x.mul y

/-- `result * square ^ n` by repeated squaring, each product within the bound. -/
def exactSquarings (result square : Decimal) (n : Nat) : Decimal :=
  if n = 0 then result
  else
    let result := if n % 2 = 1 then bound (result.mulNormalized square) else result
    if n / 2 = 0 then result
    else exactSquarings result (bound (square.mulNormalized square)) (n / 2)
termination_by n

/-- A power with a whole exponent. The power of the doubles tells beforehand whether the
result is too large, or so small that it counts as zero. -/
def exactPower (x : Decimal) (exponent : Int64) : Except Fault Decimal :=
  let estimate := x.toBinary64.power exponent.toInt32.toInt
  if !x.isZero && !estimate.isFinite then .error .tooLarge
  else if !x.isZero && estimate.isZero then .ok zero
  else
    let magnitude := exactSquarings one x.bound exponent.toInt.natAbs
    if exponent < 0 then quotient one magnitude else finite magnitude

/-- A power of doubles. -/
def doublePower (x y : Decimal) : Except Fault Decimal :=
  let result := Float.pow x.toFloat y.toFloat
  if result.isNaN then .error (.invalidData "pow")
  else if result.isInf then .error .tooLarge
  else .ok (ofFloat result)

/-- The exponent of a power that is computed exactly: a whole number whose 64-bit absolute
value is at most 4096. -/
def exactExponent? (y : Decimal) : Option Int64 :=
  if y.isInteger then y.toInt64?.filter fun e => e.abs ≤ maxExactExponent else none

/-- One number raised to another. -/
def power (x y : Decimal) : Except Fault Decimal :=
  match exactExponent? y with
  | some exponent => exactPower x exponent
  | none => doublePower x y

end Formulary.Decimal

namespace Formulary.Operator

/-- The order that a comparison asks for. -/
def holds (op : Operator) (order : Ordering) : Bool :=
  match op with
  | greater => order == .gt
  | greaterEqual => order != .lt
  | less => order == .lt
  | lessEqual => order != .gt
  | equal => order == .eq
  | notEqual => order != .eq
  | _ => false

/-- What an operator makes of two numbers. -/
def apply (op : Operator) (x y : Decimal) : Except Fault Value :=
  match op with
  | add => .number <$> x.sum y
  | subtract => .number <$> x.difference y
  | multiply => .number <$> x.product y
  | divide => .number <$> x.quotient y
  | _ => .ok (.boolean (op.holds (x.compareValue y)))

end Formulary.Operator
