-- The doubles from zero up, computed in whole numbers: the double nearest to a
-- fraction, products, inverses and powers, each rounded as the standard says.
import Formulary.Powers

namespace Formulary

/-- A double that is not negative: `mantissa * 2 ^ exponent`, or too large for one. -/
inductive Binary64 where
  | finite (mantissa : Nat) (exponent : Int)
  | infinite
  deriving DecidableEq, Repr

namespace Binary64

/-! ## Parameters -/

/-- The bits of a mantissa. -/
def precision : Nat := 53

/-- The exponent of the smallest double. -/
def minExponent : Int := -1074

/-- The exponent of the largest double. -/
def maxExponent : Int := 971

def zero : Binary64 := finite 0 0

def one : Binary64 := finite 1 0

def isFinite : Binary64 → Bool
  | finite _ _ => true
  | infinite => false

def isZero : Binary64 → Bool
  | finite m _ => m == 0
  | infinite => false

/-! ## Rounding -/

/-- The whole number nearest to `num / den`; of two, the even one. -/
def roundHalfEven (num den : Nat) : Nat :=
  let q := num / den
  let r := num % den
  if 2 * r < den then q
  else if den < 2 * r then q + 1
  else q + q % 2

/-- `num * 2 ^ k` over `den`, as a fraction of whole numbers. -/
def shifted (num den : Nat) (k : Int) : Nat × Nat :=
  if 0 ≤ k then (num * twoPow k.toNat, den) else (num, den * twoPow (-k).toNat)

/-- The exponent of the leading bit: `2 ^ e ≤ num / den < 2 ^ (e + 1)`. -/
def leadingBit (num den : Nat) : Int :=
  let e : Int := (num.log2 : Int) - den.log2
  let (n, d) := shifted num den (-e)
  if n < d then e - 1 else e

/-- The double nearest to `num / den`; of two, the one with the even mantissa. -/
def nearest (num den : Nat) : Binary64 :=
  if num = 0 then zero
  else
    let unit := max (leadingBit num den - (precision - 1)) minExponent
    let (n, d) := shifted num den (-unit)
    let m := roundHalfEven n d
    if maxExponent < unit ∨ unit = maxExponent ∧ m = twoPow precision then infinite
    else finite m unit

/-! ## Operations -/

/-- The product, rounded once. -/
def mul : Binary64 → Binary64 → Binary64
  | finite m e, finite n f =>
    let (num, den) := shifted (m * n) 1 (e + f)
    nearest num den
  | _, _ => infinite

/-- The quotient, rounded once. Nothing finite reaches a quotient by zero. -/
def div : Binary64 → Binary64 → Binary64
  | finite m e, finite n f =>
    if n = 0 then infinite
    else
      let (num, den) := shifted m n (e - f)
      nearest num den
  | finite _ _, infinite => zero
  | infinite, _ => infinite

/-- One divided by the number, rounded once. -/
def inverse (x : Binary64) : Binary64 := one.div x

/-- `result * square ^ n` by repeated squaring, each product rounded. -/
def squarings (result square : Binary64) (n : Nat) : Binary64 :=
  if n = 0 then result
  else
    let result := if n % 2 = 1 then result.mul square else result
    if n / 2 = 0 then result else squarings result (square.mul square) (n / 2)
termination_by n

/-- A whole power, by repeated squaring; a negative one is the inverse of the positive one. -/
def power (x : Binary64) (n : Int) : Binary64 :=
  let p := squarings one x n.natAbs
  if n < 0 then p.inverse else p

/-! ## Machine doubles -/

/-- The machine double with this value. -/
def toFloat : Binary64 → Float
  | finite m e => Float.scaleB m.toFloat e
  | infinite => 1.0 / 0.0

/-- The mantissa and the exponent of a finite machine double, without its sign. -/
def ofFloat (x : Float) : Nat × Int :=
  let bits := x.toBits.toNat
  let field : Nat := bits / twoPow 52 % twoPow 11
  let fraction : Nat := bits % twoPow 52
  if field = 0 then (fraction, minExponent)
  else (twoPow 52 + fraction, (field : Int) - 1075)

end Binary64

end Formulary
