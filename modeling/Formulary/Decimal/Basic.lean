-- Decimal numbers: a whole number of units, and the place of the unit. Sums and
-- differences are exact, and products are where the sum of the two places is one; the
-- place that each result gets is part of the rule, because division and the nearest
-- double look at it.
import Formulary.Powers

namespace Formulary

/-- The number `int * 10 ^ (-place)`. One value has many forms: 1.5 and 1.50 differ only in
their place. A place has 64 bits, and what is beyond them in a sum of places is lost. -/
structure Decimal where
  int : Int
  place : Int64
  deriving DecidableEq, Repr, Inhabited

namespace Decimal

/-- The place as an integer without bounds. -/
def scale (x : Decimal) : Int := x.place.toInt

/-! ## Digits -/

/-- How many decimal digits a natural number has. Zero has one. -/
def digitCount (n : Nat) : Nat := (Nat.toDigits 10 n).length

/-- The digits of a number without its sign and its point. -/
def digits (x : Decimal) : Nat := digitCount x.int.natAbs

/-- The place just above the leading digit: a number that is not zero lies between
`10 ^ (magnitude - 1)` and `10 ^ magnitude`. -/
def magnitude (x : Decimal) : Int := (x.digits : Int) - x.scale

/-! ## The forms of one value -/

def zero : Decimal := ⟨0, 0⟩

def one : Decimal := ⟨1, 0⟩

def ofInt (n : Int) : Decimal := ⟨n, 0⟩

def isZero (x : Decimal) : Bool := x.int == 0

/-- The same value at a place that is further behind the point. Another place changes nothing. -/
def extendTo (x : Decimal) (place : Int64) : Decimal :=
  if place ≤ x.place then x
  else if x.int = 0 then ⟨0, place⟩
  else ⟨x.int * tenPow (place.toInt - x.scale).toNat, place⟩

/-- Takes at most `fuel` trailing zeros off. -/
def stripZeros : Nat → Decimal → Decimal
  | 0, x => x
  | fuel + 1, x => if x.int % 10 = 0 then stripZeros fuel ⟨x.int / 10, x.place - 1⟩ else x

/-- The most zeros that are counted at the end of a number, as digits in memory are. -/
def maxZeros : Nat := 9223372036854775807

/-- The form without trailing zeros; the place may become negative. Zero has place zero. -/
def normalized (x : Decimal) : Decimal :=
  if x.int = 0 then zero else stripZeros (min x.digits maxZeros) x

/-! ## Order -/

/-- Compares two numbers of one sign and one magnitude, so that their scales are not further
apart than their digit counts. -/
def compareAligned (x y : Decimal) : Ordering :=
  let scale := max x.scale y.scale
  compare (x.int * tenPow (scale - x.scale).toNat) (y.int * tenPow (scale - y.scale).toNat)

/-- The order of the values; scales do not matter. The signs decide first, then the place of
the leading digit, so that no number is written out to the scale of a far smaller one. -/
def compareValue (x y : Decimal) : Ordering :=
  if x.int.sign ≠ y.int.sign then compare x.int.sign y.int.sign
  else if x.int = 0 then .eq
  else if x.magnitude ≠ y.magnitude then
    if 0 < x.int then compare x.magnitude y.magnitude else compare y.magnitude x.magnitude
  else compareAligned x y

/-- The number has the value one, in whatever form. -/
def isOne (x : Decimal) : Bool := x.compareValue one == .eq

/-! ## Operations -/

def neg (x : Decimal) : Decimal := ⟨-x.int, x.place⟩

/-- The exact sum, at the place that is further behind the point. -/
def add (x y : Decimal) : Decimal :=
  if y.int = 0 then x.extendTo y.place
  else if x.int = 0 then y.extendTo x.place
  else ⟨(x.extendTo y.place).int + (y.extendTo x.place).int, (x.extendTo y.place).place⟩

/-- The exact difference, at the place that is further behind the point. Taking zero away changes
nothing, not even the place, and a number taken from zero keeps its place. -/
def sub (x y : Decimal) : Decimal :=
  if y.int = 0 then x
  else if x.int = 0 then y.neg
  else x.add y.neg

/-- The product, at the sum of the places. A factor of the value one drops out. -/
def mul (x y : Decimal) : Decimal :=
  if x.isOne then y else if y.isOne then x else ⟨x.int * y.int, x.place + y.place⟩

end Decimal

end Formulary
