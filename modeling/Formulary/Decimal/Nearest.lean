-- The double that stands for a decimal, and the decimal that a double is.
import Formulary.Decimal.Basic
import Formulary.Binary64

namespace Formulary.Decimal

/-! ## From decimals to doubles -/

/-- About how many decimal digits a number of that many bits has: the bits and one more, times
the decimal logarithm of two. -/
def digitEstimate (bits : Nat) : Nat := (bits + 1) * 30102999566398119521 / tenPow 20

/-- How many groups of 19 digits a long number loses at its end before it is rounded: all but
the first 25 digits, in whole groups. -/
def spareGroups (n : Nat) : Nat := (digitEstimate (n.log2 + 1) - 25) / 19

/-- The double nearest to `n * 10 ^ (-places)`. Below `10 ^ (-400)` that is zero. -/
def nearestFraction (n places : Nat) : Binary64 :=
  if digitCount n + 400 < places then .zero else .nearest n (tenPow places)

/-- The double that stands for `n * 10 ^ (-scale)`. A number with places is rounded once; a
number with a power of ten is rounded before and after it is multiplied by the power. A scale
outside 32 bits makes the number too large, on both sides. -/
def approximate (n : Nat) (scale : Int) : Binary64 :=
  if n = 0 then .zero
  else if scale = 0 then .nearest n 1
  else
    let groups := spareGroups n
    let n := n / tenPow (19 * groups)
    -- A difference that does not have 64 bits is outside 32 bits as well, wrapped or not.
    let scale := scale - 19 * groups
    if 2147483648 ≤ scale ∨ scale ≤ -2147483648 then .infinite
    else if scale ≤ 0 then (Binary64.nearest n 1).mul ((Binary64.nearest 10 1).power (-scale))
    else nearestFraction n scale.toNat

/-- The double that stands for a number, without its sign. -/
def toBinary64 (x : Decimal) : Binary64 := approximate x.int.natAbs x.scale

/-- The number is within the range of the doubles. -/
def isFinite (x : Decimal) : Bool := x.toBinary64.isFinite

/-- The machine double that stands for a number. -/
def toFloat (x : Decimal) : Float :=
  if x.int < 0 then -x.toBinary64.toFloat else x.toBinary64.toFloat

/-! ## From doubles to decimals -/

/-- Takes factors of two out of a mantissa while the exponent is negative. -/
def halve : Nat → Nat → Int → Nat × Int
  | 0, m, e => (m, e)
  | fuel + 1, m, e => if m % 2 = 0 ∧ e < 0 then halve fuel (m / 2) (e + 1) else (m, e)

/-- The decimal with the value of `m * 2 ^ e`: half a unit is five tenths. -/
def ofBinary (m : Nat) (e : Int) : Decimal :=
  if m = 0 then zero
  else
    let (m, e) := halve 53 m e
    if e < 0 then ⟨m * fivePow (-e).toNat, .ofInt (-e)⟩ else ⟨m * twoPow e.toNat, 0⟩

/-- The decimal with exactly the value of a finite machine double. -/
def ofFloat (x : Float) : Decimal :=
  let (m, e) := Binary64.ofFloat x
  let magnitude := ofBinary m e
  if x < 0 then magnitude.neg else magnitude

end Formulary.Decimal
