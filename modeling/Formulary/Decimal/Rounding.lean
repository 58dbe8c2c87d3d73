-- Rounding a decimal to a number of places, half away from zero, and cutting it off
-- to a whole number.
import Formulary.Decimal.Basic

namespace Formulary.Decimal

/-! ## Places -/

/-- `n / 10 ^ places`, rounded half away from zero. A number with fewer digits than that is
below one half of the unit. -/
def roundShift (n : Int) (places : Nat) : Int :=
  if digitCount n.natAbs < places then 0
  else n.sign * (((n.natAbs + tenPow places / 2) / tenPow places : Nat) : Int)

/-- The number at exactly this place: zeros are added, or the digits beyond are rounded half away
from zero. -/
def roundTo (x : Decimal) (place : Int64) : Decimal :=
  if x.place ≤ place then x.extendTo place
  else ⟨roundShift x.int (x.scale - place.toInt).toNat, place⟩

/-! ## Whole numbers -/

/-- The number has no fraction. Fewer digits than fraction places leave a fraction. -/
def isInteger (x : Decimal) : Bool :=
  decide (x.scale ≤ 0) || decide (x.int = 0) ||
    (decide (x.scale < x.digits) && decide (x.int % tenPow x.scale.toNat = 0))

/-- The number without its fraction, if it is a 64-bit integer. More than 19 digits before
the point are too many for one. -/
def toInt64? (x : Decimal) : Option Int64 :=
  if x.int = 0 then some 0
  else if 19 < x.magnitude then none
  else
    let whole :=
      if x.scale ≤ 0 then x.int * tenPow (-x.scale).toNat
      else if x.magnitude ≤ 0 then 0
      else x.int.tdiv (tenPow x.scale.toNat)
    if -9223372036854775808 ≤ whole ∧ whole < 9223372036854775808 then some (Int64.ofInt whole)
    else none

end Formulary.Decimal
