-- How a decimal is written: plainly, or with an exponent where the plain form
-- would be mostly zeros.
import Formulary.Decimal.Basic

namespace Formulary.Decimal

/-! ## The three forms -/

/-- The digits with a point `places` digits before the end, and zeros where there are too few. -/
def withPoint (digits : List Char) (places : Nat) : List Char :=
  if places = 0 then digits
  else if digits.length ≤ places then
    '0' :: '.' :: (List.replicate (places - digits.length) '0' ++ digits)
  else
    digits.take (digits.length - places) ++ '.' :: digits.drop (digits.length - places)

/-- One digit, a point and the other digits, and the power of ten below one. -/
def scientific (digits : List Char) (scale : Int) : List Char :=
  let mantissa := match digits with
    | d :: e :: rest => d :: '.' :: e :: rest
    | ds => ds
  mantissa ++ 'E' :: '-' :: Nat.toDigits 10 (scale - digits.length + 1).toNat

/-- The form of a positive number. More than five zeros after the point make it scientific;
more than fifteen zeros at the end are written as a power of ten. -/
def magnitudeText (n : Nat) (scale : Int) : List Char :=
  let digits := Nat.toDigits 10 n
  if 5 < scale - digits.length then scientific digits scale
  else if scale < -15 then digits ++ 'e' :: '+' :: Nat.toDigits 10 (-scale).toNat
  else if scale ≤ 0 then digits ++ List.replicate (-scale).toNat '0'
  else withPoint digits scale.toNat

/-- The characters of a number; zero is `0` at every scale. -/
def render (x : Decimal) : List Char :=
  if x.int = 0 then ['0']
  else if x.int < 0 then '-' :: magnitudeText x.int.natAbs x.scale
  else magnitudeText x.int.natAbs x.scale

/-- The text of a number as it is stored, trailing zeros and all. -/
def toText (x : Decimal) : String := String.ofList x.render

end Formulary.Decimal
