-- How a decimal is read from text: a sign, digits with a point and underscores
-- between them, and an exponent.
import Formulary.Decimal.Basic
import Formulary.Digits

namespace Formulary.Decimal

/-! ## Digits -/

/-- A run of digits with an optional sign. -/
def signedDigits? (cs : List Char) : Option Int :=
  let read (ds : List Char) : Option Int :=
    if ds ≠ [] ∧ ds.all Char.isDigit then some (digitsValue ds) else none
  match cs with
  | '+' :: ds => read ds
  | '-' :: ds => (read ds).map (-·)
  | ds => read ds

/-- A number of so many units, if their scale is a place. -/
def ofParts? (int scale : Int) : Option Decimal :=
  if -9223372036854775808 ≤ scale ∧ scale < 9223372036854775808 then some ⟨int, .ofInt scale⟩
  else none

/-! ## The grammar -/

/-- The digits before the exponent: a `-` or a `+`, a digit, and then digits and
underscores. -/
def mantissa? (cs : List Char) : Option Int :=
  let read (ds : List Char) : Option Int :=
    if ds.head?.any Char.isDigit ∧ ds.all (fun c => c.isDigit || c == '_') then
      some (digitsValue (ds.filter (· ≠ '_')))
    else none
  match cs with
  | '+' :: ds => read ds
  | '-' :: ds => (read ds).map (-·)
  | ds => read ds

/-- Takes the first point out of the digits, and counts the digits after it. A point at the
very end counts none. -/
def splitPoint (cs : List Char) : List Char × Nat :=
  match cs.dropWhile (· ≠ '.') with
  | [] => (cs, 0)
  | _ :: fraction =>
    (cs.takeWhile (· ≠ '.') ++ fraction, (fraction.filter (· ≠ '_')).length)

/-- Reads a number from its characters. -/
def read? (cs : List Char) : Option Decimal := do
  let isMark (c : Char) : Bool := c == 'e' || c == 'E'
  let (digits, places) := splitPoint (cs.takeWhile (!isMark ·))
  let int ← mantissa? digits
  let exponent ← match cs.dropWhile (!isMark ·) with
    | [] => some 0
    | _ :: e => signedDigits? e
  ofParts? int (places - exponent)

/-- Reads a number from text. -/
def ofText? (text : String) : Option Decimal := read? text.toList

end Formulary.Decimal
