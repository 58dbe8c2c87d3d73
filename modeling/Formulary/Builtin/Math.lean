-- The Math plugin: the methods on numbers once more, means, fixed places, and pi.
import Formulary.Builtin.Arithmetic
import Formulary.Decimal.Printer

namespace Formulary.Builtin

/-- The most fraction digits that a number can be fixed to. -/
def maxFixedPlaces : Nat := 100

/-- Half the sum of two numbers. -/
def mean (x y : Decimal) : Except Fault Decimal := do
  (← x.sum y).quotient (.ofInt 2)

/-- The text of a number rounded to so many places. -/
def fixedText (x : Decimal) (places : Nat) : Except Fault String :=
  if maxFixedPlaces < places then .error (.invalidData "decimals")
  else .ok (x.roundTo (.ofNat places)).toText

def fixedMethod : Method where
  name := "fixed"
  description := some "Fixed-point text with the given number of decimals"
  inputs := [required "value" .number, required "decimals" .number]
  output := .text
  run := fun args => do
    let x ← numberArg args 0
    let places ← countArg "decimals" args 1
    .text <$> fixedText x places

/-- Pi to fifteen places. -/
def pi : Variable := ⟨"PI", some "Pi", .number, .number ⟨3141592653589793, 15⟩⟩

/-- The Math plugin. -/
def math : Plugin where
  name := "Math"
  methods := numberMethods ++ [calculation "average" "Mean of two numbers" mean, fixedMethod]
  vars := [pi]

end Formulary.Builtin
