-- The Arithmetic plugin: the operators as methods, and the number that a value stands for.
import Formulary.Arithmetic
import Formulary.Builtin.Arguments
import Formulary.Decimal.Reader
import Formulary.Plugin
import Formulary.Text.Blank

namespace Formulary.Builtin

/-! ## Numbers of values -/

/-- The number that a text stands for: none at all is zero, and anything but a number is no
number. -/
def numberOfText (text : String) : Except Fault Decimal :=
  let text := Text.trim text
  if text.isEmpty then .ok .zero
  else match Decimal.ofText? text with
    | none => .error (.unexpectedKind "number")
    | some x => x.bound.finite

/-- The number that a value stands for: truth is one, and moments are milliseconds from the
epoch. -/
def toNumber : Value → Except Fault Decimal
  | .number n => .ok n
  | .boolean b => .ok (if b then .one else .zero)
  | .datetime d => .ok (.ofInt d.epochMillis)
  | .text s => numberOfText s

/-! ## Methods -/

/-- A method on two numbers. -/
def numberMethod (name description : String) (output : TypeMask)
    (f : Decimal → Decimal → Except Fault Value) : Method where
  name := name
  description := some description
  inputs := [required "x" .number, required "y" .number]
  output := output
  run := fun args => do
    let x ← numberArg args 0
    let y ← numberArg args 1
    f x y

/-- An operation on two numbers as a method. -/
def calculation (name description : String)
    (f : Decimal → Decimal → Except Fault Decimal) : Method :=
  numberMethod name description .number fun x y => .number <$> f x y

/-- A comparison of two numbers as a method. -/
def comparison (name description : String) (op : Operator) : Method :=
  numberMethod name description .boolean fun x y =>
    .ok (.boolean (op.holds (x.compareValue y)))

/-- The method that makes a number of a value. -/
def numberConversion : Method where
  name := "number"
  description := some "Convert a value to a number"
  inputs := [optional "value" .value]
  output := .number
  run := fun args => do .number <$> toNumber (← argument args 0)

/-- The methods that work on numbers. -/
def numberMethods : List Method :=
  [calculation "add" "Sum of two numbers" Decimal.sum,
    calculation "minus" "Difference of two numbers" Decimal.difference,
    calculation "multi" "Product of two numbers" Decimal.product,
    calculation "div" "Quotient of two numbers" Decimal.quotient,
    calculation "pow" "x raised to the power y" Decimal.power,
    comparison "gte" "x >= y" .greaterEqual,
    comparison "gt" "x > y" .greater,
    comparison "lte" "x <= y" .lessEqual,
    comparison "lt" "x < y" .less,
    comparison "eq" "x == y" .equal,
    comparison "neq" "x != y" .notEqual,
    numberConversion]

/-- The Arithmetic plugin. -/
def arithmetic : Plugin := ⟨"Arithmetic", numberMethods, []⟩

end Formulary.Builtin
