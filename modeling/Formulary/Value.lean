-- The values of formulas, and how each one is shown.
import Formulary.Calendar.Pattern
import Formulary.Decimal.Printer
import Formulary.TypeMask

namespace Formulary

/-- What a formula computes. -/
inductive Value where
  | text (text : String)
  | number (number : Decimal)
  | boolean (flag : Bool)
  | datetime (moment : Datetime)
  deriving DecidableEq, Repr

namespace Value

/-- The type of a value. -/
def type : Value → TypeMask
  | text _ => .text
  | number _ => .number
  | boolean _ => .boolean
  | datetime _ => .datetime

def asText? : Value → Option String
  | text s => some s
  | _ => none

def asNumber? : Value → Option Decimal
  | number n => some n
  | _ => none

def asBoolean? : Value → Option Bool
  | boolean b => some b
  | _ => none

def asDatetime? : Value → Option Datetime
  | datetime d => some d
  | _ => none

/-- The text of a value: numbers without trailing zeros, moments to the second. -/
def display : Value → String
  | text s => s
  | number n => n.normalized.toText
  | boolean b => if b then "true" else "false"
  | datetime d => String.ofList (Calendar.display d)

end Value

end Formulary
