-- How the methods that come with the engine look at their arguments. Calls from formulas
-- are checked before, but a method can also be run by itself.
import Formulary.Decimal.Rounding
import Formulary.Method

namespace Formulary.Builtin

/-! ## Declaring inputs -/

def required (name : String) (type : TypeMask) : Input := ⟨name, type, true⟩

def optional (name : String) (type : TypeMask) : Input := ⟨name, type, false⟩

/-! ## Arguments -/

/-- The argument at a place. -/
def argument (args : List Value) (i : Nat) : Except Fault Value :=
  match args[i]? with
  | some v => .ok v
  | none => .error (.tooFewArguments (i + 1))

/-- The content of an argument that must be of one type. -/
def typed {α : Type} (content? : Value → Option α) (type : TypeMask) (args : List Value)
    (i : Nat) : Except Fault α := do
  let v ← argument args i
  match content? v with
  | some a => .ok a
  | none => .error (.argumentType v.type type)

def numberArg : List Value → Nat → Except Fault Decimal := typed Value.asNumber? .number

def textArg : List Value → Nat → Except Fault String := typed Value.asText? .text

def booleanArg : List Value → Nat → Except Fault Bool := typed Value.asBoolean? .boolean

def datetimeArg : List Value → Nat → Except Fault Datetime := typed Value.asDatetime? .datetime

/-- A number without its fraction, which must be a 64-bit integer. -/
def integerArg (what : String) (args : List Value) (i : Nat) : Except Fault Int := do
  match (← numberArg args i).toInt64? with
  | some n => .ok n.toInt
  | none => .error (.invalidData what)

/-- A number of things: an integer that is not negative. -/
def countArg (what : String) (args : List Value) (i : Nat) : Except Fault Nat := do
  match (← integerArg what args i).toNat? with
  | some n => .ok n
  | none => .error (.invalidData what)

end Formulary.Builtin
