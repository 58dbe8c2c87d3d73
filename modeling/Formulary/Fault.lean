-- Why a formula cannot be read or computed: the causes, their wording, and the
-- categories they fall into.
import Formulary.TypeMask

namespace Formulary

/-- Why a formula fails. -/
inductive Fault where
  /-- The text ends where an operand, a quote or a brace is due. -/
  | unexpectedEnd
  /-- A character or an operator that cannot stand where it does. -/
  | unexpectedToken (token : String)
  /-- A number that is not written as one. -/
  | malformedNumber
  /-- Braces with nothing between them. -/
  | emptyVariableName
  /-- An argument list without a name before it. -/
  | emptyMethodName
  /-- Parentheses with nothing between them. -/
  | emptyGroup
  /-- A group without its closing parenthesis. -/
  | unclosedGroup
  /-- A text right after an operator. -/
  | textAfterOperator
  /-- Something of the named kind where it cannot stand. -/
  | unexpectedKind (kind : String)
  /-- An argument or an operand of the wrong type. -/
  | argumentType (actual expected : TypeMask)
  /-- A variable or a result of the wrong type. -/
  | valueType (actual expected : TypeMask)
  /-- A value of the right type that does not fit. -/
  | invalidData (what : String)
  /-- A variable that nobody has set. -/
  | undefinedVariable (name : String)
  /-- A name that is called and is no method. -/
  | notAMethod (name : String)
  /-- A method name without its argument list. -/
  | uncalledMethod (name : String)
  /-- No arguments at all where some are required. -/
  | tooFewArguments (least : Nat)
  /-- Another number of arguments than the one required. -/
  | argumentCount (expected got : Nat)
  /-- A number of arguments outside the range allowed. -/
  | argumentRange (least most got : Nat)
  /-- More arguments than there are inputs. -/
  | tooManyArguments (most : Nat)
  /-- A method declared with a required input after an optional one. -/
  | requiredAfterOptional (method : String)
  /-- A number beyond the doubles. -/
  | tooLarge
  | divisionByZero
  /-- A variable that is declared a second time. -/
  | redeclaredVariable (name : String)
  /-- A failure in a method's own words. -/
  | custom (message : String)
  /-- A failure inside a method, with the text of the call. -/
  | inCall (span : String) (cause : Fault)
  deriving DecidableEq, Repr

/-- The kinds of faults. -/
inductive Fault.Category where
  | syntactic
  | type
  | reference
  | arity
  | numeric
  | registration
  | custom
  deriving DecidableEq, Repr

namespace Fault

/-- The category of a fault. -/
def category : Fault → Category
  | unexpectedEnd | unexpectedToken _ | malformedNumber | emptyVariableName
  | emptyMethodName | emptyGroup | unclosedGroup | textAfterOperator => .syntactic
  | unexpectedKind _ | argumentType _ _ | valueType _ _ | invalidData _ => .type
  | undefinedVariable _ | notAMethod _ | uncalledMethod _ => .reference
  | tooFewArguments _ | argumentCount _ _ | argumentRange _ _ _ | tooManyArguments _
  | requiredAfterOptional _ => .arity
  | tooLarge | divisionByZero => .numeric
  | redeclaredVariable _ => .registration
  | Fault.custom _ | inCall _ _ => .custom

/-- What a fault is called to the reader of the formula. -/
def message : Fault → String
  | unexpectedEnd => "Unexpected end of input."
  | unexpectedToken token => s!"Unexpected token '{token}'."
  | malformedNumber => "Invalid or unexpected token"
  | emptyVariableName => "variable name can not be empty."
  | emptyMethodName => "Function name cannot be empty."
  | emptyGroup => "The group cannot be empty"
  | unclosedGroup => "The group should end with \")\"."
  | textAfterOperator => "Cannot follow string after operator."
  | unexpectedKind kind => s!"Unexpected {kind}."
  | argumentType actual expected =>
    s!"Argument of type '{actual.name}' is not assignable to parameter of type '{expected.name}'."
  | valueType actual expected =>
    s!"Type '{actual.name}' is not assignable to type '{expected.name}'."
  | invalidData what => s!"Invalid data: {what}."
  | undefinedVariable name => s!"{name} is not defined."
  | notAMethod name => s!"{name} is not a function."
  | uncalledMethod name => s!"Method ${name} not called."
  | tooFewArguments least => s!"At least {least} arguments is required."
  | argumentCount expected got => s!"Expected {expected} arguments, but got {got}."
  | argumentRange least most got => s!"Expected {least} to {most} arguments, but got {got}."
  | tooManyArguments most => s!"At most {most} arguments is required."
  | requiredAfterOptional method =>
    s!"[method {method}] A required parameter cannot follow an optional parameter."
  | tooLarge => "The number will become Infinity."
  | divisionByZero => "Division by zero."
  | redeclaredVariable name => s!"Cannot redeclare variable '{name}'."
  | Fault.custom message => message
  | inCall span cause => s!"[{span}] " ++ cause.message

end Fault

theorem ok_bind {α β : Type} (a : α) (f : α → Except Fault β) : (Except.ok a >>= f) = f a := rfl

/-- Two steps without a fault are each without one. -/
theorem exists_of_bind_eq_ok {α β : Type} {first : Except Fault α} {second : α → Except Fault β}
    {b : β} (h : (first >>= second) = .ok b) : ∃ a, first = .ok a ∧ second a = .ok b := by
  cases first with
  | error fault => cases h
  | ok a => exact ⟨a, rfl, h⟩

end Formulary
