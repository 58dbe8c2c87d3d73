-- What a single character begins, seen where a new token may begin.
import Formulary.Operator
import Formulary.Text.Alphanumeric
import Formulary.Text.Blank

namespace Formulary

/-- What the scanner sees at a place between tokens. -/
inductive CharClass where
  | endOfText
  | space
  | groupStart
  | groupEnd
  | digit
  | decimalPoint
  | operator
  | quote
  | referenceStart
  | callStart
  | comma
  | other
  deriving DecidableEq, Repr

/-- The class of a character. -/
def CharClass.ofChar (c : Char) : CharClass :=
  if Text.isBlank c then .space
  else if c = '(' then .groupStart
  else if c = ')' then .groupEnd
  else if c.isDigit then .digit
  else if c = '.' then .decimalPoint
  else if isOperatorChar c then .operator
  else if c = '\'' ∨ c = '"' then .quote
  else if c = '\x7b' then .referenceStart
  else if c = '$' then .callStart
  else if c = ',' then .comma
  else .other

/-- The class of the next character, if there is one. -/
def CharClass.of : Option Char → CharClass
  | none => .endOfText
  | some c => .ofChar c

/-- The characters that the name of a method is made of. -/
def isNameChar (c : Char) : Bool := Text.isAlphanumeric c || c == '_'

end Formulary
