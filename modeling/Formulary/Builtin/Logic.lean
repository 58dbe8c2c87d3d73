-- The Logic plugin: truth values, what connects them, and the choice between two values.
import Formulary.Builtin.Arguments
import Formulary.Plugin

namespace Formulary.Builtin

/-- A method that always gives the same truth value. -/
def constant (name description : String) (b : Bool) : Method where
  name := name
  description := some description
  inputs := []
  output := .boolean
  run := fun _ => .ok (.boolean b)

/-- A method on two truth values. -/
def connective (name description : String) (f : Bool → Bool → Bool) : Method where
  name := name
  description := some description
  inputs := [required "condition1" .boolean, required "condition2" .boolean]
  output := .boolean
  run := fun args => do
    let a ← booleanArg args 0
    let b ← booleanArg args 1
    pure (.boolean (f a b))

def negation : Method where
  name := "not"
  description := some "Negation"
  inputs := [required "value" .boolean]
  output := .boolean
  run := fun args => do pure (.boolean !(← booleanArg args 0))

/-- The choice of a value by a condition. A branch that is missing is the condition itself. -/
def choice : Method where
  name := "if"
  description := some "Pick a value by condition"
  inputs := [required "condition" .boolean, optional "value_if_true" .value,
    optional "value_if_false" .value]
  output := .value
  run := fun args => do
    let condition ← booleanArg args 0
    pure (args.getD (if condition then 1 else 2) (.boolean condition))

/-- The Logic plugin. -/
def logic : Plugin where
  name := "Logic"
  methods :=
    [constant "true" "Returns true" true,
      constant "false" "Returns false" false,
      connective "and" "Both conditions hold" and,
      connective "or" "Either condition holds" or,
      connective "xor" "Exactly one condition holds" xor,
      negation,
      choice]
  vars := []

end Formulary.Builtin
