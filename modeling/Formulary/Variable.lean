-- Variables that plugins declare: each has a type, and only values of that type.
import Formulary.Fault
import Formulary.NameTable
import Formulary.Value

namespace Formulary

/-- A declared variable. -/
structure Variable where
  name : String
  description : Option String
  type : TypeMask
  value : Value
  deriving DecidableEq, Repr

/-- The variables that are declared, by name. -/
abbrev VariableTable := NameTable Variable

namespace VariableTable

/-- Declares a variable. The name must be free, and the value of the declared type. -/
def add (t : VariableTable) (v : Variable) : Except Fault VariableTable :=
  if t.contains v.name then .error (.redeclaredVariable v.name)
  else if v.type.accepts v.value.type then .ok (t.insert v.name v)
  else .error (.valueType v.value.type v.type)

/-- The value of a variable. -/
def value (t : VariableTable) (name : String) : Except Fault Value :=
  match t.get? name with
  | none => .error (.undefinedVariable name)
  | some v => .ok v.value

/-- Gives a declared variable another value of its type. -/
def set (t : VariableTable) (name : String) (value : Value) : Except Fault VariableTable :=
  match t.get? name with
  | none => .error (.undefinedVariable name)
  | some v =>
    if v.type.accepts value.type then .ok (t.replace name { v with value })
    else .error (.valueType value.type v.type)

end VariableTable

end Formulary
