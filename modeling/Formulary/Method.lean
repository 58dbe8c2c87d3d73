-- Methods that formulas can call: their declared inputs, the table of them, and what is
-- checked before and after a call.
import Formulary.Fault
import Formulary.NameTable
import Formulary.Node

namespace Formulary

/-! ## Declarations -/

/-- A declared input of a method. -/
structure Input where
  name : String
  type : TypeMask
  required : Bool
  deriving DecidableEq, Repr

/-- What a method does with its arguments. -/
abbrev Callable := List Value → Except Fault Value

/-- A method with its name, its inputs in order, the type of its result, and what it does. -/
structure Method where
  name : String
  description : Option String
  inputs : List Input
  output : TypeMask
  run : Callable

namespace Method

/-- How many inputs must have an argument. -/
def requiredCount (m : Method) : Nat := m.inputs.countP (·.required)

/-- No input that must have an argument comes after one that need not. -/
def requiredFirst : List Input → Bool
  | [] => true
  | input :: rest =>
    if input.required then requiredFirst rest else rest.all (!·.required)

/-- Judges the number of arguments: too many, none where some are due, or too few. -/
def checkCount (m : Method) (got : Nat) : Except Fault Unit :=
  let declared := m.inputs.length
  let required := m.requiredCount
  if declared < got then .error (.tooManyArguments declared)
  else if 0 < required ∧ got = 0 then .error (.tooFewArguments required)
  else if got < required then
    if required = declared then .error (.argumentCount declared got)
    else .error (.argumentRange required declared got)
  else .ok ()

/-- The values of the arguments, if each one has a type that its input accepts. The first that
does not is the fault. -/
def checkTypes : List Node → List Input → Except Fault (List Value)
  | param :: params, input :: inputs =>
    match param with
    | .value _ v =>
      if input.type.accepts v.type then (v :: ·) <$> checkTypes params inputs
      else .error (.argumentType v.type input.type)
    | param => .error (.argumentType param.type input.type)
  | _, _ => .ok []

/-- Runs a method on checked arguments, and checks the type of its result. A fault of the
method carries the text of the call. -/
def runOn (m : Method) (span : Span) (args : List Value) : Except Fault Value :=
  match m.run args with
  | .error fault => .error (.inCall span.chars fault)
  | .ok v =>
    if m.output.accepts v.type then .ok v else .error (.valueType v.type m.output)

/-- Calls a method: the number of arguments is judged before their types. -/
def call (m : Method) (span : Span) (params : List Node) : Except Fault Value := do
  m.checkCount params.length
  let args ← checkTypes params m.inputs
  m.runOn span args

end Method

/-! ## Tables of methods -/

/-- The methods that are known, by name. -/
abbrev MethodTable := NameTable Method

namespace MethodTable

/-- Adds a method, and says whether its name was free. A name that is taken stays with the
method that has it. -/
def add (t : MethodTable) (m : Method) : Except Fault (Bool × MethodTable) :=
  if t.contains m.name then .ok (false, t)
  else if Method.requiredFirst m.inputs then .ok (true, t.insert m.name m)
  else .error (.requiredAfterOptional m.name)

/-- Calls the method that a call node names; its arguments must be values. -/
def callValue (t : MethodTable) (node : Node) : Except Fault Value :=
  match node with
  | .call span name params =>
    match t.get? name with
    | none => .error (.notAMethod name)
    | some m => m.call span params
  | node => .error (.notAMethod node.span.chars)

/-- The value node that takes the place of a call. -/
def call (t : MethodTable) (node : Node) : Except Fault Node :=
  .value node.span <$> t.callValue node

end MethodTable

end Formulary
