-- The value of a formula in stack order: values are put on a stack, and an operator takes
-- its two operands off it, the left one on top.
import Formulary.Arithmetic
import Formulary.Method
import Formulary.Variable

namespace Formulary

/-- What the names in a formula stand for. Bindings for one calculation hide the variables of
the same name. -/
structure Environment where
  methods : MethodTable
  vars : VariableTable
  bindings : NameTable Value

namespace Environment

/-- The value of a variable. -/
def lookup (env : Environment) (key : String) : Except Fault Value :=
  match env.bindings.get? key with
  | some v => .ok v
  | none => env.vars.value key

end Environment

/-- A number that an operator is applied to. -/
def numberOperand : Value → Except Fault Decimal
  | .number n => .ok n
  | v => .error (.argumentType v.type .number)

/-- Applies an operator to the two values on top of the stack. -/
def applyToStack (op : Operator) : List Value → Except Fault (List Value)
  | left :: right :: stack => do
    let x ← numberOperand left
    let y ← numberOperand right
    let v ← op.apply x y
    pure (v :: stack)
  | _ => .error .unexpectedEnd

/-- The value of a level: the only one that is left on the stack. -/
def onlyValue : List Value → Except Fault Value
  | [v] => .ok v
  | _ => .error .unexpectedEnd

mutual

/-- The stack after a node. -/
def evaluateNode (env : Environment) (stack : List Value) : Node → Except Fault (List Value)
  | .value _ v => .ok (v :: stack)
  | .reference _ key => (· :: stack) <$> env.lookup key
  | .operator _ op => applyToStack op stack
  | .group _ body => do
    let v ← onlyValue (← evaluateNodes env [] body)
    pure (v :: stack)
  | .call span method params => do
    let args ← evaluateParams env params
    (· :: stack) <$> env.methods.callValue (.call span method args)
  | .comma span => .error (.unexpectedToken span.chars)

/-- The stack after some nodes. -/
def evaluateNodes (env : Environment) (stack : List Value) :
    List Node → Except Fault (List Value)
  | [] => .ok stack
  | node :: rest => do evaluateNodes env (← evaluateNode env stack node) rest

/-- The arguments of a call as value nodes, each computed as a level of its own. -/
def evaluateParams (env : Environment) : List Node → Except Fault (List Node)
  | [] => .ok []
  | param :: rest => do
    let v ← onlyValue (← evaluateNode env [] param)
    let args ← evaluateParams env rest
    pure (.value param.span v :: args)

end

/-- The value of a level in stack order. -/
def evaluate (env : Environment) (nodes : List Node) : Except Fault Value := do
  onlyValue (← evaluateNodes env [] nodes)

end Formulary
