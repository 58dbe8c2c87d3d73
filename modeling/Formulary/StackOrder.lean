-- The order in which a formula is computed with a stack: both operands of an operator
-- before the operator, the right one first. Operators that bind tighter are computed
-- earlier, and of equal ones the left one is.
import Formulary.Node

namespace Formulary

/-! ## Operators that wait -/

/-- A level on its way into stack order: the nodes that have their place, latest first, and the
operators that wait for their left operand, innermost first. -/
structure Pending where
  output : List Node
  held : List (Span × Operator)
  deriving Repr

namespace Pending

def empty : Pending := ⟨[], []⟩

/-- Gives an operand its place. -/
def pushOperand (p : Pending) (node : Node) : Pending := ⟨node :: p.output, p.held⟩

/-- Lets an operator wait. The waiting ones that bind tighter get their place first. -/
def pushOperator (p : Pending) (span : Span) (op : Operator) : Pending :=
  let tighter (held : Span × Operator) : Bool := op.weight < held.2.weight
  let done := p.held.takeWhile tighter
  ⟨(done.map fun (s, o) => Node.operator s o).reverse ++ p.output,
    (span, op) :: p.held.dropWhile tighter⟩

/-- The whole level, with the operators that still wait at its end. -/
def finish (p : Pending) : List Node :=
  p.output.reverse ++ p.held.map fun (s, o) => Node.operator s o

end Pending

/-! ## Levels -/

mutual

/-- Puts the levels inside a node into stack order. -/
def Node.inStackOrder : Node → Node
  | .group span body => .group span (pendingOf body).finish
  | .call span method params => .call span method (paramsInStackOrder params)
  | .value span v => .value span v
  | .operator span op => .operator span op
  | .comma span => .comma span
  | .reference span key => .reference span key

/-- Goes through a level from its right end to its left end. -/
def pendingOf : List Node → Pending
  | [] => .empty
  | node :: rest =>
    match node with
    | .operator span op => (pendingOf rest).pushOperator span op
    | node => (pendingOf rest).pushOperand node.inStackOrder

/-- Puts the levels inside each argument into stack order; the arguments stay in theirs. -/
def paramsInStackOrder : List Node → List Node
  | [] => []
  | node :: rest => node.inStackOrder :: paramsInStackOrder rest

end

/-- A level in stack order. -/
def stackOrder (nodes : List Node) : List Node := (pendingOf nodes).finish

end Formulary
