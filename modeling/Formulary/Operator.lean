-- The ten binary operators, how tightly each one binds, and their symbols.
namespace Formulary

/-- A binary operator of formulas. -/
inductive Operator where
  | greater
  | greaterEqual
  | less
  | lessEqual
  | equal
  | notEqual
  | add
  | subtract
  | multiply
  | divide
  deriving DecidableEq, Repr

namespace Operator

/-- All operators. -/
def all : List Operator :=
  [greater, greaterEqual, less, lessEqual, equal, notEqual, add, subtract, multiply, divide]

/-- How an operator is written. -/
def symbol : Operator → String
  | greater => ">"
  | greaterEqual => ">="
  | less => "<"
  | lessEqual => "<="
  | equal => "=="
  | notEqual => "!="
  | add => "+"
  | subtract => "-"
  | multiply => "*"
  | divide => "/"

/-- The operator that a run of operator characters stands for. -/
def ofSymbol? (symbol : String) : Option Operator := all.find? (·.symbol == symbol)

/-- How tightly an operator binds: comparisons least, then sums, then products. -/
def weight : Operator → Nat
  | greater | greaterEqual | less | lessEqual | equal | notEqual => 1
  | add | subtract => 2
  | multiply | divide => 3

def isComparison (op : Operator) : Bool := op.weight == 1

/-- The operator also serves as the sign of a number. -/
def isSign : Operator → Bool
  | add | subtract => true
  | _ => false

end Operator

/-- The characters that operators are made of. -/
def isOperatorChar (c : Char) : Bool :=
  c == '+' || c == '-' || c == '*' || c == '/' || c == '<' || c == '>' || c == '=' || c == '!'

end Formulary
