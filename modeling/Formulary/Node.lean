-- Formulas as trees: one list of nodes for each level, with the piece of text that
-- each node comes from.
import Formulary.Operator
import Formulary.Value

namespace Formulary

/-- A piece of the formula's text and the place where it starts, in bytes of UTF-8. -/
structure Span where
  start : Nat
  chars : String
  deriving DecidableEq, Repr

/-- The place right after the piece. -/
def Span.stop (s : Span) : Nat := s.start + s.chars.utf8ByteSize

/-- The piece that a comma is. -/
def Span.comma (start : Nat) : Span := ⟨start, ","⟩

/-- A comma in a text is told by its place. -/
instance : Coe Nat Span := ⟨Span.comma⟩

/-- One element of a formula. -/
inductive Node where
  | value (span : Span) (value : Value)
  /-- A level in parentheses, or the nodes of one argument. -/
  | group (span : Span) (body : List Node)
  | operator (span : Span) (op : Operator)
  /-- A mark between arguments. No finished tree holds one. -/
  | comma (span : Span)
  /-- A variable by its name. -/
  | reference (span : Span) (key : String)
  | call (span : Span) (method : String) (params : List Node)
  deriving Repr

namespace Node

/-- The piece of text that a node comes from. -/
def span : Node → Span
  | value s _ => s
  | group s _ => s
  | operator s _ => s
  | comma s => s
  | reference s _ => s
  | call s _ _ => s

/-- The type of a node; that of a value node is the type of the value. -/
def type : Node → TypeMask
  | value _ v => v.type
  | group _ _ => .group
  | operator _ _ => .operator
  | comma _ => .comma
  | reference _ _ => .reference
  | call _ _ _ => .call

def asValue? : Node → Option Value
  | value _ v => some v
  | _ => none

def asOperator? : Node → Option Operator
  | operator _ op => some op
  | _ => none

def isValue (n : Node) : Bool := n.asValue?.isSome

def isGroup : Node → Bool
  | group _ _ => true
  | _ => false

def isOperator (n : Node) : Bool := n.asOperator?.isSome

def isComma : Node → Bool
  | comma _ => true
  | _ => false

def isReference : Node → Bool
  | reference _ _ => true
  | _ => false

def isCall : Node → Bool
  | call _ _ _ => true
  | _ => false

end Node

end Formulary
