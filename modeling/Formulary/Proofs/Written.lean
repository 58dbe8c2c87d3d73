-- Formulas as they are written: the syntax of the language together with the blanks
-- between its tokens, the characters of each piece, and the nodes that it stands for.
import Formulary.Scan.Scanner
import Mathlib.Data.String.Basic

namespace Formulary.Written

open String (utf8Len)

/-! ## Tokens -/

/-- A run of blanks, perhaps an empty one. -/
structure Blanks where
  chars : List Char
  blank : ∀ c ∈ chars, Text.isBlank c = true

/-- A number, with its sign if it has one. The literal is one that can be read. -/
structure Numeral where
  sign : Option Operator
  literal : List Char
  value : Decimal
  isSign : ∀ op ∈ sign, op.isSign = true
  reads : NumberLiteral.evaluate literal (sign == some .subtract) = .ok value

/-- The name of a variable. -/
structure Key where
  chars : List Char
  ne_nil : chars ≠ []
  free : '\x7d' ∉ chars

/-- The name of a method. -/
structure MethodName where
  chars : List Char
  ne_nil : chars ≠ []
  nameChars : ∀ c ∈ chars, isNameChar c = true

/-- A text in quotes, which does not hold its own quote. -/
structure Quoted where
  quote : Char
  content : List Char
  isQuote : quote = '\'' ∨ quote = '"'
  free : quote ∉ content

/-- The characters of a sign. -/
def signChars : Option Operator → List Char
  | none => []
  | some op => op.symbol.toList

def Numeral.chars (n : Numeral) : List Char := signChars n.sign ++ n.literal

def Quoted.chars (t : Quoted) : List Char := t.quote :: t.content ++ [t.quote]

/-! ## Syntax -/

mutual

/-- What operators are applied to; `signed` says that it begins with a sign. -/
inductive Operand : Bool → Type
  | number (n : Numeral) : Operand n.sign.isSome
  | reference (key : Key) : Operand false
  | group (body : Padded) : Operand false
  | call (name : MethodName) (args : Arguments) : Operand false

/-- The operators of a level after its first operand. A sign does not touch the operator
before it. -/
inductive Tail : Type
  | nil
  | more (before : Blanks) (op : Operator) (after : Blanks) {signed : Bool}
      (operand : Operand signed) (apart : signed = true → after.chars ≠ []) (rest : Tail)

/-- A text alone, or operands with operators between them. -/
inductive Level : Type
  | text (t : Quoted)
  | chain {signed : Bool} (first : Operand signed) (rest : Tail)

/-- A level with the blanks around it. -/
inductive Padded : Type
  | mk (before : Blanks) (level : Level) (after : Blanks)

/-- What stands between the parentheses of a call. -/
inductive Arguments : Type
  | none (blanks : Blanks)
  | some (levels : Levels)

/-- Levels with commas between them. -/
inductive Levels : Type
  | last (level : Padded)
  | more (level : Padded) (rest : Levels)

end

/-! ## Characters -/

mutual

def Operand.chars : {signed : Bool} → Operand signed → List Char
  | _, .number n => n.chars
  | _, .reference key => '\x7b' :: key.chars ++ ['\x7d']
  | _, .group body => '(' :: body.chars ++ [')']
  | _, .call name args => '$' :: name.chars ++ '(' :: args.chars ++ [')']

def Tail.chars : Tail → List Char
  | .nil => []
  | .more before op after operand _ rest =>
    before.chars ++ op.symbol.toList ++ after.chars ++ operand.chars ++ rest.chars

def Level.chars : Level → List Char
  | .text t => t.chars
  | .chain first rest => first.chars ++ rest.chars

def Padded.chars : Padded → List Char
  | .mk before level after => before.chars ++ level.chars ++ after.chars

def Arguments.chars : Arguments → List Char
  | .none blanks => blanks.chars
  | .some levels => levels.chars

def Levels.chars : Levels → List Char
  | .last level => level.chars
  | .more level rest => level.chars ++ ',' :: rest.chars

end

/-! ## Nodes -/

/-- The argument that a level makes: a single node, or a group that spans the level. -/
def argumentOf (start : Nat) (chars : List Char) : List Node → Node
  | [node] => node
  | nodes => .group ⟨start, String.ofList chars⟩ nodes

mutual

/-- The node of an operand that starts at the byte `start`. -/
def Operand.node (start : Nat) : {signed : Bool} → Operand signed → Node
  | _, .number n => .value ⟨start, String.ofList n.chars⟩ (.number n.value)
  | _, .reference key =>
    .reference ⟨start, String.ofList (Operand.reference key).chars⟩ (String.ofList key.chars)
  | _, .group body =>
    .group ⟨start, String.ofList (Operand.group body).chars⟩ (body.nodes (start + 1))
  | _, .call name args =>
    .call ⟨start, String.ofList (Operand.call name args).chars⟩ (String.ofList name.chars)
      (args.params (start + utf8Len ('$' :: name.chars ++ ['('])))

def Tail.nodes (start : Nat) : Tail → List Node
  | .nil => []
  | .more before op after operand _ rest =>
    let opStart := start + utf8Len before.chars
    let operandStart := opStart + utf8Len op.symbol.toList + utf8Len after.chars
    .operator ⟨opStart, op.symbol⟩ op :: operand.node operandStart ::
      rest.nodes (operandStart + utf8Len operand.chars)

def Level.nodes (start : Nat) : Level → List Node
  | .text t => [.value ⟨start, String.ofList t.chars⟩ (.text (String.ofList t.content))]
  | .chain first rest => first.node start :: rest.nodes (start + utf8Len first.chars)

def Padded.nodes (start : Nat) : Padded → List Node
  | .mk before level _ => level.nodes (start + utf8Len before.chars)

/-- The arguments of a call whose first one may start at the byte `start`. -/
def Arguments.params (start : Nat) : Arguments → List Node
  | .none _ => []
  | .some levels => levels.params start

def Levels.params (start : Nat) : Levels → List Node
  | .last (.mk before level _) =>
    let levelStart := start + utf8Len before.chars
    [argumentOf levelStart level.chars (level.nodes levelStart)]
  | .more (.mk before level after) rest =>
    let levelStart := start + utf8Len before.chars
    argumentOf levelStart level.chars (level.nodes levelStart) ::
      rest.params (start + utf8Len (Padded.mk before level after).chars + 1)

end

end Formulary.Written
