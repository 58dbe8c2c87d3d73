-- The scanner by places. The text stays whole, and the scan keeps the place in it, in bytes of
-- UTF-8, that it has come to. What a node keeps of the text is cut out between two places, and
-- the node of an owner stands on its level from the opening parenthesis on, to be completed
-- when the parenthesis closes. Nothing here sees to it that there is a piece between two
-- places, or a level around the one that ends: without them the scan halts.
import Formulary.Scan.Scanner

namespace Formulary

open String.Pos (Raw)

/-! ## States -/

/-- Why a scan stops before it is complete. -/
inductive Halt where
  | fault (fault : Fault)
  /-- The text has no piece between the two places. -/
  | noPiece (start stop : Nat)
  /-- No level is around the one that ends. -/
  | noLevel
  deriving Repr

/-- A level that waits for its last node, an owner, to be completed: how deep it is, and the
owner that it waits for with the place where that starts. -/
structure Suspended where
  depth : Nat
  /-- The nodes of the level in the order of the text. -/
  nodes : List Node
  owner : Owner
  origin : Nat
  deriving Repr

/-- The state of a scan by places. -/
structure Cursor where
  text : String
  /-- The place that the scan has come to. -/
  index : Nat
  /-- How many levels are around the current one. -/
  depth : Nat
  /-- The nodes of the current level in the order of the text. -/
  nodes : List Node
  /-- The levels around the current one, innermost first. -/
  frames : List Suspended
  mode : Mode
  deriving Repr

/-- The node of an owner whose parenthesis is still open. -/
def Owner.blank (origin : Nat) : Owner → Node
  | .group => .group ⟨origin, "()"⟩ []
  | .call method => .call ⟨origin, method⟩ method []

/-- The nodes with the last one in its final form, at the place where it is. -/
def completeLast (final : Nat → Node) (nodes : List Node) : List Node :=
  match nodes.getLast? with
  | none => nodes
  | some owner => nodes.dropLast ++ [final owner.span.start]

/-- The piece of a text between two places. There is one if both places are ends of characters
of the text, and the first is not behind the second. -/
def cut (text : String) (start stop : Nat) : Except Halt String :=
  if start ≤ stop ∧ Raw.isValid text ⟨start⟩ ∧ Raw.isValid text ⟨stop⟩ then
    .ok (Raw.extract text ⟨start⟩ ⟨stop⟩)
  else .error (.noPiece start stop)

namespace Cursor

/-- Before the first character. -/
def start (text : String) : Cursor := ⟨text, 0, 0, [], [], .base⟩

def fail {α : Type} (fault : Fault) : Except Halt α := .error (.fault fault)

/-! ## Positions -/

/-- The next character. -/
def peek (c : Cursor) : Except Halt (Option Char) :=
  (·.toList.head?) <$> cut c.text c.index c.text.utf8ByteSize

/-- The text from a place up to here. -/
def textFrom (c : Cursor) (origin : Nat) : Except Halt String := cut c.text origin c.index

/-- Reads the character `ch`. -/
def advance (c : Cursor) (ch : Char) : Cursor := { c with index := c.index + ch.utf8Size }

/-- Reads a character that has one byte. -/
def skip (c : Cursor) : Cursor := { c with index := c.index + 1 }

def isFirst (c : Cursor) : Bool := c.nodes.isEmpty

/-- The node before this place has one of the given types. -/
def isBehind (c : Cursor) (types : TypeMask) : Bool :=
  c.nodes.getLast?.any fun node => types.accepts node.type

/-- The owner of this level has one of the given types. -/
def isIn (c : Cursor) (types : TypeMask) : Bool :=
  0 < c.depth && (c.frames.head?.bind (·.nodes.getLast?)).any fun node => types.accepts node.type

/-- An operand may stand here. -/
def expectsOperand (c : Cursor) : Bool :=
  c.isFirst || c.isBehind .operator || (c.isIn .call && c.isBehind .comma)

/-- Adds a node to the level. -/
def push (c : Cursor) (node : Node) : Cursor := { c with nodes := c.nodes ++ [node], mode := .base }

/-! ## Parentheses -/

/-- Begins the level inside an owner. -/
def enter (c : Cursor) (owner : Owner) (origin : Nat) : Cursor :=
  { c with
    depth := c.depth + 1
    nodes := []
    frames := ⟨c.depth, c.nodes ++ [owner.blank origin], owner, origin⟩ :: c.frames
    mode := .base }

/-- The argument that a run of nodes makes. -/
def argument (c : Cursor) : List Node → Except Halt Node
  | [] => fail (.unexpectedToken ",")
  | [node] => .ok node
  | first :: second :: more => do
    let stop := ((second :: more).getLast?.map (·.span.stop)).getD first.span.stop
    let chars ← cut c.text first.span.start stop
    .ok (.group ⟨first.span.start, chars⟩ (first :: second :: more))

/-- The arguments that the nodes between the parentheses of a method make. -/
def arguments (c : Cursor) (nodes : List Node) : Except Halt (List Node) :=
  if nodes.isEmpty then .ok [] else (Scanner.splitCommas nodes).mapM c.argument

/-- The place behind the next character, or the end of the text. -/
def behindNext (c : Cursor) : Option Char → Nat
  | some ch => c.index + ch.utf8Size
  | none => c.text.utf8ByteSize

/-- Goes back to the level around this one, with its last node in its final form. -/
def rise (c : Cursor) (frame : Suspended) (frames : List Suspended) (final : Nat → Node)
    (mode : Mode) : Cursor :=
  { c with depth := frame.depth, nodes := completeLast final frame.nodes, frames, mode }

/-- Ends a level and completes its owner. -/
def leave (c : Cursor) : Except Halt Cursor :=
  match c.frames with
  | [] => .error .noLevel
  | frame :: frames => do
    let next ← c.peek
    match frame.owner with
    | .group => do
      let chars ← cut c.text frame.origin (c.behindNext next)
      .ok (c.rise frame frames (fun start => .group ⟨start, chars⟩ c.nodes) .groupClose)
    | .call method => do
      let params ← c.arguments c.nodes
      let chars ← cut c.text frame.origin (c.behindNext next)
      .ok (c.rise frame frames (fun start => .call ⟨start, chars⟩ method params)
        (.callClose method))

/-! ## Steps -/

/-- A number begins. -/
def beginNumber (c : Cursor) (origin : Nat) (sign : Option Operator) : Cursor :=
  { c with mode := .number ⟨origin, sign, [], false, false⟩ }

/-- The fault of a parenthesis that follows an operand. -/
def notCallable (c : Cursor) : Fault :=
  match c.nodes.getLast? with
  | none => .unexpectedToken "("
  | some last => .notAMethod last.span.chars

/-- The text ends between tokens. -/
def scanEnd (c : Cursor) : Except Halt Cursor :=
  if !c.frames.isEmpty then c.leave
  else if c.isFirst || c.isBehind .operator then fail .unexpectedEnd
  else .ok { c with mode := .complete }

/-- The character `ch` is the first of a token. -/
def scanToken (c : Cursor) (ch : Char) : Except Halt Cursor :=
  match CharClass.ofChar ch with
  | .endOfText => c.scanEnd
  | .space => .ok (c.advance ch)
  | .groupStart =>
    if c.expectsOperand then .ok (c.skip.enter .group c.index) else fail c.notCallable
  | .groupEnd =>
    if !c.isIn (.union .group .call) || c.isBehind .operator then fail (.unexpectedToken ")")
    else if c.isIn .group && c.isFirst then fail .emptyGroup
    else c.leave
  | .digit | .decimalPoint =>
    if c.expectsOperand then .ok (c.beginNumber c.index none)
    else fail (.unexpectedKind "number")
  | .operator => .ok { c with mode := .operator c.index "" }
  | .quote =>
    if c.isBehind .operator then fail .textAfterOperator
    else .ok { c.advance ch with mode := .text c.index ch "" }
  | .referenceStart =>
    if c.expectsOperand then .ok { c.skip with mode := .reference c.index "" }
    else fail (.unexpectedToken "\x7b")
  | .callStart =>
    if c.expectsOperand then .ok { c.skip with mode := .callName c.index "" }
    else fail (.unexpectedToken "$")
  | .comma =>
    if !c.isIn .call || c.isBehind .operator then fail (.unexpectedToken ",")
    else .ok (c.push (.comma c.index)).skip
  | .other =>
    if ch = 'e' ∧ c.expectsOperand then .ok (c.beginNumber c.index none)
    else fail (.unexpectedToken (String.singleton ch))

/-- Between tokens. -/
def scanBase (c : Cursor) : Option Char → Except Halt Cursor
  | none => c.scanEnd
  | some ch => c.scanToken ch

/-- One more character of a number. -/
def continueNumber (c : Cursor) (scan : NumberScan) (ch : Char) : Cursor :=
  { c.skip with mode := .number { scan with literal := ch :: scan.literal } }

/-- A number ends before the next character. -/
def endNumber (c : Cursor) (scan : NumberScan) (next : Option Char) : Except Halt Cursor :=
  if scan.literal.isEmpty then
    fail (match next, scan.sign with
      | none, _ => .unexpectedEnd
      | some _, some sign => .unexpectedToken sign.symbol
      | some ch, none => .unexpectedToken (String.singleton ch))
  else
    match NumberLiteral.evaluate scan.literal.reverse (scan.sign == some .subtract) with
    | .error fault => fail fault
    | .ok x => do
      let chars ← c.textFrom scan.origin
      .ok (c.push (.value ⟨scan.origin, chars⟩ (.number x)))

/-- Inside a number. -/
def scanNumber (c : Cursor) (scan : NumberScan) : Option Char → Except Halt Cursor
  | none => c.endNumber scan none
  | some ch =>
    if ch.isDigit then .ok (c.continueNumber scan ch)
    else if ch = '.' then
      if scan.hasPoint || scan.hasExponent then fail (.unexpectedKind "number")
      else .ok (c.continueNumber { scan with hasPoint := true } ch)
    else if ch = 'e' then
      if scan.hasExponent then fail .malformedNumber
      else .ok (c.continueNumber { scan with hasExponent := true } ch)
    else if (ch = '+' ∨ ch = '-') ∧ scan.literal.head? = some 'e' then
      .ok (c.continueNumber scan ch)
    else c.endNumber scan (some ch)

/-- An operator ends before the next character. -/
def endOperator (c : Cursor) (origin : Nat) (symbol : String) : Except Halt Cursor :=
  match Operator.ofSymbol? symbol with
  | none => fail (.unexpectedToken symbol)
  | some op =>
    if op.isSign && c.expectsOperand then .ok (c.beginNumber origin (some op))
    else if c.isBehind Scanner.operandTypes then .ok (c.push (.operator ⟨origin, symbol⟩ op))
    else fail (.unexpectedToken symbol)

/-- Inside an operator. -/
def scanOperator (c : Cursor) (origin : Nat) (symbol : String) :
    Option Char → Except Halt Cursor
  | none => c.endOperator origin symbol
  | some ch =>
    if isOperatorChar ch then .ok { c.skip with mode := .operator origin (symbol.push ch) }
    else c.endOperator origin symbol

/-- The closing quote has been read. -/
def endText (c : Cursor) (origin : Nat) (content : String) : Except Halt Cursor :=
  if c.isFirst || (c.isIn .call && c.isBehind .comma) then do
    let chars ← c.textFrom origin
    .ok (c.push (.value ⟨origin, chars⟩ (.text content)))
  else if c.isBehind .operator then fail .textAfterOperator
  else fail (.unexpectedKind "string")

/-- Inside quotes. -/
def scanText (c : Cursor) (origin : Nat) (quote : Char) (content : String) :
    Option Char → Except Halt Cursor
  | none => fail .unexpectedEnd
  | some ch =>
    if ch = quote then (c.advance ch).endText origin content
    else .ok { c.advance ch with mode := .text origin quote (content.push ch) }

/-- Inside the braces of a reference. -/
def scanReference (c : Cursor) (origin : Nat) (key : String) : Option Char → Except Halt Cursor
  | none => fail .unexpectedEnd
  | some ch =>
    if ch = '\x7d' then
      if key.isEmpty then fail .emptyVariableName
      else do
        let chars ← c.skip.textFrom origin
        .ok (c.skip.push (.reference ⟨origin, chars⟩ key))
    else .ok { c.advance ch with mode := .reference origin (key.push ch) }

/-- Inside the name of a method. -/
def scanCallName (c : Cursor) (origin : Nat) (name : String) : Option Char → Except Halt Cursor
  | none => fail (Scanner.endCallName name)
  | some ch =>
    if ch = '(' then
      if name.isEmpty then fail .emptyMethodName
      else .ok (c.skip.enter (.call name) origin)
    else if isNameChar ch then
      .ok { c.advance ch with mode := .callName origin (name.push ch) }
    else fail (Scanner.endCallName name)

/-- At the parenthesis that closes an owner, where the text may have ended before. -/
def scanClose (c : Cursor) (unclosed : Fault) : Option Char → Except Halt Cursor
  | some ')' => .ok { c.skip with mode := .base }
  | _ => fail unclosed

/-- One step of a scan. -/
def step (c : Cursor) : Except Halt Cursor := do
  let next ← c.peek
  match c.mode with
  | .base => c.scanBase next
  | .number scan => c.scanNumber scan next
  | .operator origin symbol => c.scanOperator origin symbol next
  | .text origin quote content => c.scanText origin quote content next
  | .reference origin key => c.scanReference origin key next
  | .callName origin name => c.scanCallName origin name next
  | .groupClose => c.scanClose .unclosedGroup next
  | .callClose method => c.scanClose (.uncalledMethod method) next
  | .complete => .ok c

/-- The scan of a text after so many steps, unless it halts before. -/
def after (text : String) : Nat → Except Halt Cursor
  | 0 => .ok (start text)
  | steps + 1 => do (← after text steps).step

end Cursor

end Formulary
