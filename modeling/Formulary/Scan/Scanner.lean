-- The scanner: it reads the text of a formula one character at a time and builds the
-- tree in the order of the text. Open parentheses are kept on a stack; what stands
-- between them is handed to its owner when they close.
--
-- Where a token may stand:
-- * an operand stands first, after an operator, or after a comma between arguments;
-- * an operator stands after a number, a group, a reference or a call, and a plus or a
--   minus where an operand is due is the sign of a number;
-- * a text stands alone in a formula, a group or an argument.
import Formulary.Node
import Formulary.Scan.CharClass
import Formulary.Scan.NumberLiteral

namespace Formulary

/-! ## States -/

/-- A number under way. -/
structure NumberScan where
  origin : Nat
  /-- The plus or minus before the number. -/
  sign : Option Operator
  /-- The characters of the literal, latest first. -/
  literal : List Char
  hasPoint : Bool
  hasExponent : Bool
  deriving Repr

/-- What the next character belongs to. -/
inductive Mode where
  /-- A new token. -/
  | base
  | number (scan : NumberScan)
  | operator (origin : Nat) (symbol : String)
  | text (origin : Nat) (quote : Char) (content : String)
  | reference (origin : Nat) (key : String)
  | callName (origin : Nat) (name : String)
  /-- The parenthesis that closes a group. -/
  | groupClose
  /-- The parenthesis that closes the arguments of a method. -/
  | callClose (method : String)
  /-- Nothing: the whole text is read. -/
  | complete
  deriving Repr

/-- What an open parenthesis belongs to. -/
inductive Owner where
  | group
  | call (method : String)
  deriving DecidableEq, Repr

/-- A level that waits for the parentheses inside it to close: their owner, the place where
the owner starts, and the nodes before it, latest first. -/
structure Frame where
  owner : Owner
  origin : Nat
  before : List Node
  deriving Repr

/-- The state of a scan. -/
structure Scanner where
  /-- The characters read so far, latest first. -/
  read : List Char
  rest : List Char
  /-- How many bytes of UTF-8 have been read. -/
  index : Nat
  /-- The nodes of the current level, latest first. -/
  nodes : List Node
  /-- The levels around the current one, innermost first. -/
  frames : List Frame
  mode : Mode
  deriving Repr

namespace Scanner

/-- Before the first character. -/
def start (cs : List Char) : Scanner := ⟨[], cs, 0, [], [], .base⟩

/-! ## The text that has been read -/

/-- Leaves out the latest characters that make up `bytes` bytes. -/
def dropBytes (bytes : Nat) : List Char → List Char
  | [] => []
  | c :: cs => if bytes = 0 then c :: cs else dropBytes (bytes - c.utf8Size) cs

/-- Puts the latest characters that make up `bytes` bytes in front of `after`, in the order of
the text. -/
def unread (bytes : Nat) (after : List Char) : List Char → List Char
  | [] => after
  | c :: cs => if bytes = 0 then after else unread (bytes - c.utf8Size) (c :: after) cs

/-- The text between two places that have been read. -/
def textBetween (s : Scanner) (start stop : Nat) : String :=
  String.ofList (unread (stop - start) [] (dropBytes (s.index - stop) s.read))

/-- The text from a place up to here. -/
def textFrom (s : Scanner) (start : Nat) : String := s.textBetween start s.index

/-! ## Positions -/

/-- Reads one character. -/
def advance (s : Scanner) : Scanner :=
  match s.rest with
  | [] => s
  | c :: rest => { s with read := c :: s.read, rest, index := s.index + c.utf8Size }

/-- Nothing stands before this place on its level. -/
def isFirst (s : Scanner) : Bool := s.nodes.isEmpty

/-- The node before this place has one of the given types. -/
def isBehind (s : Scanner) (types : TypeMask) : Bool :=
  s.nodes.head?.any fun node => types.accepts node.type

/-- This level is inside the parentheses of a group. -/
def inGroup (s : Scanner) : Bool := s.frames.head?.any (·.owner == .group)

/-- This level is inside the arguments of a method. -/
def inCall (s : Scanner) : Bool := s.frames.head?.any (·.owner != .group)

/-- An operand may stand here. -/
def expectsOperand (s : Scanner) : Bool :=
  s.isFirst || s.isBehind .operator || (s.inCall && s.isBehind .comma)

/-- The types of nodes that an operator may follow. -/
def operandTypes : TypeMask := ((TypeMask.number.union .group).union .reference).union .call

/-- Adds a node to the level. -/
def push (s : Scanner) (node : Node) : Scanner :=
  { s with nodes := node :: s.nodes, mode := .base }

/-! ## Parentheses -/

/-- Begins the level inside an owner. -/
def enter (s : Scanner) (owner : Owner) (origin : Nat) : Scanner :=
  { s with nodes := [], frames := ⟨owner, origin, s.nodes⟩ :: s.frames, mode := .base }

/-- The runs of nodes between commas. -/
def splitCommas (nodes : List Node) : List (List Node) :=
  let (run, runs) := nodes.foldr
    (fun node (run, runs) => if node.isComma then ([], run :: runs) else (node :: run, runs))
    (([], []) : List Node × List (List Node))
  run :: runs

/-- The argument that a run of nodes makes: a single node is the argument itself, and more
nodes become a group that spans them. -/
def argument (s : Scanner) : List Node → Except Fault Node
  | [] => .error (.unexpectedToken ",")
  | [node] => .ok node
  | first :: second :: more =>
    let stop := ((second :: more).getLast?.map (·.span.stop)).getD first.span.stop
    let start := first.span.start
    .ok (.group ⟨start, s.textBetween start stop⟩ (first :: second :: more))

/-- The arguments that the nodes between the parentheses of a method make. -/
def arguments (s : Scanner) (nodes : List Node) : Except Fault (List Node) :=
  if nodes.isEmpty then .ok [] else (splitCommas nodes).mapM s.argument

/-- Ends a level and hands its nodes to the owner. The parenthesis itself is still to be read,
but belongs to the owner's text. -/
def leave (s : Scanner) : Except Fault Scanner :=
  match s.frames with
  | [] => .error (.unexpectedToken ")")
  | ⟨owner, origin, before⟩ :: frames =>
    let inner := s.nodes.reverse
    let span : Span := ⟨origin, s.textFrom origin ++ String.ofList (s.rest.take 1)⟩
    match owner with
    | .group =>
      .ok { s with nodes := .group span inner :: before, frames, mode := .groupClose }
    | .call method => do
      let params ← s.arguments inner
      .ok { s with nodes := .call span method params :: before, frames,
                   mode := .callClose method }

/-! ## Steps -/

/-- A number begins. -/
def beginNumber (s : Scanner) (origin : Nat) (sign : Option Operator) : Scanner :=
  { s with mode := .number ⟨origin, sign, [], false, false⟩ }

/-- The fault of a parenthesis that follows an operand. -/
def notCallable (s : Scanner) : Fault :=
  match s.nodes with
  | [] => .unexpectedToken "("
  | last :: _ => .notAMethod last.span.chars

/-- The text ends between tokens. Levels that are still open are left one by one. -/
def scanEnd (s : Scanner) : Except Fault Scanner :=
  if !s.frames.isEmpty then s.leave
  else if s.isFirst || s.isBehind .operator then .error .unexpectedEnd
  else .ok { s with mode := .complete }

/-- The character `c` is the first of a token. -/
def scanToken (s : Scanner) (c : Char) : Except Fault Scanner :=
  match CharClass.ofChar c with
  | .endOfText => s.scanEnd
  | .space => .ok s.advance
  | .groupStart =>
    if s.expectsOperand then .ok (s.advance.enter .group s.index) else .error s.notCallable
  | .groupEnd =>
    if s.frames.isEmpty || s.isBehind .operator then .error (.unexpectedToken ")")
    else if s.inGroup && s.isFirst then .error .emptyGroup
    else s.leave
  | .digit | .decimalPoint =>
    if s.expectsOperand then .ok (s.beginNumber s.index none)
    else .error (.unexpectedKind "number")
  | .operator => .ok { s with mode := .operator s.index "" }
  | .quote =>
    if s.isBehind .operator then .error .textAfterOperator
    else .ok { s.advance with mode := .text s.index c "" }
  | .referenceStart =>
    if s.expectsOperand then .ok { s.advance with mode := .reference s.index "" }
    else .error (.unexpectedToken "\x7b")
  | .callStart =>
    if s.expectsOperand then .ok { s.advance with mode := .callName s.index "" }
    else .error (.unexpectedToken "$")
  | .comma =>
    if !s.inCall || s.isBehind .operator then .error (.unexpectedToken ",")
    else .ok (s.push (.comma s.index)).advance
  | .other =>
    -- An exponent without a number before it is read as a number, and fails as one.
    if c = 'e' ∧ s.expectsOperand then .ok (s.beginNumber s.index none)
    else .error (.unexpectedToken (String.singleton c))

/-- Between tokens. -/
def scanBase (s : Scanner) : Except Fault Scanner :=
  match s.rest.head? with
  | none => s.scanEnd
  | some c => s.scanToken c

/-- One more character of a number. -/
def continueNumber (s : Scanner) (scan : NumberScan) (c : Char) : Scanner :=
  { s.advance with mode := .number { scan with literal := c :: scan.literal } }

/-- A number ends before the next character. A sign without digits is an operator out of
place. -/
def endNumber (s : Scanner) (scan : NumberScan) (next : Option Char) :
    Except Fault Scanner := do
  if scan.literal.isEmpty then
    .error (match next, scan.sign with
      | none, _ => .unexpectedEnd
      | some _, some sign => .unexpectedToken sign.symbol
      | some c, none => .unexpectedToken (String.singleton c))
  else
    let x ← NumberLiteral.evaluate scan.literal.reverse (scan.sign == some .subtract)
    .ok (s.push (.value ⟨scan.origin, s.textFrom scan.origin⟩ (.number x)))

/-- Inside a number. -/
def scanNumber (s : Scanner) (scan : NumberScan) : Except Fault Scanner :=
  match s.rest.head? with
  | none => s.endNumber scan none
  | some c =>
    if c.isDigit then .ok (s.continueNumber scan c)
    else if c = '.' then
      if scan.hasPoint || scan.hasExponent then .error (.unexpectedKind "number")
      else .ok (s.continueNumber { scan with hasPoint := true } c)
    else if c = 'e' then
      if scan.hasExponent then .error .malformedNumber
      else .ok (s.continueNumber { scan with hasExponent := true } c)
    else if (c = '+' ∨ c = '-') ∧ scan.literal.head? = some 'e' then
      .ok (s.continueNumber scan c)
    else s.endNumber scan (some c)

/-- An operator ends before the next character. -/
def endOperator (s : Scanner) (origin : Nat) (symbol : String) : Except Fault Scanner :=
  match Operator.ofSymbol? symbol with
  | none => .error (.unexpectedToken symbol)
  | some op =>
    if op.isSign && s.expectsOperand then .ok (s.beginNumber origin (some op))
    else if s.isBehind operandTypes then .ok (s.push (.operator ⟨origin, symbol⟩ op))
    else .error (.unexpectedToken symbol)

/-- Inside an operator, which takes in as many operator characters as there are. -/
def scanOperator (s : Scanner) (origin : Nat) (symbol : String) : Except Fault Scanner :=
  match s.rest.head? with
  | none => s.endOperator origin symbol
  | some c =>
    if isOperatorChar c then .ok { s.advance with mode := .operator origin (symbol.push c) }
    else s.endOperator origin symbol

/-- The closing quote has been read. -/
def endText (s : Scanner) (origin : Nat) (content : String) : Except Fault Scanner :=
  if s.isFirst || (s.inCall && s.isBehind .comma) then
    .ok (s.push (.value ⟨origin, s.textFrom origin⟩ (.text content)))
  else if s.isBehind .operator then .error .textAfterOperator
  else .error (.unexpectedKind "string")

/-- Inside quotes. -/
def scanText (s : Scanner) (origin : Nat) (quote : Char) (content : String) :
    Except Fault Scanner :=
  match s.rest.head? with
  | none => .error .unexpectedEnd
  | some c =>
    if c = quote then s.advance.endText origin content
    else .ok { s.advance with mode := .text origin quote (content.push c) }

/-- Inside the braces of a reference. -/
def scanReference (s : Scanner) (origin : Nat) (key : String) : Except Fault Scanner :=
  match s.rest.head? with
  | none => .error .unexpectedEnd
  | some c =>
    if c = '\x7d' then
      if key.isEmpty then .error .emptyVariableName
      else
        let s := s.advance
        .ok (s.push (.reference ⟨origin, s.textFrom origin⟩ key))
    else .ok { s.advance with mode := .reference origin (key.push c) }

/-- A method's name ends before something else than a parenthesis. -/
def endCallName (name : String) : Fault :=
  if name.isEmpty then .unexpectedToken "$" else .uncalledMethod name

/-- Inside the name of a method. -/
def scanCallName (s : Scanner) (origin : Nat) (name : String) : Except Fault Scanner :=
  match s.rest.head? with
  | none => .error (endCallName name)
  | some c =>
    if c = '(' then
      if name.isEmpty then .error .emptyMethodName
      else .ok (s.advance.enter (.call name) origin)
    else if isNameChar c then
      .ok { s.advance with mode := .callName origin (name.push c) }
    else .error (endCallName name)

/-- At the parenthesis that closes an owner, where the text may have ended before. -/
def scanClose (s : Scanner) (unclosed : Fault) : Except Fault Scanner :=
  match s.rest.head? with
  | some ')' => .ok { s.advance with mode := .base }
  | _ => .error unclosed

/-- One step of a scan. It looks at the next character alone. -/
def step (s : Scanner) : Except Fault Scanner :=
  match s.mode with
  | .base => s.scanBase
  | .number scan => s.scanNumber scan
  | .operator origin symbol => s.scanOperator origin symbol
  | .text origin quote content => s.scanText origin quote content
  | .reference origin key => s.scanReference origin key
  | .callName origin name => s.scanCallName origin name
  | .groupClose => s.scanClose .unclosedGroup
  | .callClose method => s.scanClose (.uncalledMethod method)
  | .complete => .ok s

/-! ## Whole texts -/

/-- Steps until the scan is complete, `fuel` times at most. -/
def run : Nat → Scanner → Except Fault (List Node)
  | 0, _ => .error .unexpectedEnd
  | fuel + 1, s => do
    match s.mode with
    | .complete => .ok s.nodes.reverse
    | _ => run fuel (← s.step)

/-- How many steps a text of so many characters can take. -/
def stepBound (length : Nat) : Nat := 3 * (length + 1)

end Scanner

/-- The nodes of a formula in the order of its text. -/
def tokenize (text : String) : Except Fault (List Node) :=
  let cs := text.toList
  Scanner.run (Scanner.stepBound cs.length + 1) (Scanner.start cs)

end Formulary
