-- How a pattern is read from text. Open groups are kept on a stack; flags hold to the end of the
-- group in which they are set.
import Formulary.Text.Alphanumeric
import Formulary.TextPattern.Bracket

namespace Formulary.TextPattern

/-! ## Parts -/

/-- How deep the parts of a pattern may be nested. -/
def maxDepth : Nat := 250

/-- A part of a pattern, and how deep it is nested. A part that only sets flags cannot be
repeated. -/
structure Part where
  depth : Nat
  pattern : TextPattern
  setsFlags : Bool := false

/-- A part of one character, one set or one place. -/
def Part.simple (p : TextPattern) : Part := ⟨0, p, false⟩

/-- A part of a pattern around another part. -/
def Part.around? (inner : Part) (p : TextPattern) : Option Part :=
  if inner.depth < maxDepth then some ⟨inner.depth + 1, p, false⟩ else none

/-- Several parts as one, which makes a new level. A part alone stays as it is. -/
def Part.join? (combine : List TextPattern → TextPattern) (ps : List Part) : Option Part :=
  match ps with
  | [p] => some { p with setsFlags := false }
  | ps =>
    let depth := ps.foldl (fun depth p => max depth p.depth) 0
    let depth := if ps.isEmpty then 0 else depth + 1
    if depth ≤ maxDepth then some ⟨depth, combine (ps.map (·.pattern)), false⟩ else none

/-! ## Groups -/

/-- A group under way. -/
structure Level where
  /-- The number of the group, if its text is kept. -/
  number : Option Nat
  /-- The flags around the group. -/
  outside : Flags
  /-- The alternatives before the last bar, latest first. -/
  branches : List Part := []
  /-- The parts since the last bar, latest first. -/
  parts : List Part := []

namespace Level

/-- The parts since the last bar as one part. -/
def branch? (l : Level) : Option Part := Part.join? concat l.parts.reverse

/-- All alternatives as one part. -/
def part? (l : Level) : Option Part := do
  Part.join? alternation ((← l.branch?) :: l.branches).reverse

end Level

/-- A pattern under way. -/
structure PatternState where
  rest : List Char
  flags : Flags
  level : Level
  outer : List Level
  /-- How many groups have had their number. -/
  captures : Nat
  names : List (String × Nat)

namespace PatternState

/-- Adds a part, behind which `rest` is left. -/
def push (s : PatternState) (p : Part) (rest : List Char) : PatternState :=
  { s with rest, level := { s.level with parts := p :: s.level.parts } }

/-! ## Loops -/

/-- Repeats the part before. Flags, and nothing at all, cannot be repeated. -/
def repeatLast? (s : PatternState) (least : Nat) (most : Option Nat) (greedy : Bool)
    (rest : List Char) : Option PatternState :=
  match s.level.parts with
  | [] => none
  | p :: ps =>
    if p.setsFlags then none
    else do
      let loop ← p.around? (repeated p.pattern least most (greedy != s.flags.lazyLoops))
      some ({ s with level := { s.level with parts := ps } }.push loop rest)

/-- Repeats the part before, rather seldom if a question mark follows. -/
def repeatMarked? (s : PatternState) (least : Nat) (most : Option Nat) (rest : List Char) :
    Option PatternState :=
  match rest with
  | '?' :: rest => s.repeatLast? least most false rest
  | rest => s.repeatLast? least most true rest

/-- Repeats the part before as often as the numbers after an opening brace say. -/
def repeatCounted? (s : PatternState) (cs : List Char) : Option PatternState := do
  let x := s.flags.extended
  let (least, rest) ← count? x (skip x cs)
  let (most, rest) : Option Nat × List Char ← match rest with
    | ',' :: rest =>
      match skip x rest with
      | '\x7d' :: rest => some (none, '\x7d' :: rest)
      | rest => (count? x rest).map fun (n, rest) => (some n, rest)
    | rest => some (some least, rest)
  match rest with
  | '\x7d' :: rest =>
    if most.all (least ≤ ·) then s.repeatMarked? least most (skip x rest) else none
  | _ => none

/-! ## Opening and closing groups -/

/-- Opens a group with flags of its own. -/
def openGroup (s : PatternState) (number : Option Nat) (flags : Flags) (rest : List Char) :
    PatternState :=
  { s with rest, flags, level := { number, outside := s.flags }, outer := s.level :: s.outer }

/-- Opens a group whose text is kept. -/
def openCapture (s : PatternState) (rest : List Char) : PatternState :=
  let number := s.captures + 1
  { s with captures := number }.openGroup (some number) s.flags rest

/-- The name of a group begins with a letter or an underscore; points, brackets and numbers may
follow. -/
def isGroupName (name : List Char) : Bool :=
  match name with
  | [] => false
  | c :: cs =>
    (c == '_' || Text.isAlphabetic c) &&
      cs.all fun c => ['_', '.', '[', ']'].contains c || Text.isAlphanumeric c

/-- Opens a group whose name stands before the next angle bracket. No name may be given
twice. -/
def openNamed? (s : PatternState) (cs : List Char) : Option PatternState :=
  let name := cs.takeWhile (· != '>')
  let text := String.ofList name
  match cs.dropWhile (· != '>') with
  | [] => none
  | _ :: rest =>
    if isGroupName name ∧ (s.names.lookup text).isNone then
      some ({ s with names := (text, s.captures + 1) :: s.names }.openCapture rest)
    else none

/-- Reads flags, which hold for a group behind a colon, or from here on. -/
def openFlags? (s : PatternState) (cs : List Char) : Option PatternState := do
  let isEnd (c : Char) : Bool := c == ':' || c == ')'
  let letters := cs.takeWhile (!isEnd ·)
  let flags ← s.flags.setAll? letters
  match cs.dropWhile (!isEnd ·) with
  | ':' :: rest => some (s.openGroup none flags rest)
  | ')' :: rest =>
    if letters = [] then none else some ({ s with flags }.push ⟨0, .empty, true⟩ rest)
  | _ => none

/-- Reads what follows an opening parenthesis. Nothing looks ahead or back. -/
def openAny? (s : PatternState) (cs : List Char) : Option PatternState :=
  match skip s.flags.extended cs with
  | '?' :: '=' :: _ | '?' :: '!' :: _ | '?' :: '<' :: '=' :: _ | '?' :: '<' :: '!' :: _ => none
  | '?' :: 'P' :: '<' :: rest => s.openNamed? rest
  | '?' :: '<' :: rest => s.openNamed? rest
  | '?' :: rest => s.openFlags? rest
  | rest => some (s.openCapture rest)

/-- Closes a group. -/
def closeGroup? (s : PatternState) (rest : List Char) : Option PatternState :=
  match s.outer with
  | [] => none
  | around :: outer => do
    let inner ← s.level.part?
    let whole ← inner.around? (match s.level.number with
      | some n => .capture n inner.pattern
      | none => inner.pattern)
    some ({ s with flags := s.level.outside, level := around, outer }.push whole rest)

/-! ## The whole pattern -/

/-- Starts a new alternative. -/
def nextBranch? (s : PatternState) (rest : List Char) : Option PatternState := do
  let branch ← s.level.branch?
  some { s with rest, level := { s.level with
    branches := branch :: s.level.branches, parts := [] } }

/-- Reads one part of the pattern, which begins with `c`. -/
def step? (s : PatternState) (c : Char) (cs : List Char) : Option PatternState :=
  match c with
  | '(' => s.openAny? cs
  | ')' => s.closeGroup? cs
  | '|' => s.nextBranch? cs
  | '[' => do
    let (p, rest) ← class? s.flags cs
    if p.depth ≤ maxDepth then some (s.push ⟨p.depth, ofSet p.set, false⟩ rest) else none
  | '?' => s.repeatMarked? 0 (some 1) cs
  | '*' => s.repeatMarked? 0 none cs
  | '+' => s.repeatMarked? 1 none cs
  | '\x7b' => s.repeatCounted? cs
  | '\\' => do
    let (e, rest) ← escape? s.flags cs
    some (s.push (.simple (match e with
      | .char c => s.flags.char c
      | .set chars => ofSet chars
      | .assertion a => .assertion a)) rest)
  | '.' => s.flags.dot?.map fun chars => s.push (.simple (ofSet chars)) cs
  | '^' => some (s.push (.simple (.assertion s.flags.lineStart)) cs)
  | '$' => some (s.push (.simple (.assertion s.flags.lineEnd)) cs)
  | c => some (s.push (.simple (s.flags.char c)) cs)

/-- Reads parts until the pattern ends, `fuel` of them at most. -/
def run? : Nat → PatternState → Option PatternState
  | 0, _ => none
  | fuel + 1, s =>
    match skip s.flags.extended s.rest with
    | [] => if s.outer.isEmpty then some s else none
    | c :: cs => (s.step? c cs).bind (run? fuel)

end PatternState

/-- A pattern that has been read: how many groups it keeps, and what they are called. -/
structure Compiled where
  pattern : TextPattern
  captures : Nat
  names : List (String × Nat)

/-- Reads a pattern. -/
def parse? (text : String) : Option Compiled := do
  let cs := text.toList
  let s ← PatternState.run? (cs.length + 1)
    ⟨cs, {}, { number := none, outside := {} }, [], 0, []⟩
  some ⟨(← s.level.part?).pattern, s.captures, s.names⟩

end Formulary.TextPattern
