-- The parts that patterns are made of, and how they are put together.
import Formulary.TextPattern.Edition

namespace Formulary

namespace TextPattern

/-! ## Assertions -/

/-- The characters of words: letters, marks, digits, and what joins them. -/
def wordChars : CharSet :=
  known (.unions [Unicode.alphabetic, Unicode.marks, Unicode.decimalNumbers,
    Unicode.connectorPunctuation, .ofText "200C-200D"])

/-- The characters of English words. -/
def asciiWordChars : CharSet := .ofText "30-39 41-5A 5F 61-7A"

/-- What a pattern can ask of the characters on the two sides of a place. -/
inductive WordPlace where
  | boundary
  | noBoundary
  | start
  | stop
  /-- No word goes on from before the place. -/
  | startHalf
  /-- No word goes on behind the place. -/
  | stopHalf
  deriving DecidableEq, Repr

/-- What a pattern can ask of a place without taking a character. -/
inductive Assertion where
  | textStart
  | textEnd
  | lineStart
  | lineEnd
  /-- Lines may end with a carriage return too, or with both. -/
  | looseLineStart
  | looseLineEnd
  /-- A place in or beside a word; words are English ones, or those of all scripts. -/
  | word (place : WordPlace) (english : Bool)
  deriving DecidableEq, Repr

/-- The place has the given kinds of characters on its sides. -/
def WordPlace.holds (place : WordPlace) (wordBefore wordAfter : Bool) : Bool :=
  match place with
  | boundary => wordBefore != wordAfter
  | noBoundary => wordBefore == wordAfter
  | start => !wordBefore && wordAfter
  | stop => wordBefore && !wordAfter
  | startHalf => !wordBefore
  | stopHalf => !wordAfter

/-- The assertion holds between two characters, either of which may be missing. -/
def Assertion.holds (a : Assertion) (before after : Option Char) : Bool :=
  match a with
  | textStart => before.isNone
  | textEnd => after.isNone
  | lineStart => before.all (· == '\n')
  | lineEnd => after.all (· == '\n')
  | looseLineStart => before.all fun c => c == '\n' || (c == '\r' && after != some '\n')
  | looseLineEnd => after.all fun c => c == '\r' || (c == '\n' && before != some '\r')
  | word place english =>
    let chars := if english then asciiWordChars else wordChars
    place.holds (before.any chars.contains) (after.any chars.contains)

end TextPattern

/-! ## Patterns -/

/-- A pattern for pieces of text. -/
inductive TextPattern where
  | empty
  /-- These characters, one after the other. -/
  | literal (cs : List Char)
  /-- One character of a set. -/
  | set (s : CharSet)
  | assertion (a : TextPattern.Assertion)
  /-- At least `least` times and at most `most` times, rather often or rather seldom. -/
  | loop (body : TextPattern) (least : Nat) (most : Option Nat) (greedy : Bool)
  /-- A group whose text is kept under a number. -/
  | capture (number : Nat) (body : TextPattern)
  | sequence (parts : List TextPattern)
  /-- One of several, the first that leads on. -/
  | choice (branches : List TextPattern)
  deriving Repr, Inhabited

namespace TextPattern

mutual

/-- Two patterns are built alike. -/
def same : TextPattern → TextPattern → Bool
  | empty, empty => true
  | literal cs, literal ds => cs == ds
  | set s, set t => s == t
  | assertion a, assertion b => a == b
  | loop p least most greedy, loop q least' most' greedy' =>
    least == least' && most == most' && greedy == greedy' && p.same q
  | capture n p, capture m q => n == m && p.same q
  | sequence ps, sequence qs => sameAll ps qs
  | choice ps, choice qs => sameAll ps qs
  | _, _ => false

/-- Two lists of patterns are built alike. -/
def sameAll : List TextPattern → List TextPattern → Bool
  | [], [] => true
  | p :: ps, q :: qs => p.same q && sameAll ps qs
  | _, _ => false

end

/-! ## Lengths -/

mutual

/-- The fewest characters that the pattern takes; none, if it can fail at once everywhere. -/
def minLength : TextPattern → Option Nat
  | empty => some 0
  | literal cs => some cs.length
  | set s => if s.isEmpty then none else some 1
  | assertion _ => some 0
  | loop p least _ _ => p.minLength.map (· * least)
  | capture _ p => p.minLength
  | sequence ps => minLengthSum (some 0) ps
  | choice ps => minLengthLeast ps

def minLengthSum (sum : Option Nat) : List TextPattern → Option Nat
  | [] => sum
  | p :: ps => minLengthSum (do some ((← sum) + (← p.minLength))) ps

def minLengthLeast : List TextPattern → Option Nat
  | [] => none
  | [p] => p.minLength
  | p :: ps => do some (min (← p.minLength) (← minLengthLeast ps))

end

mutual

/-- The most characters that the pattern takes, if there is a bound. -/
def maxLength : TextPattern → Option Nat
  | empty => some 0
  | literal cs => some cs.length
  | set s => if s.isEmpty then none else some 1
  | assertion _ => some 0
  | loop p _ most _ => do some ((← p.maxLength) * (← most))
  | capture _ p => p.maxLength
  | sequence ps => maxLengthSum (some 0) ps
  | choice ps => maxLengthGreatest ps

def maxLengthSum (sum : Option Nat) : List TextPattern → Option Nat
  | [] => sum
  | p :: ps => maxLengthSum (do some ((← sum) + (← p.maxLength))) ps

def maxLengthGreatest : List TextPattern → Option Nat
  | [] => none
  | [p] => p.maxLength
  | p :: ps => do some (max (← p.maxLength) (← maxLengthGreatest ps))

end

/-- The pattern takes no characters. -/
def isPlace (p : TextPattern) : Bool := p.maxLength == some 0

/-! ## Anchors -/

mutual

/-- Every match begins at the start of the text. -/
def anchoredAtStart : TextPattern → Bool
  | assertion a => a == .textStart
  | loop p least _ _ => least != 0 && p.anchoredAtStart
  | capture _ p => p.anchoredAtStart
  | sequence ps => anyAnchoredAtStart ps
  | choice ps => allAnchoredAtStart ps
  | _ => false

/-- A part that stands before all characters is anchored. -/
def anyAnchoredAtStart : List TextPattern → Bool
  | [] => false
  | p :: ps => p.anchoredAtStart || (p.isPlace && anyAnchoredAtStart ps)

def allAnchoredAtStart : List TextPattern → Bool
  | [] => true
  | p :: ps => p.anchoredAtStart && allAnchoredAtStart ps

end

mutual

/-- Every match ends at the end of the text. -/
def anchoredAtEnd : TextPattern → Bool
  | assertion a => a == .textEnd
  | loop p least _ _ => least != 0 && p.anchoredAtEnd
  | capture _ p => p.anchoredAtEnd
  | sequence ps => lastAnchoredAtEnd false ps
  | choice ps => allAnchoredAtEnd ps
  | _ => false

/-- A part that stands behind all characters is anchored. `before` tells this of the parts that
have been passed. -/
def lastAnchoredAtEnd (before : Bool) : List TextPattern → Bool
  | [] => before
  | p :: ps => lastAnchoredAtEnd (p.anchoredAtEnd || (p.isPlace && before)) ps

def allAnchoredAtEnd : List TextPattern → Bool
  | [] => true
  | p :: ps => p.anchoredAtEnd && allAnchoredAtEnd ps

end

/-! ## Putting patterns together -/

/-- One character of a set, as a literal if there is only one. -/
def ofSet (s : CharSet) : TextPattern :=
  match s.only? with
  | some c => literal [c]
  | none => set s

/-- A repeated pattern. A pattern that takes no characters need not be repeated more than once;
one that is repeated just once is left as it is. -/
def repeated (body : TextPattern) (least : Nat) (most : Option Nat) (greedy : Bool) :
    TextPattern :=
  let (least, most) : Nat × Option Nat :=
    if body.isPlace then (min least 1, some (min (most.getD 1) 1)) else (least, most)
  if least = 0 ∧ most = some 0 then empty
  else if least = 1 ∧ most = some 1 then body
  else loop body least most greedy

/-- The parts of a sequence, or the pattern as the only part. -/
def parts : TextPattern → List TextPattern
  | empty => []
  | sequence ps => ps
  | p => [p]

/-- Joins a literal to one in front of a list of parts. -/
def joinLiteral (p : TextPattern) (rest : List TextPattern) : List TextPattern :=
  match p, rest with
  | literal cs, literal ds :: rest => literal (cs ++ ds) :: rest
  | p, rest => p :: rest

/-- One pattern after the other. Sequences inside are opened, and literals are joined. -/
def concat (ps : List TextPattern) : TextPattern :=
  match (ps.flatMap parts).foldr joinLiteral [] with
  | [] => empty
  | [p] => p
  | ps => sequence ps

/-- The branches of a choice, or the pattern as the only branch. -/
def branches : TextPattern → List TextPattern
  | choice ps => ps
  | p => [p]

/-- The character of a literal with just one. -/
def onlyChar? : TextPattern → Option Char
  | literal [c] => some c
  | _ => none

/-- The set of a pattern that is one. -/
def onlySet? : TextPattern → Option CharSet
  | set s => some s
  | _ => none

/-- Branches as one pattern. Choices inside are opened; single characters make a set, and so do
sets. -/
def plainChoice (ps : List TextPattern) : TextPattern :=
  match ps.flatMap branches with
  | [] => set .empty
  | [p] => p
  | ps =>
    match ps.mapM onlyChar? with
    | some cs => ofSet (.ofChars cs)
    | none =>
      match ps.mapM onlySet? with
      | some sets => ofSet (.unions sets)
      | none => choice ps

/-- The parts of a sequence with at least two. -/
def sequenceParts? : TextPattern → Option (List TextPattern)
  | sequence ps => some ps
  | _ => none

/-- How many parts two lists have in common in front. -/
def commonParts : List TextPattern → List TextPattern → Nat
  | p :: ps, q :: qs => if p.same q then commonParts ps qs + 1 else 0
  | _, _ => 0

/-- A choice. If all branches begin with the same parts, these stand before the choice. -/
def alternation (ps : List TextPattern) : TextPattern :=
  match plainChoice ps with
  | choice ps =>
    match ps.mapM sequenceParts? with
    | some (first :: others) =>
      let count := others.foldl (fun n qs => min n (commonParts first qs)) first.length
      if count = 0 then choice ps
      else
        concat (first.take count ++
          [plainChoice ((first :: others).map fun qs => concat (qs.drop count))])
    | _ => choice ps
  | p => p

end TextPattern

end Formulary
