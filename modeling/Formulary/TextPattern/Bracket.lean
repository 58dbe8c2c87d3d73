-- Classes in brackets: how they are read, with classes inside them on a stack.
import Formulary.TextPattern.Escape

namespace Formulary.TextPattern

/-! ## Parts of classes -/

/-- How two sets in brackets are joined. -/
inductive SetJoin where
  | inter
  | diff
  | symmDiff
  deriving DecidableEq, Repr

/-- The set that two sets are joined to. -/
def SetJoin.apply (kind : SetJoin) (s t : CharSet) : CharSet :=
  match kind with
  | inter => s.inter t
  | diff => s.diff t
  | symmDiff => s.symmDiff t

/-- A part of a class, and how deep it is nested. -/
structure ClassPart where
  depth : Nat
  set : CharSet

/-- Members of a class side by side: how many there are, how deep the deepest is nested, and
all their ranges. -/
structure ClassMembers where
  count : Nat := 0
  depth : Nat := 0
  ranges : List CharRange := []

namespace ClassMembers

def add (m : ClassMembers) (p : ClassPart) : ClassMembers :=
  ⟨m.count + 1, max m.depth p.depth, p.set.ranges.toList.reverse ++ m.ranges⟩

/-- The members as one part. Several of them make a new level. -/
def part (m : ClassMembers) : ClassPart :=
  ⟨if 1 < m.count then m.depth + 1 else m.depth, .ofRanges m.ranges⟩

end ClassMembers

/-- A class under way: what stands before the last joining mark, and the members since. -/
structure Bracket where
  negated : Bool
  before : Option (ClassPart × SetJoin) := none
  members : ClassMembers := {}

namespace Bracket

def add (b : Bracket) (p : ClassPart) : Bracket := { b with members := b.members.add p }

/-- All that has been read so far as one part. -/
def total (b : Bracket) (f : Flags) : ClassPart :=
  let p := b.members.part
  match b.before with
  | none => p
  | some (q, kind) => ⟨max q.depth p.depth + 1, kind.apply (f.fold q.set) (f.fold p.set)⟩

def join (b : Bracket) (f : Flags) (kind : SetJoin) : Bracket :=
  { negated := b.negated, before := some (b.total f, kind) }

/-- The class as a part of the one around it. -/
def close? (b : Bracket) (f : Flags) : Option ClassPart :=
  let p := b.total f
  (f.foldNegate? b.negated p.set).map fun s => ⟨p.depth + 1, s⟩

/-- Reads the start of a class after its opening bracket: a caret, and dashes or a bracket that
stand for themselves. -/
def start (f : Flags) (cs : List Char) : Bracket × List Char :=
  let (negated, cs) := match skip f.extended cs with
    | '^' :: rest => (true, skip f.extended rest)
    | cs => (false, cs)
  let (dashes, rest) := spacedWhile f.extended (· == '-') [] cs
  let b : Bracket := dashes.foldl (fun b c => b.add ⟨0, .single c⟩) { negated }
  match dashes, rest with
  | [], ']' :: rest => (b.add ⟨0, .single ']'⟩, skip f.extended rest)
  | _, rest => (b, rest)

end Bracket

/-! ## Members -/

/-- The ASCII class with a name. -/
def asciiClass? (name : String) : Option CharSet :=
  match name with
  | "alnum" => some (.ofText "30-39 41-5A 61-7A")
  | "alpha" => some (.ofText "41-5A 61-7A")
  | "ascii" => some (.ofText "0-7F")
  | "blank" => some (.ofText "9 20")
  | "cntrl" => some (.ofText "0-1F 7F")
  | "digit" => some (.ofText "30-39")
  | "graph" => some (.ofText "21-7E")
  | "lower" => some (.ofText "61-7A")
  | "print" => some (.ofText "20-7E")
  | "punct" => some (.ofText "21-2F 3A-40 5B-60 7B-7E")
  | "space" => some (.ofText "9-D 20")
  | "upper" => some (.ofText "41-5A")
  | "word" => some asciiWordChars
  | "xdigit" => some (.ofText "30-39 41-46 61-66")
  | _ => none

/-- Reads an ASCII class such as `[:alpha:]`, of which the first bracket has been read, and
whether it is negated. -/
def namedClass? (cs : List Char) : Option ((Bool × CharSet) × List Char) :=
  match cs with
  | ':' :: rest =>
    let (negated, rest) := match rest with
      | '^' :: rest => (true, rest)
      | rest => (false, rest)
    match rest.dropWhile (· != ':') with
    | ':' :: ']' :: after =>
      (asciiClass? (String.ofList (rest.takeWhile (· != ':')))).map fun s =>
        ((negated, s), after)
    | _ => none
  | _ => none

/-- Reads one character or escape. -/
def classItem? (f : Flags) : List Char → Option (Escape × List Char)
  | [] => none
  | c :: rest => if c = '\\' then escape? f rest else some (.char c, rest)

/-- The set of an item that is no range. -/
def itemSet? (f : Flags) : Escape → Option CharSet
  | .char c => f.allow? (.single c)
  | .set s => some s
  | .assertion _ => none

/-- The set of a range between two items, which must be characters in order. -/
def rangeSet? (f : Flags) : Escape → Escape → Option CharSet
  | .char a, .char b => if a ≤ b then f.allow? (.range a b) else none
  | _, _ => none

/-- Reads one member of a class or a range of them. A dash before the closing bracket or
before another dash makes no range. -/
def classRange? (f : Flags) (cs : List Char) : Option (CharSet × List Char) := do
  let (first, rest) ← classItem? f cs
  let rest := skip f.extended rest
  match rest with
  | '-' :: after =>
    if [some ']', some '-'].contains (peek? f.extended after) then
      some (← itemSet? f first, rest)
    else do
      let (second, rest) ← classItem? f (skip f.extended after)
      some (← rangeSet? f first second, rest)
  | _ => some (← itemSet? f first, rest)

/-! ## The whole class -/

/-- Reads up to the closing bracket of the outermost class. Each turn reads a character, so that
`fuel` need only be their number. -/
def classBody? (f : Flags) :
    Nat → Bracket → List Bracket → List Char → Option (ClassPart × List Char)
  | 0, _, _, _ => none
  | fuel + 1, b, outer, cs =>
    match skip f.extended cs with
    | [] => none
    | '[' :: rest =>
      match namedClass? rest with
      | some ((negated, s), rest) => do
        classBody? f fuel (b.add ⟨0, ← f.foldNegate? negated s⟩) outer rest
      | none =>
        let (inner, rest) := Bracket.start f rest
        classBody? f fuel inner (b :: outer) rest
    | ']' :: rest => do
      let p ← b.close? f
      match outer with
      | [] => some (p, rest)
      | b :: outer => classBody? f fuel (b.add p) outer rest
    | '&' :: '&' :: rest => classBody? f fuel (b.join f .inter) outer rest
    | '-' :: '-' :: rest => classBody? f fuel (b.join f .diff) outer rest
    | '~' :: '~' :: rest => classBody? f fuel (b.join f .symmDiff) outer rest
    | cs => do
      let (s, rest) ← classRange? f cs
      classBody? f fuel (b.add ⟨0, s⟩) outer rest

/-- Reads a class after its opening bracket. -/
def class? (f : Flags) (cs : List Char) : Option (ClassPart × List Char) :=
  let (b, rest) := Bracket.start f cs
  classBody? f (cs.length + 1) b [] rest

end Formulary.TextPattern
