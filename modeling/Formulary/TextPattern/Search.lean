-- Where a pattern matches: it is turned into a small program, and all ways through the
-- program are followed together, in the order in which they are preferred.
import Formulary.TextPattern.Syntax

namespace Formulary.TextPattern

/-! ## Programs -/

/-- One step of a program. -/
inductive Instr where
  | char (c : Char) (next : Nat)
  | consume (chars : CharSet) (next : Nat)
  | check (a : Assertion) (next : Nat)
  /-- Two ways on, the preferred one first. -/
  | fork (first second : Nat)
  /-- Notes the place of a group's start or end. -/
  | save (slot : Nat) (next : Nat)
  | accept
  | stuck
  deriving Repr

abbrev Program := Array Instr

/-- Two ways on, of which a greedy loop prefers the first. -/
def Instr.branch (greedy : Bool) (again leave : Nat) : Instr :=
  if greedy then .fork again leave else .fork leave again

/-- Adds a piece to a program. It goes on at a given place, and its own first place is told. -/
abbrev Emitter := Nat → Program → Nat × Program

namespace Emitter

/-- Adds an instruction. -/
def emit (i : Instr) (p : Program) : Nat × Program := (p.size, p.push i)

/-- Characters one after the other. -/
def literal (cs : List Char) : Emitter := fun next p =>
  cs.reverse.foldl (fun (next, p) c => emit (.char c next) p) (next, p)

/-- Pieces one after the other; the last one is given first. -/
def chain (pieces : List Emitter) : Emitter := fun next p =>
  pieces.foldl (fun (next, p) piece => piece next p) (next, p)

/-- Pieces of which the first that leads on is taken; the last one is given first. -/
def choice (pieces : List Emitter) : Emitter := fun next p =>
  match pieces with
  | [] => emit .stuck p
  | last :: others =>
    others.foldl (fun (other, p) piece =>
      let (one, p) := piece next p
      emit (.fork one other) p) (last next p)

/-- Applies a function so many times. -/
def times {α : Type} (f : α → α) : Nat → α → α
  | 0, a => a
  | n + 1, a => times f n (f a)

/-- A piece at least and at most so many times. -/
def between (body : Emitter) (least most : Nat) (greedy : Bool) : Emitter := fun next p =>
  let optional : Nat × Program → Nat × Program := fun (after, p) =>
    let (start, p) := body after p
    emit (.branch greedy start next) p
  times (fun (next, p) => body next p) least (times optional (most - least) (next, p))

/-- A piece at least so many times. One that may take nothing is entered once or not at all, and
then may go round. -/
def atLeast (body : Emitter) (takesSomething : Bool) (least : Nat) (greedy : Bool) : Emitter :=
  fun next p =>
    let (again, p) := emit .stuck p
    let (start, p) := body again p
    let p := p.setIfInBounds again (.branch greedy start next)
    if least = 0 then
      if takesSomething then (again, p) else emit (.branch greedy start next) p
    else times (fun (next, p) => body next p) (least - 1) (start, p)

end Emitter

mutual

/-- The program of a pattern. -/
def emitter : TextPattern → Emitter
  | empty => fun next p => (next, p)
  | literal cs => .literal cs
  | set s => fun next p => Emitter.emit (.consume s next) p
  | assertion a => fun next p => Emitter.emit (.check a next) p
  | loop body least most greedy =>
    match most with
    | some most => .between body.emitter least most greedy
    | none => .atLeast body.emitter (body.minLength.any (0 < ·)) least greedy
  | capture number body => fun next p =>
    let (after, p) := Emitter.emit (.save (2 * number + 1) next) p
    let (start, p) := body.emitter after p
    Emitter.emit (.save (2 * number) start) p
  | sequence ps => .chain (emitters [] ps)
  | choice ps => .choice (emitters [] ps)

/-- The programs of several patterns, the last one first. -/
def emitters (before : List Emitter) : List TextPattern → List Emitter
  | [] => before
  | p :: ps => emitters (p.emitter :: before) ps

end

/-- The program of a whole pattern and its first place. The match itself is kept like a
group with the number zero. -/
def program (pattern : TextPattern) : Nat × Program :=
  (capture 0 pattern).emitter 0 #[.accept]

/-! ## Marks -/

/-- Which instructions have been taken at one place in the text: those with the stamp of now. -/
structure Marks where
  stamps : Array Nat
  now : Nat

namespace Marks

/-- No instruction has been taken. -/
def clean (p : Program) : Marks := ⟨Array.replicate p.size 0, 1⟩

/-- All stamps become old ones. -/
def wipe (m : Marks) : Marks := { m with now := m.now + 1 }

/-- The instruction has been taken; there is none beyond the program. -/
def has (m : Marks) (place : Nat) : Bool := m.stamps.getD place m.now == m.now

def put (m : Marks) (place : Nat) : Marks :=
  { m with stamps := m.stamps.setIfInBounds place m.now }

end Marks

/-! ## Threads -/

/-- The places that a way has noted: start and end of each group. -/
abbrev Slots := Array (Option Nat)

/-- A way through the program: where it is, and the places it has noted. -/
structure Thread where
  place : Nat
  slots : Slots

/-- The ways that have come to one place in the text: which instructions are taken, and the
ways that wait for a character, latest first. -/
structure Frontier where
  marks : Marks
  threads : List Thread

/-- Follows ways through the instructions that take no character. Of two ways to one
instruction the first is kept. Each turn either takes an instruction or drops a way. -/
def explore (p : Program) (before after : Option Char) (position : Nat) :
    Nat → List Thread → Frontier → Frontier
  | 0, _, f => f
  | _ + 1, [], f => f
  | fuel + 1, t :: rest, ⟨marks, threads⟩ =>
    if marks.has t.place then explore p before after position fuel rest ⟨marks, threads⟩
    else
      let marks := marks.put t.place
      let go := explore p before after position fuel
      match p.getD t.place .stuck with
      | .char _ _ | .consume _ _ | .accept => go rest ⟨marks, t :: threads⟩
      | .check a next =>
        go (if a.holds before after then ⟨next, t.slots⟩ :: rest else rest) ⟨marks, threads⟩
      | .fork first second => go (⟨first, t.slots⟩ :: ⟨second, t.slots⟩ :: rest) ⟨marks, threads⟩
      | .save slot next =>
        go (⟨next, t.slots.setIfInBounds slot (some position)⟩ :: rest) ⟨marks, threads⟩
      | .stuck => go rest ⟨marks, threads⟩

/-- Adds a way to a frontier. -/
def Frontier.add (f : Frontier) (p : Program) (before after : Option Char) (position : Nat)
    (t : Thread) : Frontier :=
  explore p before after position (2 * p.size + 2) [t] f

/-- Where an instruction leads with a character. -/
def Instr.take? (i : Instr) (c : Char) : Option Nat :=
  match i with
  | .char d next => if c = d then some next else none
  | .consume chars next => if chars.contains c then some next else none
  | _ => none

/-- Takes the next character along all ways. A way that has come to its end is a match, and
the ways after it do not count any more. -/
def advance (p : Program) (c : Option Char) (after : Option Char) (position : Nat) :
    List Thread → Frontier → Option Slots → Frontier × Option Slots
  | [], f, best => (f, best)
  | t :: rest, f, best =>
    match p.getD t.place .stuck with
    | .accept => (f, some t.slots)
    | i =>
      match c.bind i.take? with
      | some next =>
        advance p c after position rest (f.add p c after (position + 1) ⟨next, t.slots⟩) best
      | none => advance p c after position rest f best

/-- Goes through the text from a place. As long as nothing has matched, a new way starts at
each place. The marks are given back, to be used again. -/
def follow (p : Program) (first : Thread) (before : Option Char) (position : Nat)
    (f : Frontier) (best : Option Slots) : List Char → Option Slots × Marks
  | [] =>
    let f := if best.isNone then f.add p before none position first else f
    let (f, best) := advance p none none position f.threads.reverse ⟨f.marks.wipe, []⟩ best
    (best, f.marks)
  | c :: cs =>
    let f := if best.isNone then f.add p before (some c) position first else f
    if f.threads.isEmpty && best.isSome then (best, f.marks)
    else
      let (f, best) :=
        advance p (some c) cs.head? position f.threads.reverse ⟨f.marks.wipe, []⟩ best
      follow p first (some c) (position + 1) f best cs

/-- The places that the first match in a text has noted. The text is given from a place on,
with the character before it. -/
def search (start : Nat) (p : Program) (captures : Nat) (marks : Marks) (before : Option Char)
    (position : Nat) (cs : List Char) : Option Slots × Marks :=
  follow p ⟨start, Array.replicate (2 * captures + 2) none⟩ before position ⟨marks.wipe, []⟩
    none cs

end Formulary.TextPattern
