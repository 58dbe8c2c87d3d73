-- How much room a pattern takes as a machine that reads bytes. A machine has states; each takes
-- 32 bytes, and the lists in a state take some more: 8 bytes for each of its transitions, 4 for
-- each of its ways on. Patterns whose machines need more than 10 MiB are refused, whether the
-- machine reads texts forward or backward.
import Formulary.TextPattern.Syntax
import Formulary.TextPattern.Utf8
import Std.Data.HashMap

namespace Formulary.TextPattern

/-! ## Counting -/

/-- What a machine has come to: its states, and the bytes of the lists in them. -/
structure Footprint where
  states : Nat := 0
  listBytes : Nat := 0

namespace Footprint

/-- The bytes of one state. -/
def stateBytes : Nat := 32

/-- The bytes of one transition. -/
def transitionBytes : Nat := 8

/-- The bytes of one way on. -/
def wayBytes : Nat := 4

/-- The bytes that a machine may take. -/
def limit : Nat := 10485760

/-- Adds states and bytes in lists, if there is room. -/
def grow? (t : Footprint) (states listBytes : Nat) : Option Footprint :=
  let t : Footprint := ⟨t.states + states, t.listBytes + listBytes⟩
  if t.states * stateBytes + t.listBytes ≤ limit then some t else none

end Footprint

/-- The machine of a pattern: what has been built so far, and whether its last state is one with
a list of ways on, to which every state that follows is added. -/
structure Built where
  footprint : Footprint
  endsInWays : Bool := false

/-- Builds a machine behind what is there already. -/
abbrev Build := Footprint → Option Built

namespace Built

/-- Leads the last state on to another. -/
def lead? (b : Built) : Option Footprint :=
  if b.endsInWays then b.footprint.grow? 0 Footprint.wayBytes else some b.footprint

end Built

namespace Build

/-- Adds so many states that lead on to one state each. -/
def plain (states : Nat) : Build := fun t => (t.grow? states 0).map fun t => ⟨t, false⟩

/-- Builds a machine behind another. -/
def andThen (b : Built) (next : Build) : Option Built := do
  let built ← next b.footprint
  let footprint ← (Built.mk built.footprint b.endsInWays).lead?
  some ⟨footprint, built.endsInWays⟩

/-- Machines one after the other. -/
def chain : List Build → Build
  | [] => plain 1
  | first :: rest => fun t => do rest.foldlM andThen (← first t)

/-- Builds a machine so many more times. -/
def more (body : Build) : Nat → Built → Option Built
  | 0, b => some b
  | n + 1, b => (andThen b body).bind (more body n)

/-- A machine so many times. -/
def times (body : Build) : Nat → Build
  | 0 => plain 1
  | n + 1 => fun t => (body t).bind (more body n)

/-! ## Loops -/

/-- Adds a state with two ways on, of which the first goes into the machine that is built next;
the last state leads on. -/
def optional (body : Build) : Build := fun t => do
  let built ← body (← t.grow? 1 (2 * Footprint.wayBytes))
  some ⟨← built.lead?, false⟩

/-- So many machines, each of which may be the last. -/
def optionals (body : Build) : Nat → Built → Option Built
  | 0, b => b.lead?.map fun t => ⟨t, false⟩
  | n + 1, b => do
    let t ← (← b.lead?).grow? 1 (2 * Footprint.wayBytes)
    optionals body n (← body t)

/-- A machine that goes round: a state with ways back to it and on. -/
def again (body : Build) : Build := fun t => do
  let built ← body t
  some ⟨← (← built.lead?).grow? 1 Footprint.wayBytes, true⟩

/-- A machine for any number of times. One that may take nothing is built to go round at least
once, with a way past it. -/
def anyTimes (body : Build) (takesSomething : Bool) : Build :=
  if takesSomething then again body
  else fun t => do
    let built ← again body t
    let t ← built.footprint.grow? 2 (3 * Footprint.wayBytes)
    some ⟨t, false⟩

/-- A machine for at least so many times. -/
def atLeast (body : Build) (takesSomething : Bool) : Nat → Build
  | 0 => anyTimes body takesSomething
  | 1 => again body
  | n + 2 => fun t => do andThen (← times body (n + 1) t) (again body)

/-- A machine for a number of times between two bounds. -/
def between (body : Build) (least most : Nat) : Build :=
  if most ≤ least then times body least
  else if least = 0 ∧ most = 1 then fun t => do
    let built ← optional body t
    some ⟨← built.footprint.grow? 1 0, false⟩
  else fun t => do
    let built ← times body least t
    optionals body (most - least) ⟨← built.footprint.grow? 1 0, built.endsInWays⟩

/-! ## Choices -/

/-- One branch of a choice, with a way into it and one out of it. -/
def branch (t : Footprint) (body : Build) : Option Footprint := do
  (← (← body t).lead?).grow? 0 Footprint.wayBytes

/-- A choice: a state with a way into each branch, and one where they meet. These two are built
after the second branch. -/
def choice (branches : List Build) : Build := fun t => do
  let t ← (branches.take 2).foldlM branch t
  let t ← (branches.drop 2).foldlM branch (← t.grow? 2 0)
  some ⟨t, false⟩

end Build

/-! ## Choices of literals -/

/-- One state in a tree of literals: how many transitions it has in each of the groups that are
closed, and those in the group that is open. A literal that ends in a state closes a group. -/
structure LiteralNode where
  closed : List Nat := []
  opened : List (Nat × Nat) := []
  deriving Inhabited

namespace LiteralNode

def isLeaf (n : LiteralNode) : Bool := n.opened.isEmpty && n.closed.all (· == 0)

/-- A literal ends here. -/
def finish (n : LiteralNode) : LiteralNode :=
  if n.isLeaf && !n.closed.isEmpty then n else ⟨n.opened.length :: n.closed, []⟩

/-- What a state takes: each group a state of its own with its transitions, and a way into each
group and, between them, to the end. -/
def grow? (t : Footprint) (n : LiteralNode) : Option Footprint :=
  if n.isLeaf then some t
  else
    let groups := n.opened.length :: n.closed
    let used := groups.filter (· != 0)
    let listed := used.foldl (fun sum size => if size = 1 then sum else sum + size) 0
    t.grow? (used.length + 1) (listed * Footprint.transitionBytes +
      (used.length + n.closed.length) * Footprint.wayBytes)

end LiteralNode

/-- Adds one byte of a literal to a tree, from the state where the literal has come to. -/
def addByte (tree : Array LiteralNode × Nat) (byte : Nat) : Array LiteralNode × Nat :=
  let (nodes, place) := tree
  let node := nodes.getD place {}
  match node.opened.lookup byte with
  | some next => (nodes, next)
  | none =>
    let node := { node with opened := (byte, nodes.size) :: node.opened }
    ((nodes.setIfInBounds place node).push {}, nodes.size)

/-- Adds a literal to a tree. -/
def addLiteral (nodes : Array LiteralNode) (bytes : List Nat) : Array LiteralNode :=
  let (nodes, place) := bytes.foldl addByte (nodes, 0)
  nodes.modify place LiteralNode.finish

/-- A choice of literals: one tree of their bytes. -/
def Build.literals (literals : List (List Nat)) : Build := fun t => do
  let nodes := literals.foldl addLiteral #[{}]
  let t ← nodes.foldlM LiteralNode.grow? (← t.grow? 1 0)
  some ⟨t, false⟩

/-! ## Sets -/

/-- A step of the hash by which states are remembered. -/
def mixHash (h : UInt64) (n : Nat) : UInt64 := (h ^^^ n.toUInt64) * 1099511628211

/-- What the hash begins with. -/
def hashStart : UInt64 := 14695981039346656037

/-- A transition: a range of bytes, and the state behind it. -/
structure Transition where
  bytes : ByteRange
  next : Nat
  deriving DecidableEq, Repr

/-- Mixes a transition into a hash. -/
def Transition.mix (h : UInt64) (t : Transition) : UInt64 :=
  mixHash (mixHash (mixHash h t.bytes.first) t.bytes.last) t.next

/-- The states that are remembered: one for each slot, the last that was put there. -/
abbrev Memory := Std.HashMap Nat (List Transition × Nat)

/-- A machine under way, and the states that are remembered. -/
structure Sharing where
  footprint : Footprint
  memory : Memory := ∅

namespace Sharing

/-- The state with the given transitions: one that is remembered, or a new one. -/
def state? (s : Sharing) (transitions : List Transition) : Option (Nat × Sharing) :=
  let slot := (transitions.foldl Transition.mix hashStart).toNat % 10000
  let fresh : Option (Nat × Sharing) := do
    let id := s.footprint.states
    let t ← s.footprint.grow? 1 (transitions.length * Footprint.transitionBytes)
    some (id, ⟨t, s.memory.insert slot (transitions, id)⟩)
  match s.memory[slot]? with
  | some (known, id) => if known = transitions then some (id, s) else fresh
  | none => fresh

end Sharing

/-- A state that is not finished: its transitions, latest first, and the bytes of one whose next
state is not yet known. -/
structure OpenState where
  transitions : List Transition
  last : Option ByteRange

namespace OpenState

/-- A state of which only the bytes of a transition are known. -/
def start (r : ByteRange) : OpenState := ⟨[], some r⟩

/-- The state with its last transition finished. -/
def close (o : OpenState) (next : Nat) : OpenState :=
  match o.last with
  | none => o
  | some r => ⟨⟨r, next⟩ :: o.transitions, none⟩

/-- Finishes states, each the one behind the one before, from the last on; behind it comes
`target`. -/
def closeAll? (target : Nat) : List OpenState → Sharing → Option (Nat × Sharing)
  | [], s => some (target, s)
  | o :: rest, s => do
    let (next, s) ← closeAll? target rest s
    s.state? (o.close next).transitions.reverse

/-- Adds a sequence of byte ranges to the states that are open. What it has in common with the
sequence before is shared, and the rest of that sequence is finished. -/
def add? (target : Nat) : List OpenState → List ByteRange → Sharing →
    Option (List OpenState × Sharing)
  | o :: rest, r :: rs, s =>
    if o.last = some r then do
      let (rest, s) ← add? target rest rs s
      some (o :: rest, s)
    else do
      let (next, s) ← closeAll? target rest s
      some ({ o.close next with last := some r } :: rs.map start, s)
  | [], rs, s => some (rs.map start, s)
  | states, [], s => some (states, s)

end OpenState

/-- A set, read forward: the sequences of its bytes share the states that lead to the same
end. -/
def Build.setForward (s : CharSet) : Build := fun t => do
  let target := t.states
  let sharing : Sharing := { footprint := ← t.grow? 1 0 }
  let (states, sharing) ← (Utf8.ofSet s).foldlM
    (fun (states, sharing) bytes => OpenState.add? target states bytes sharing)
    ([⟨[], none⟩], sharing)
  let (_, sharing) ← OpenState.closeAll? target states sharing
  some ⟨sharing.footprint, false⟩

/-- A state with one transition, read backward: one that is remembered, or a new one. -/
def Sharing.backward? (s : Sharing) (transition : Transition) : Option (Nat × Sharing) :=
  let h := mixHash (mixHash (mixHash hashStart transition.next) transition.bytes.first)
    transition.bytes.last
  let slot := h.toNat % 1000
  let fresh : Option (Nat × Sharing) := do
    let id := s.footprint.states
    let t ← s.footprint.grow? 1 0
    some (id, ⟨t, s.memory.insert slot ([transition], id)⟩)
  match s.memory[slot]? with
  | some (known, id) => if known = [transition] then some (id, s) else fresh
  | none => fresh

/-- A set, read backward: a way into each sequence of its bytes; sequences share the states of
the bytes that are read last. -/
def Build.setBackward (s : CharSet) : Build := fun t => do
  let target := t.states + 1
  let sharing : Sharing := { footprint := ← t.grow? 2 0 }
  let sharing ← (Utf8.ofSet s).foldlM (fun sharing bytes => do
    let (_, sharing) ← bytes.foldlM
      (fun (next, sharing) r => Sharing.backward? sharing ⟨r, next⟩) (target, sharing)
    some { sharing with footprint := ← sharing.footprint.grow? 0 Footprint.wayBytes }) sharing
  some ⟨sharing.footprint, false⟩

/-- A set. One of ASCII takes a state with a transition for each range, and one behind it. -/
def Build.set (backward : Bool) (s : CharSet) : Build :=
  if s.isAscii then fun t =>
    (t.grow? 2 (s.ranges.size * Footprint.transitionBytes)).map fun t => ⟨t, false⟩
  else if backward then setBackward s
  else setForward s

/-! ## Patterns -/

/-- The bytes of a literal. -/
def literalBytes? : TextPattern → Option (List Nat)
  | literal cs => some (Utf8.encodeAll cs)
  | _ => none

mutual

/-- The machine of a pattern. Groups are only kept in one that reads forward. -/
def build (backward : Bool) : TextPattern → Build
  | empty => .plain 1
  | literal cs => .plain (Utf8.size cs)
  | set s => .set backward s
  | assertion _ => .plain 1
  | loop body least most _ =>
    match most with
    | some most => .between (body.build backward) least most
    | none => .atLeast (body.build backward) (body.minLength.any (0 < ·)) least
  | capture _ p =>
    if backward then p.build backward else .chain [.plain 1, p.build backward, .plain 1]
  | sequence ps =>
    let parts := buildAll backward [] ps
    .chain (if backward then parts else parts.reverse)
  | choice ps =>
    match ps.mapM literalBytes? with
    | some literals => .literals (if backward then literals.map List.reverse else literals)
    | none => .choice (buildAll backward [] ps).reverse

/-- The machines of several patterns, the last one first. -/
def buildAll (backward : Bool) (before : List Build) : List TextPattern → List Build
  | [] => before
  | p :: ps => buildAll backward (p.build backward :: before) ps

end

/-- The part of a machine that passes over the text before a match. -/
def Build.passOver (anchored : Bool) : Build := fun t =>
  (if anchored then t.grow? 1 0
    else t.grow? 3 (Footprint.transitionBytes + 2 * Footprint.wayBytes)).map fun t => ⟨t, false⟩

/-- From how many literals on a choice of them is looked up in a table, without a machine. -/
def tabledLiterals : Nat := 3000

/-- The pattern is a choice of so many literals that it needs no machine. -/
def isLiteralTable : TextPattern → Bool
  | choice ps => tabledLiterals ≤ ps.length && (ps.mapM literalBytes?).isSome
  | _ => false

/-- There is room for the machines of the pattern in both directions. -/
def fits (p : TextPattern) : Bool :=
  let forward := Build.chain [.passOver p.anchoredAtStart, .plain 1, p.build false, .plain 2]
  let backward := Build.chain [.passOver p.anchoredAtEnd, p.build true, .plain 1]
  p.isLiteralTable || ((forward {}).isSome && (backward {}).isSome)

end Formulary.TextPattern
