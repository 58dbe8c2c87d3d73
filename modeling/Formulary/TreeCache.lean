-- Parsed formulas, and a memory for the ones that were used last.
import Formulary.NameTable
import Formulary.Scan.Scanner
import Formulary.StackOrder

namespace Formulary

/-- The tree of a formula in stack order. Blanks around the formula do not count. -/
def parse (text : String) : Except Fault (List Node) :=
  stackOrder <$> tokenize (Text.trim text)

/-! ## Remembered trees -/

/-- A tree with a number of its own: two trees with one number are the same tree. -/
structure Tree where
  serial : Nat
  nodes : List Node
  deriving Repr

/-- The trees of the formulas that were used last. -/
structure TreeCache where
  /-- How many trees are remembered at most. -/
  capacity : Nat
  /-- The remembered trees by the text of the formula. -/
  entries : NameTable Tree
  /-- The texts of the remembered trees, the one used longest ago first. -/
  order : List String
  /-- The number of the next new tree. -/
  next : Nat

namespace TreeCache

def empty (capacity : Nat) : TreeCache := ⟨capacity, .empty, [], 0⟩

/-- How many trees are remembered. -/
def size (c : TreeCache) : Nat := c.entries.size

def isEmpty (c : TreeCache) : Bool := c.size == 0

/-- Forgets all trees. -/
def clear (c : TreeCache) : TreeCache := { c with entries := .empty, order := [] }

/-- Makes a text the one used last. -/
def touch (c : TreeCache) (key : String) : TreeCache :=
  if key ∈ c.order then { c with order := c.order.erase key ++ [key] } else c

/-- Forgets the trees of the texts used longest ago, as long as there is no room for one more
tree. -/
def evict (capacity : Nat) : NameTable Tree → List String → NameTable Tree × List String
  | entries, [] => (entries, [])
  | entries, oldest :: order =>
    if capacity ≤ entries.size then evict capacity (entries.erase oldest) order
    else (entries, oldest :: order)

/-- Remembers the tree of a text. For a text that is new, the trees used longest ago make
room. -/
def remember (c : TreeCache) (key : String) (tree : Tree) : TreeCache :=
  if c.entries.contains key then { c with entries := c.entries.replace key tree }
  else
    let (entries, order) := evict c.capacity c.entries c.order
    { c with entries := entries.insert key tree, order := order ++ [key] }

/-- A new tree of a text, with the next number. -/
def grow (c : TreeCache) (key : String) : Except Fault Tree × TreeCache :=
  match Formulary.parse key with
  | .error fault => (.error fault, c)
  | .ok nodes => (.ok ⟨c.next, nodes⟩, { c with next := c.next + 1 })

/-- The tree of a formula: the remembered one, or a new one. A formula that cannot be read
leaves everything as it is, and with no capacity nothing is remembered. -/
def parse (c : TreeCache) (text : String) : Except Fault Tree × TreeCache :=
  let key := Text.trim text
  if c.capacity = 0 then c.grow key
  else
    match c.entries.get? key with
    | some tree => (.ok tree, c.touch key)
    | none =>
      match c.grow key with
      | (.error fault, c) => (.error fault, c)
      | (.ok tree, c) => (.ok tree, c.remember key tree)

end TreeCache

end Formulary
