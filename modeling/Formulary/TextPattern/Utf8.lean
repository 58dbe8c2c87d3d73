-- Characters as bytes: the sequences of byte ranges that cover a set of characters.
import Formulary.CharSet

namespace Formulary.TextPattern

/-- A range of bytes, both ends included. -/
structure ByteRange where
  first : Nat
  last : Nat
  deriving DecidableEq, Repr

namespace Utf8

/-! ## Encoding -/

/-- A byte behind the first one of a character. -/
def tail (n : Nat) : Nat := 0x80 + n % 64

/-- The bytes of a code point. -/
def encode (n : Nat) : List Nat :=
  if n < 0x80 then [n]
  else if n < 0x800 then [0xC0 + n / 64, tail n]
  else if n < 0x10000 then [0xE0 + n / 4096, tail (n / 64), tail n]
  else [0xF0 + n / 262144, tail (n / 4096), tail (n / 64), tail n]

/-- The bytes of a text. -/
def encodeAll (cs : List Char) : List Nat := cs.flatMap fun c => encode c.toNat

/-- How many bytes a text has. -/
def size (cs : List Char) : Nat := cs.foldl (fun sum c => sum + (encode c.toNat).length) 0

/-! ## Ranges -/

/-- The code points that are encoded with equally many bytes; those that are no characters are
left out. -/
def planes : List CharRange :=
  [⟨0, 0x7F⟩, ⟨0x80, 0x7FF⟩, ⟨0x800, 0xD7FF⟩, ⟨0xE000, 0xFFFF⟩, ⟨0x10000, 0x10FFFF⟩]

/-- Where a range is cut, so that its bytes vary independently: behind a block that it only
ends, or before one that it only begins. -/
def cutBlock? (first last block : Nat) : Option Nat :=
  if first / block = last / block then none
  else if first % block ≠ 0 then some (first / block * block + block - 1)
  else if last % block ≠ block - 1 then some (last / block * block - 1)
  else none

/-- The first cut of a range, small blocks before large ones. -/
def cut? (first last : Nat) : Option Nat :=
  cutBlock? first last 64 <|> cutBlock? first last 4096 <|> cutBlock? first last 262144

/-- The sequences of byte ranges that cover a range outside ASCII within one plane. -/
def sequences (first last : Nat) : List (List ByteRange) :=
  match cut? first last with
  | some middle =>
    if _h : first ≤ middle ∧ middle < last then
      sequences first middle ++ sequences (middle + 1) last
    else []
  | none => [(encode first).zipWith ByteRange.mk (encode last)]
termination_by last - first

/-- The sequences of byte ranges that cover a set, in order. -/
def ofSet (s : CharSet) : List (List ByteRange) :=
  s.ranges.toList.flatMap fun r =>
    planes.flatMap fun plane =>
      let first := max r.first plane.first
      let last := min r.last plane.last
      if last < first then []
      else if last < 0x80 then [[⟨first, last⟩]]
      else sequences first last

end Utf8

end Formulary.TextPattern
