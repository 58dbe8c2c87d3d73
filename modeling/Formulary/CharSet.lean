-- Sets of characters as sorted ranges of code points, how they are written in tables, and
-- the operations on them.
namespace Formulary

/-! ## Reading a table -/

/-- The value of a hexadecimal numeral with capital digits. -/
def hexValue (cs : List Char) : Nat :=
  cs.foldl (fun n c =>
    n * 16 + (if c.isDigit then c.toNat - '0'.toNat else c.toNat - 'A'.toNat + 10)) 0

/-- The words of a text, separated by blanks and line ends. -/
def tableWords (text : String) : List (List Char) :=
  let (last, words) := text.toList.foldr
    (fun c (word, words) =>
      if c = ' ' ∨ c = '\n' then ([], if word = [] then words else word :: words)
      else (c :: word, words))
    (([], []) : List Char × List (List Char))
  if last = [] then words else last :: words

/-- Cuts a word at the first of the given marks. -/
def cutAt (isMark : Char → Bool) (word : List Char) : List Char × List Char :=
  (word.takeWhile (!isMark ·), (word.dropWhile (!isMark ·)).drop 1)

/-! ## Ranges -/

/-- A range of code points, both ends included. -/
structure CharRange where
  first : Nat
  last : Nat
  deriving DecidableEq, Repr

namespace CharRange

/-- The greatest code point. -/
def greatest : Nat := 0x10FFFF

/-- The next character; the code points from D800 to DFFF are none. -/
def after (n : Nat) : Nat := if n = 0xD7FF then 0xE000 else n + 1

/-- The character before. -/
def before (n : Nat) : Nat := if n = 0xE000 then 0xD7FF else n - 1

/-- The range between two code points, in whatever order they are given. -/
def between (m n : Nat) : CharRange := ⟨min m n, max m n⟩

/-- The pieces of a range outside sorted ranges. -/
def outside (r : CharRange) : List CharRange → List CharRange
  | [] => [r]
  | s :: rest =>
    if s.last < r.first then r.outside rest
    else if r.last < s.first then [r]
    else
      let pieces := if s.last < r.last then outside ⟨after s.last, r.last⟩ rest else []
      if r.first < s.first then ⟨r.first, before s.first⟩ :: pieces else pieces

/-- Joins sorted ranges that touch. `current` is still open, and `done` holds those before it,
latest first. -/
def joinSorted (done : List CharRange) (current : CharRange) :
    List CharRange → List CharRange
  | [] => (current :: done).reverse
  | r :: rest =>
    if r.first ≤ current.last + 1 then
      joinSorted done ⟨current.first, max current.last r.last⟩ rest
    else joinSorted (current :: done) r rest

/-- The ranges that two sorted lists of ranges have in common. -/
def common : List CharRange → List CharRange → List CharRange
  | r :: rs, s :: ss =>
    let rest := if r.last < s.last then common rs (s :: ss) else common (r :: rs) ss
    if max r.first s.first ≤ min r.last s.last then
      ⟨max r.first s.first, min r.last s.last⟩ :: rest
    else rest
  | _, _ => []
termination_by rs ss => rs.length + ss.length

/-- The gaps behind each of some sorted ranges. A gap without characters stands for the two
characters around it. -/
def gaps : List CharRange → List CharRange
  | [] => []
  | [r] => if r.last < greatest then [⟨after r.last, greatest⟩] else []
  | r :: s :: rest => between (after r.last) (before s.first) :: gaps (s :: rest)

/-- Looks for a range that holds `n` from place `low` on and before place `high`. -/
def search (ranges : Array CharRange) (n low high : Nat) : Bool :=
  if _h : low < high then
    let middle := (low + high) / 2
    match ranges[middle]? with
    | none => false
    | some r =>
      if n < r.first then search ranges n low middle
      else if r.last < n then search ranges n (middle + 1) high
      else true
  else false
termination_by high - low

end CharRange

/-! ## Sets -/

/-- A set of characters: ranges that are sorted and apart from each other. -/
structure CharSet where
  ranges : Array CharRange
  deriving DecidableEq, Repr

namespace CharSet

def empty : CharSet := ⟨#[]⟩

/-- All characters. -/
def any : CharSet := ⟨#[⟨0, CharRange.greatest⟩]⟩

def range (first last : Char) : CharSet := ⟨#[⟨first.toNat, last.toNat⟩]⟩

def single (c : Char) : CharSet := range c c

/-- The set of ranges in any order. -/
def ofRanges (rs : List CharRange) : CharSet :=
  match rs.mergeSort (fun r s => r.first ≤ s.first) with
  | [] => empty
  | r :: rest => ⟨(CharRange.joinSorted [] r rest).toArray⟩

/-- The set of words such as `5F` and `41-5A`, in any order. -/
def ofText (text : String) : CharSet :=
  ofRanges ((tableWords text).map fun word =>
    match cutAt (· == '-') word with
    | (low, []) => ⟨hexValue low, hexValue low⟩
    | (low, high) => ⟨hexValue low, hexValue high⟩)

/-- The set of given characters. -/
def ofChars (cs : List Char) : CharSet := ofRanges (cs.map fun c => ⟨c.toNat, c.toNat⟩)

/-! ## Questions -/

def isEmpty (s : CharSet) : Bool := s.ranges.isEmpty

/-- The set holds a code point. -/
def holds (s : CharSet) (n : Nat) : Bool := CharRange.search s.ranges n 0 s.ranges.size

/-- The set holds a character. -/
def contains (s : CharSet) (c : Char) : Bool := s.holds c.toNat

/-- All characters of the set are in ASCII. -/
def isAscii (s : CharSet) : Bool := s.ranges.all (·.last ≤ 0x7F)

/-- The only character of a set. -/
def only? (s : CharSet) : Option Char :=
  match s.ranges.toList with
  | [r] => if r.first = r.last then some (Char.ofNat r.first) else none
  | _ => none

/-! ## Operations -/

def union (s t : CharSet) : CharSet := ofRanges (s.ranges.toList ++ t.ranges.toList)

/-- The union of all given sets. -/
def unions (sets : List CharSet) : CharSet := ofRanges (sets.flatMap (·.ranges.toList))

def inter (s t : CharSet) : CharSet :=
  ⟨(CharRange.common s.ranges.toList t.ranges.toList).toArray⟩

/-- The characters of `s` that are not in `t`. -/
def diff (s t : CharSet) : CharSet :=
  ⟨(s.ranges.toList.flatMap (·.outside t.ranges.toList)).toArray⟩

/-- The characters that are in just one of two sets. -/
def symmDiff (s t : CharSet) : CharSet := (s.union t).diff (s.inter t)

/-- The characters that are not in the set. -/
def complement (s : CharSet) : CharSet :=
  match s.ranges.toList with
  | [] => any
  | r :: rest =>
    let gaps := CharRange.gaps (r :: rest)
    ⟨(if 0 < r.first then ⟨0, CharRange.before r.first⟩ :: gaps else gaps).toArray⟩

end CharSet

end Formulary
