-- Pieces of texts by character positions, and where one text stands in another.
namespace Formulary.Text

/-! ## Pieces -/

/-- The characters from `start` on, at most `count` of them. -/
def slice (cs : List Char) (start count : Nat) : List Char := (cs.drop start).take count

/-- The first `count` characters. -/
def left (cs : List Char) (count : Nat) : List Char := slice cs 0 count

/-- The last `count` characters. -/
def right (cs : List Char) (count : Nat) : List Char := slice cs (cs.length - count) count

/-! ## Search -/

/-- The bytes of UTF-8. -/
def utf8Bytes (cs : List Char) : List UInt8 := cs.flatMap String.utf8EncodeChar

/-- The bytes before a place, added to `before`. The end of the text is a place too, and the last
one. -/
def offsetFrom? (before : Nat) : List Char → Nat → Option Nat
  | _, 0 => some before
  | [], _ + 1 => none
  | c :: cs, place + 1 => offsetFrom? (before + c.utf8Size) cs place

/-- Where `needle` begins first, counted on from `place`. Nothing at all begins everywhere, at the
end too. -/
def findAt? {α : Type} [BEq α] (needle : List α) (place : Nat) : List α → Option Nat
  | [] => if needle.isEmpty then some place else none
  | x :: xs => if needle.isPrefixOf (x :: xs) then some place else findAt? needle (place + 1) xs

/-- The characters of the first `bytes` bytes, added to `seen`. -/
def charsWithin (seen bytes : Nat) : List Char → Nat
  | [] => seen
  | c :: cs => if bytes < c.utf8Size then seen else charsWithin (seen + 1) (bytes - c.utf8Size) cs

/-- The place of the first occurrence at or after `start`. The bytes are searched, from the place
on, and the bytes before the hit are counted as characters. -/
def find? (cs needle : List Char) (start : Nat) : Option Nat := do
  let offset ← offsetFrom? 0 cs start
  let hit ← findAt? (utf8Bytes needle) offset ((utf8Bytes cs).drop offset)
  some (charsWithin 0 hit cs)

end Formulary.Text
