-- The text of a JSON string.
import Formulary.Json.Reader

namespace Formulary.Json

/-- The number that hexadecimal digits stand for. -/
def hexNumber? (ds : List Char) : Option Nat :=
  (ds.mapM hexValue?).map (·.foldl (fun n d => n * 16 + d) 0)

/-- The character that a backslash and one mark stand for. -/
def markChar? (c : Char) : Option Char :=
  match c with
  | '"' => some '"'
  | '\\' => some '\\'
  | '/' => some '/'
  | 'b' => some '\x08'
  | 'f' => some '\x0c'
  | 'n' => some '\n'
  | 'r' => some '\r'
  | 't' => some '\t'
  | _ => none

/-- The first half of a code point beyond 16 bits. -/
def isHighHalf (n : Nat) : Bool := 0xD800 ≤ n && n < 0xDC00

/-- The second half of a code point beyond 16 bits. -/
def isLowHalf (n : Nat) : Bool := 0xDC00 ≤ n && n < 0xE000

/-- The code point with two halves. -/
def joinHalves (high low : Nat) : Char :=
  Char.ofNat (0x10000 + (high - 0xD800) * 0x400 + (low - 0xDC00))

/-- The characters that a literal stands for, after those in `before`, latest first. A half that
stands alone is no character. -/
def decodeChars? (before : List Char) : List Char → Option (List Char)
  | [] => some before.reverse
  | '\\' :: 'u' :: a :: b :: c :: d :: rest =>
    match hexNumber? [a, b, c, d] with
    | none => none
    | some n =>
      if isHighHalf n then
        match rest with
        | '\\' :: 'u' :: a :: b :: c :: d :: rest =>
          match hexNumber? [a, b, c, d] with
          | none => none
          | some m => if isLowHalf m then decodeChars? (joinHalves n m :: before) rest else none
        | _ => none
      else if isLowHalf n then none
      else decodeChars? (Char.ofNat n :: before) rest
  | '\\' :: c :: rest =>
    match markChar? c with
    | none => none
    | some c => decodeChars? (c :: before) rest
  | c :: rest => decodeChars? (c :: before) rest

/-- The text that a literal stands for. -/
def decode? (literal : List Char) : Option String :=
  (decodeChars? [] literal).map String.ofList

end Formulary.Json
