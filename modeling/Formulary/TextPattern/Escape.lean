-- What a backslash makes of the characters behind it.
import Formulary.TextPattern.Blanks
import Formulary.TextPattern.Flags
import Formulary.TextPattern.Property

namespace Formulary.TextPattern

/-- What an escape stands for. -/
inductive Escape where
  | char (c : Char)
  | set (s : CharSet)
  | assertion (a : Assertion)

/-! ## Characters by number -/

/-- The value of a hexadecimal digit. -/
def hexDigit? (c : Char) : Option Nat :=
  if c.isDigit then some (c.toNat - '0'.toNat)
  else if 'a' ≤ c ∧ c ≤ 'f' then some (c.toNat - 'a'.toNat + 10)
  else if 'A' ≤ c ∧ c ≤ 'F' then some (c.toNat - 'A'.toNat + 10)
  else none

/-- The character with a code point in hexadecimal digits. -/
def hexChar? (cs : List Char) : Option Char := do
  let digits ← cs.mapM hexDigit?
  let n := digits.foldl (fun n d => n * 16 + d) 0
  if digits ≠ [] ∧ n.isValidChar then some (Char.ofNat n) else none

/-- Reads a code point: so many digits, or any number of them in braces. -/
def codePoint? (extended : Bool) (digits : Nat) (cs : List Char) :
    Option (Char × List Char) :=
  match skip extended cs with
  | '\x7b' :: rest => do
    let (ds, rest) ← bracedText? extended rest
    some (← hexChar? ds, skip extended rest)
  | cs => do
    let (ds, rest) ← spacedTake? extended digits cs
    some (← hexChar? ds, rest)

/-- Reads the code point after `\x`. Without Unicode two digits mean a byte, and a byte outside
ASCII is no character. -/
def byteOrChar? (f : Flags) (cs : List Char) : Option (Char × List Char) := do
  let (c, rest) ← codePoint? f.extended 2 cs
  let braced := (skip f.extended cs).head? == some '\x7b'
  if f.unicode || braced || c.toNat < 128 then some (c, rest) else none

/-! ## Named classes and places -/

/-- Cuts a text at the first place where a mark stands. -/
def splitAt? (mark : List Char) : List Char → Option (List Char × List Char)
  | [] => none
  | c :: cs =>
    if mark.isPrefixOf (c :: cs) then some ([], (c :: cs).drop mark.length)
    else (splitAt? mark cs).map fun (before, after) => (c :: before, after)

/-- The query in the braces after `\p`. -/
def queryOf (text : List Char) : ClassQuery :=
  match splitAt? ['!', '='] text <|> splitAt? [':'] text <|> splitAt? ['='] text with
  | some (property, value) => .valued property value
  | none => .named text

/-- Reads the class after `\p` or `\P`. -/
def unicodeClass? (f : Flags) (negated : Bool) (cs : List Char) :
    Option (Escape × List Char) := do
  let (query, rest) ← match skip f.extended cs with
    | [] => none
    | '\x7b' :: rest =>
      (bracedText? f.extended rest).map fun (text, rest) => (queryOf text, rest)
    | c :: rest => if c = '\\' then none else some (.named [c], skip f.extended rest)
  if !f.unicode then none
  else some (.set (← f.foldNegate? negated (← query.answer?)), rest)

/-- The classes of digits, of blanks and of the characters of words. -/
def letterClass? (f : Flags) (c : Char) : Option CharSet :=
  match c with
  | 'd' => f.plainClass? false (known Unicode.decimalNumbers) (.ofText "30-39")
  | 'D' => f.plainClass? true (known Unicode.decimalNumbers) (.ofText "30-39")
  | 's' => f.plainClass? false Edition.blanks (.ofText "9-D 20")
  | 'S' => f.plainClass? true Edition.blanks (.ofText "9-D 20")
  | 'w' => f.plainClass? false wordChars asciiWordChars
  | 'W' => f.plainClass? true wordChars asciiWordChars
  | _ => none

/-- The characters of the names of places. -/
def isPlaceNameChar (c : Char) : Bool := c.isAlpha || c == '-'

/-- The place with a name. -/
def place? (name : List Char) : Option WordPlace :=
  match String.ofList name with
  | "start" => some .start
  | "end" => some .stop
  | "start-half" => some .startHalf
  | "end-half" => some .stopHalf
  | _ => none

/-- Reads what follows `\b`: the name of a place in braces, if there is one. A brace with
something else in it belongs to a loop. -/
def boundary? (f : Flags) (cs : List Char) : Option (Escape × List Char) :=
  let plain : Escape × List Char := (.assertion (.word .boundary (!f.unicode)), cs)
  match cs with
  | '\x7b' :: rest =>
    match skip f.extended rest with
    | [] => none
    | c :: rest =>
      if !isPlaceNameChar c then some plain
      else
        match spacedWhile f.extended isPlaceNameChar [] (c :: rest) with
        | (name, '\x7d' :: rest) => do
          some (.assertion (.word (← place? name) (!f.unicode)), rest)
        | _ => none
  | _ => some plain

/-! ## Escapes -/

/-- A character that stands for itself after a backslash: any mark of ASCII but the angle
brackets. -/
def isEscapable (c : Char) : Bool :=
  c.toNat < 128 && !c.isAlphanum && c != '<' && c != '>'

/-- Reads what follows a backslash. -/
def escape? (f : Flags) : List Char → Option (Escape × List Char)
  | [] => none
  | c :: cs =>
    let char (c : Char) : Option (Escape × List Char) := some (.char c, cs)
    let place (p : WordPlace) : Option (Escape × List Char) :=
      some (.assertion (.word p (!f.unicode)), cs)
    match c with
    | 'x' => (byteOrChar? f cs).map fun (c, rest) => (.char c, rest)
    | 'u' => (codePoint? f.extended 4 cs).map fun (c, rest) => (.char c, rest)
    | 'U' => (codePoint? f.extended 8 cs).map fun (c, rest) => (.char c, rest)
    | 'p' => unicodeClass? f false cs
    | 'P' => unicodeClass? f true cs
    | 'd' | 'D' | 's' | 'S' | 'w' | 'W' => (letterClass? f c).map fun s => (.set s, cs)
    | 'a' => char '\x07'
    | 'f' => char '\x0c'
    | 't' => char '\t'
    | 'n' => char '\n'
    | 'r' => char '\r'
    | 'v' => char '\x0b'
    | 'A' => some (.assertion .textStart, cs)
    | 'z' => some (.assertion .textEnd, cs)
    | 'b' => boundary? f cs
    | 'B' => place .noBoundary
    | '<' => place .start
    | '>' => place .stop
    | c => if isEscapable c then char c else none

end Formulary.TextPattern
