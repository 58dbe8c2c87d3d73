-- How JSON is read from text. Every reader takes what it reads off the front of the
-- characters.
import Formulary.Json.Basic

namespace Formulary.Json

/-- The blanks of JSON. -/
def isSpace (c : Char) : Bool := c == ' ' || c == '\n' || c == '\t' || c == '\r'

def skipSpace (cs : List Char) : List Char := cs.dropWhile isSpace

/-! ## Strings -/

/-- The value of a hexadecimal digit. -/
def hexValue? (c : Char) : Option Nat :=
  if c.isDigit then some (c.toNat - '0'.toNat)
  else if 'a' ≤ c ∧ c ≤ 'f' then some (c.toNat - 'a'.toNat + 10)
  else if 'A' ≤ c ∧ c ≤ 'F' then some (c.toNat - 'A'.toNat + 10)
  else none

/-- The marks that make an escape together with a backslash. -/
def isEscapeMark (c : Char) : Bool := ['"', '\\', '/', 'b', 'f', 'n', 'r', 't', 'u'].contains c

/-- Reads up to the closing quote, with `before` as what has been read, latest first. An escape
must have its form, and a control character must be escaped. -/
def stringBody? (before : List Char) : List Char → Option (List Char × List Char)
  | [] => none
  | '"' :: rest => some (before.reverse, rest)
  | '\\' :: 'u' :: a :: b :: c :: d :: rest =>
    if [a, b, c, d].all (hexValue? · |>.isSome) then
      stringBody? (d :: c :: b :: a :: 'u' :: '\\' :: before) rest
    else none
  | '\\' :: c :: rest =>
    if isEscapeMark c && c != 'u' then stringBody? (c :: '\\' :: before) rest else none
  | c :: rest => if c.toNat < 32 ∨ c = '\\' then none else stringBody? (c :: before) rest

/-- Reads a string after its first quote. -/
def string? (cs : List Char) : Option (List Char × List Char) := stringBody? [] cs

/-! ## Numbers -/

/-- Reads a run of digits, of which there must be one. -/
def digits? (cs : List Char) : Option (List Char × List Char) :=
  match cs.takeWhile Char.isDigit with
  | [] => none
  | ds => some (ds, cs.dropWhile Char.isDigit)

/-- Reads the fraction of a number, if there is one. -/
def fraction? (cs : List Char) : Option (List Char × List Char) :=
  match cs with
  | '.' :: rest => (digits? rest).map fun (ds, rest) => ('.' :: ds, rest)
  | cs => some ([], cs)

/-- Reads the exponent of a number, if there is one. -/
def exponent? (cs : List Char) : Option (List Char × List Char) :=
  match cs with
  | c :: rest =>
    if c = 'e' ∨ c = 'E' then
      match rest with
      | s :: rest =>
        if s = '+' ∨ s = '-' then
          (digits? rest).map fun (ds, rest) => (c :: s :: ds, rest)
        else (digits? (s :: rest)).map fun (ds, rest) => (c :: ds, rest)
      | [] => none
    else some ([], c :: rest)
  | [] => some ([], [])

/-- Reads a number. Its whole part has no zeros in front. -/
def number? (cs : List Char) : Option (List Char × List Char) := do
  let (sign, cs) := match cs with
    | '-' :: rest => (['-'], rest)
    | cs => ([], cs)
  let (whole, cs) ← digits? cs
  if whole.head? = some '0' ∧ whole.length ≠ 1 then none
  else
    let (fraction, cs) ← fraction? cs
    let (exponent, cs) ← exponent? cs
    some (sign ++ whole ++ fraction ++ exponent, cs)

/-! ## Values -/

mutual

/-- Reads a value with blanks before it. Each turn into a value takes off a character, so that
`fuel` need only be their number. -/
def value? : Nat → List Char → Option (Json × List Char)
  | 0, _ => none
  | fuel + 1, cs =>
    match skipSpace cs with
    | [] => none
    | 'n' :: 'u' :: 'l' :: 'l' :: rest => some (.null, rest)
    | 't' :: 'r' :: 'u' :: 'e' :: rest => some (.bool true, rest)
    | 'f' :: 'a' :: 'l' :: 's' :: 'e' :: rest => some (.bool false, rest)
    | '"' :: rest => (string? rest).map fun (literal, rest) => (.string literal, rest)
    | '[' :: rest =>
      match skipSpace rest with
      | ']' :: rest => some (.array [], rest)
      | rest => (items? fuel rest).map fun (items, rest) => (.array items, rest)
    | '\x7b' :: rest =>
      match skipSpace rest with
      | '\x7d' :: rest => some (.object [], rest)
      | rest => (fields? fuel rest).map fun (fields, rest) => (.object fields, rest)
    | cs => (number? cs).map fun (literal, rest) => (.number literal, rest)

/-- Reads items up to the closing bracket. -/
def items? : Nat → List Char → Option (List Json × List Char)
  | 0, _ => none
  | fuel + 1, cs => do
    let (item, rest) ← value? fuel cs
    match skipSpace rest with
    | ']' :: rest => some ([item], rest)
    | ',' :: rest => do
      let (items, rest) ← items? fuel rest
      some (item :: items, rest)
    | _ => none

/-- Reads fields up to the closing brace. -/
def fields? : Nat → List Char → Option (List (List Char × Json) × List Char)
  | 0, _ => none
  | fuel + 1, cs => do
    match skipSpace cs with
    | '"' :: rest => do
      let (key, rest) ← string? rest
      match skipSpace rest with
      | ':' :: rest => do
        let (value, rest) ← value? fuel rest
        match skipSpace rest with
        | '\x7d' :: rest => some ([(key, value)], rest)
        | ',' :: rest => do
          let (fields, rest) ← fields? fuel rest
          some ((key, value) :: fields, rest)
        | _ => none
      | _ => none
    | _ => none

end

/-- The value that characters stand for, with blanks around it. -/
def parse? (cs : List Char) : Option Json :=
  match value? (2 * cs.length + 2) cs with
  | some (j, rest) => if skipSpace rest = [] then some j else none
  | none => none

/-- The value that a text stands for. -/
def ofText? (text : String) : Option Json := parse? text.toList

end Formulary.Json
