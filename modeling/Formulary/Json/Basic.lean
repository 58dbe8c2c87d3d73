-- JSON values and their compact text.
namespace Formulary

/-- A JSON value. A number is kept as it is written, and so is what stands between the quotes
of a string: whether its escapes make a text is asked only where the text is needed. -/
inductive Json where
  | null
  | bool (b : Bool)
  | number (literal : List Char)
  | string (literal : List Char)
  | array (items : List Json)
  | object (fields : List (List Char × Json))
  deriving Repr

namespace Json

/-! ## Text of strings -/

/-- The digit of a number below 16. -/
def hexDigit (n : Nat) : Char :=
  if n < 10 then Char.ofNat ('0'.toNat + n) else Char.ofNat ('a'.toNat + (n - 10))

/-- How a character is written between quotes. -/
def escapeChar (c : Char) : List Char :=
  match c with
  | '"' => ['\\', '"']
  | '\\' => ['\\', '\\']
  | '\x08' => ['\\', 'b']
  | '\x0c' => ['\\', 'f']
  | '\n' => ['\\', 'n']
  | '\r' => ['\\', 'r']
  | '\t' => ['\\', 't']
  | c =>
    if c.toNat < 32 then ['\\', 'u', '0', '0', hexDigit (c.toNat / 16), hexDigit (c.toNat % 16)]
    else [c]

/-- How a text is written between quotes. -/
def escaped (s : String) : List Char := s.toList.flatMap escapeChar

/-- A text as a value. -/
def text (s : String) : Json := string (escaped s)

/-- A literal in its quotes. -/
def quoted (literal : List Char) : List Char := '"' :: (literal ++ ['"'])

/-! ## Text of values -/

mutual

/-- The characters of a value, without any blanks. -/
def render : Json → List Char
  | null => ['n', 'u', 'l', 'l']
  | bool true => ['t', 'r', 'u', 'e']
  | bool false => ['f', 'a', 'l', 's', 'e']
  | number literal => literal
  | string literal => quoted literal
  | array items => '[' :: (renderItems items ++ [']'])
  | object fields => '\x7b' :: (renderFields fields ++ ['\x7d'])

/-- Items with commas between them. -/
def renderItems : List Json → List Char
  | [] => []
  | item :: rest =>
    match rest with
    | [] => item.render
    | rest => item.render ++ ',' :: renderItems rest

/-- Fields with commas between them. -/
def renderFields : List (List Char × Json) → List Char
  | [] => []
  | (key, value) :: rest =>
    match rest with
    | [] => quoted key ++ ':' :: value.render
    | rest => quoted key ++ ':' :: (value.render ++ ',' :: renderFields rest)

end

/-- The text of a value. -/
def toText (j : Json) : String := String.ofList j.render

end Json

end Formulary
