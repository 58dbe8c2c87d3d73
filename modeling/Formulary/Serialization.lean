-- Values, sets of types and options in JSON.
import Formulary.Calendar.Reader
import Formulary.Decimal.Nearest
import Formulary.Decimal.Reader
import Formulary.Engine
import Formulary.Json.Number
import Formulary.Json.Text

namespace Formulary

/-! ## Numbers -/

namespace Decimal

/-- The decimal with the value of a JSON number. -/
def ofNumber? : Json.Number → Option Decimal
  | .integer n => some (ofInt n)
  | .double _ .infinite => none
  | .double negative (.finite m e) =>
    some (if negative then (ofBinary m e).neg else ofBinary m e)

/-- The name of the one field of an object that stands for its number. -/
def numberField : List Char := "$serde_json::private::Number".toList

/-- The most objects that may stand for a number, one in the other. -/
def maxNumberDepth : Nat := 126

/-- The number in a JSON value: text in the grammar of decimals, a literal, or an object with
the number in its one field. `depth` objects at most may be opened. -/
def ofJson? (depth : Nat) : Json → Option Decimal
  | .string literal => (Json.decode? literal).bind ofText?
  | .number literal => (Json.Number.ofLiteral? literal).bind ofNumber?
  | .object [(key, j)] =>
    match depth with
    | 0 => none
    | depth + 1 => if key = numberField then ofJson? depth j else none
  | _ => none

end Decimal

/-! ## Values -/

namespace Value

/-- A value as an object with one field, whose name is the type of the value. Numbers keep
their trailing zeros. -/
def toJson : Value → Json
  | text s => .object [(Json.escaped "Text", .text s)]
  | number n => .object [(Json.escaped "Number", .text n.toText)]
  | boolean b => .object [(Json.escaped "Boolean", .bool b)]
  | datetime d => .object [(Json.escaped "Datetime", .text (String.ofList (Calendar.iso d)))]

/-- The value with the type of a name and the content of a JSON value, in which `depth` objects at
most may stand for a number. -/
def ofField? (depth : Nat) (name : String) (content : Json) : Option Value :=
  match name, content with
  | "Text", .string literal => (Json.decode? literal).map text
  | "Number", j => (Decimal.ofJson? depth j).map number
  | "Boolean", .bool b => some (boolean b)
  | "Datetime", .string literal =>
    ((Json.decode? literal).bind Calendar.parseIso?).map datetime
  | _, _ => none

/-- The value of an object with one field. -/
def ofJsonWithin? (depth : Nat) : Json → Option Value
  | .object [(key, content)] => (Json.decode? key).bind (ofField? depth · content)
  | _ => none

/-- The value of a JSON value that stands by itself. -/
def ofJson? : Json → Option Value := ofJsonWithin? Decimal.maxNumberDepth

/-- The values of a list, which counts as one of the objects around a number. -/
def listOfJson? : Json → Option (List Value)
  | .array items => items.mapM (ofJsonWithin? (Decimal.maxNumberDepth - 1))
  | _ => none

/-- The JSON text of a value. -/
def serialize (v : Value) : String := v.toJson.toText

/-- The value of a JSON text. -/
def deserialize? (text : String) : Option Value := (Json.ofText? text).bind ofJson?

/-- The JSON text of a list of values. -/
def serializeList (vs : List Value) : String := (Json.array (vs.map toJson)).toText

/-- The list of values of a JSON text. -/
def deserializeList? (text : String) : Option (List Value) := (Json.ofText? text).bind listOfJson?

end Value

/-! ## Sets of types -/

namespace TypeMask

/-- The names of the types in a set, with bars between them; bits of no type are written
together as a hexadecimal number. -/
def flags (s : TypeMask) : String :=
  let names := named.filterMap fun (t, _, flag) => if s.contains t then some flag else Option.none
  let others := (s.bits &&& ~~~all.bits).toNat
  let rest := if others = 0 then [] else ["0x" ++ String.ofList (Nat.toDigits 16 others)]
  " | ".intercalate (names ++ rest)

/-- The set that one word means: a type, all values, or bits as a hexadecimal number. -/
def ofFlag? (word : List Char) : Option TypeMask :=
  match word with
  | '0' :: 'x' :: digits =>
    let digits : List Char := match digits with
      | '+' :: ds => ds
      | ds => ds
    if digits = [] then Option.none
    else do
      let values ← digits.mapM Json.hexValue?
      let bits := values.foldl (fun n d => n * 16 + d) 0
      if bits < 65536 then some ⟨BitVec.ofNat 16 bits⟩ else Option.none
  | word =>
    let name := String.ofList word
    if name = "VALUE" then some value
    else (named.find? fun (_, _, flag) => flag == name).map (·.1)

/-- The words between bars. -/
def splitBars (cs : List Char) : List (List Char) :=
  let (word, words) := cs.foldr
    (fun c (word, words) => if c = '|' then ([], word :: words) else (c :: word, words))
    (([], []) : List Char × List (List Char))
  word :: words

/-- The set that a text names. A text without words means no type. -/
def ofFlags? (text : String) : Option TypeMask :=
  let cs := text.toList
  if Text.trimChars cs = [] then some none
  else (splitBars cs).foldlM (fun s word => (ofFlag? (Text.trimChars word)).map s.union) none

def toJson (s : TypeMask) : Json := .text s.flags

def ofJson? : Json → Option TypeMask
  | .string literal => (Json.decode? literal).bind ofFlags?
  | _ => Option.none

end TypeMask

/-! ## Options -/

namespace EngineOptions

/-- The capacity in a JSON value: a 64-bit integer that is not negative. -/
def capacityOfJson? : Json → Option Nat
  | .number literal =>
    let n := digitsValue literal
    if literal.all Char.isDigit ∧ n < 18446744073709551616 then some n else none
  | _ => none

/-- The options as an object; plugins are not written. -/
def toJson (o : EngineOptions) : Json :=
  .object [(Json.escaped "cache_capacity", .number (Nat.toDigits 10 o.capacity))]

/-- The options of the fields of an object. Fields of other names do not count, whatever their
values. -/
def ofFields? (fields : List (String × Json)) : Option EngineOptions :=
  match fields.filter (·.1 == "cache_capacity") with
  | [] => some {}
  | [(_, j)] => (capacityOfJson? j).map fun capacity => { capacity }
  | _ => none

/-- The options of an object, or of a list with at most the capacity. -/
def ofJson? : Json → Option EngineOptions
  | .object fields =>
    (fields.mapM fun field => (Json.decode? field.1).map fun key => (key, field.2)).bind ofFields?
  | .array [] => some {}
  | .array [j] => (capacityOfJson? j).map fun capacity => { capacity }
  | _ => none

end EngineOptions

end Formulary
