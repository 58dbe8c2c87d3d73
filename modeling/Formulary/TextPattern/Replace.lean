-- Every match of a pattern in a text replaced by a template.
import Formulary.TextPattern.Footprint
import Formulary.TextPattern.Reader
import Formulary.TextPattern.Search

namespace Formulary.TextPattern

/-! ## Templates -/

/-- A part of a template. -/
inductive TemplatePart where
  | char (c : Char)
  | group (number : Nat)
  | named (name : String)
  deriving DecidableEq, Repr

/-- The characters of a group's name that is written without braces. -/
def isGroupNameChar (c : Char) : Bool := c.isAlphanum || c == '_'

/-- The name in braces, up to the closing one, and what follows it. -/
def untilBrace? (cs : List Char) : Option (List Char × List Char) :=
  match cs.dropWhile (· != '\x7d') with
  | [] => none
  | _ :: rest => some (cs.takeWhile (· != '\x7d'), rest)

/-- The group that a name means: the one with that number, if the name is one. -/
def groupPart (name : List Char) : TemplatePart :=
  let digits : List Char := match name with
    | '+' :: ds => ds
    | ds => ds
  let n : Nat := digits.foldl (fun n c => n * 10 + (c.toNat - '0'.toNat)) 0
  if digits ≠ [] ∧ digits.all Char.isDigit ∧ n < 18446744073709551616 then .group n
  else .named (String.ofList name)

/-- Reads a template, one part in each turn. -/
def templateParts : Nat → List Char → List TemplatePart
  | 0, _ => []
  | _ + 1, [] => []
  | fuel + 1, '$' :: '$' :: rest => .char '$' :: templateParts fuel rest
  | fuel + 1, '$' :: '\x7b' :: rest =>
    match untilBrace? rest with
    | none => .char '$' :: templateParts fuel ('\x7b' :: rest)
    | some (name, after) => groupPart name :: templateParts fuel after
  | fuel + 1, '$' :: rest =>
    match rest.takeWhile isGroupNameChar with
    | [] => .char '$' :: templateParts fuel rest
    | name => groupPart name :: templateParts fuel (rest.dropWhile isGroupNameChar)
  | fuel + 1, c :: rest => .char c :: templateParts fuel rest

/-- The parts of a template. -/
def template (cs : List Char) : List TemplatePart := templateParts (cs.length + 1) cs

/-! ## Replacing -/

/-- A text with its matches replaced so far. -/
structure Replacement where
  /-- Where the next search begins. -/
  position : Nat
  /-- The end of the last match, if there was one. -/
  last : Option Nat
  /-- How much of the text has been taken over. -/
  copied : Nat
  output : String

/-- Appends a piece of the text. -/
def appendPiece (text : Array Char) (output : String) (start stop : Nat) : String :=
  (text.extract start stop).foldl String.push output

/-- The text of a group in a match, from its start to its end. -/
def appendGroup (text : Array Char) (slots : Array (Option Nat)) (output : String)
    (number : Nat) : String :=
  match slots.getD (2 * number) none, slots.getD (2 * number + 1) none with
  | some start, some stop => appendPiece text output start stop
  | _, _ => output

/-- Appends a template with the groups of a match. A group that there is none of is empty. -/
def appendTemplate (c : Compiled) (text : Array Char) (slots : Array (Option Nat))
    (output : String) (parts : List TemplatePart) : String :=
  parts.foldl (fun output part =>
    match part with
    | .char ch => output.push ch
    | .group n => appendGroup text slots output n
    | .named name =>
      match c.names.lookup name with
      | none => output
      | some n => appendGroup text slots output n) output

/-- Replaces one match after the other. An empty match right after another match does not
count, and the search goes on at the next character. -/
def replaceFrom (c : Compiled) (start : Nat) (p : Program) (parts : List TemplatePart)
    (text : Array Char) : Nat → Marks → List Char → Replacement → String
  | 0, _, _, r => r.output
  | fuel + 1, marks, rest, r =>
    let before := if r.position = 0 then none else text[r.position - 1]?
    let (slots, marks) := search start p c.captures marks before r.position rest
    let found := slots.bind fun slots =>
      match slots.getD 0 none, slots.getD 1 none with
      | some first, some stop => some (slots, first, stop)
      | _, _ => none
    match found with
    | none => appendPiece text r.output r.copied text.size
    | some (slots, first, stop) =>
      if first = stop ∧ r.last = some stop then
        match rest with
        | [] => appendPiece text r.output r.copied text.size
        | _ :: rest =>
          replaceFrom c start p parts text fuel marks rest { r with position := r.position + 1 }
      else
        let output := appendPiece text r.output r.copied first
        replaceFrom c start p parts text fuel marks (rest.drop (stop - r.position))
          ⟨stop, some stop, stop, appendTemplate c text slots output parts⟩

/-- The text with every match of a pattern replaced. -/
def replaceAll (c : Compiled) (text replacement : String) : String :=
  let cs := text.toList
  let (start, p) := program c.pattern
  replaceFrom c start p (template replacement.toList) cs.toArray (2 * cs.length + 3) (.clean p) cs
    ⟨0, none, 0, ""⟩

/-- Reads a pattern that is small enough to be used. -/
def read? (text : String) : Option Compiled := (parse? text).filter (fits ·.pattern)

end Formulary.TextPattern
