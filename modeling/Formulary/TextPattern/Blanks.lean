-- Blanks and comments in a pattern, and what is read with blanks between its characters. Every
-- reader takes what it reads off the front of the characters.
import Formulary.Digits
import Formulary.Text.Blank

namespace Formulary.TextPattern

/-! ## Passing over blanks -/

/-- Passes over blanks and comments where they do not count. A comment runs from a number sign
to the end of its line. -/
def skipSpace (extended inComment : Bool) : List Char → List Char
  | [] => []
  | c :: cs =>
    if !extended then c :: cs
    else if inComment then skipSpace extended (c != '\n') cs
    else if Text.isBlank c then skipSpace extended false cs
    else if c = '#' then skipSpace extended true cs
    else c :: cs

theorem length_skipSpace_le (extended inComment : Bool) (cs : List Char) :
    (skipSpace extended inComment cs).length ≤ cs.length := by
  induction cs generalizing inComment with
  | nil => simp [skipSpace]
  | cons c cs ih =>
    simp only [skipSpace]
    split
    · simp
    · split
      · exact Nat.le_succ_of_le (ih _)
      · split
        · exact Nat.le_succ_of_le (ih _)
        · split
          · exact Nat.le_succ_of_le (ih _)
          · simp

/-- Passes over blanks and comments. -/
def skip (extended : Bool) (cs : List Char) : List Char := skipSpace extended false cs

/-- The character that follows when blanks do not count. Of a comment only the number sign is
passed over, so that the first character of its text follows. If nothing but blanks is left, the
first of them follows. -/
def peek? (extended : Bool) (cs : List Char) : Option Char :=
  if !extended then cs.head?
  else
    match cs.dropWhile Text.isBlank with
    | [] => cs.head?
    | c :: rest =>
      if c != '#' then some c
      else
        match rest.dropWhile Text.isBlank with
        | [] => cs.head?
        | c :: _ => some c

/-! ## Reading with blanks between -/

/-- Reads all characters of a kind, with blanks passed over behind each. Those in `before` have
been read, latest first. -/
def spacedWhile (extended : Bool) (kind : Char → Bool) (before cs : List Char) :
    List Char × List Char :=
  match cs with
  | [] => (before.reverse, [])
  | c :: rest =>
    if kind c then spacedWhile extended kind (c :: before) (skip extended rest)
    else (before.reverse, c :: rest)
termination_by cs.length
decreasing_by
  have := length_skipSpace_le extended false rest
  simp only [skip, List.length_cons]
  omega

/-- Reads so many characters, with blanks passed over behind each. -/
def spacedTake? (extended : Bool) : Nat → List Char → Option (List Char × List Char)
  | 0, cs => some ([], cs)
  | _ + 1, [] => none
  | n + 1, c :: cs =>
    (spacedTake? extended n (skip extended cs)).map fun (taken, rest) => (c :: taken, rest)

/-- Reads up to a closing brace, of which the opening one has been read. -/
def bracedText? (extended : Bool) (cs : List Char) : Option (List Char × List Char) :=
  match spacedWhile extended (· != '\x7d') [] (skip extended cs) with
  | (_, []) => none
  | (text, _ :: rest) => some (text, rest)

/-- Reads a decimal number of 32 bits with blanks around it. -/
def count? (extended : Bool) (cs : List Char) : Option (Nat × List Char) :=
  let (digits, rest) := spacedWhile extended Char.isDigit [] (cs.dropWhile Text.isBlank)
  let n := digitsValue digits
  if digits = [] ∨ 4294967296 ≤ n then none else some (n, rest.dropWhile Text.isBlank)

end Formulary.TextPattern
