-- Texts in lower case, in upper case, and with capitalised English words.
import Formulary.Unicode.Alphabetic
import Formulary.Unicode.CaseMap

namespace Formulary.Text

/-! ## Lower and upper case -/

/-- The first character that matters for case is a letter with case. -/
def startsCased (cs : List Char) : Bool :=
  match cs.dropWhile Unicode.caseIgnorable.contains with
  | [] => false
  | c :: _ => Unicode.cased.contains c

/-- The lower case of one character between the characters before it, latest first, and those
after it. A capital sigma at the end of a word becomes a final sigma. -/
def lowerCharBetween (before : List Char) (c : Char) (after : List Char) : List Char :=
  if c = 'Σ' then
    if startsCased before && !startsCased after then ['ς'] else ['σ']
  else Unicode.lowerMap.map c

/-- Appends the lower case of the characters in turn. -/
def appendLower (out : String) (before : List Char) : List Char → String
  | [] => out
  | c :: after =>
    appendLower ((lowerCharBetween before c after).foldl String.push out) (c :: before) after

def lowercase (text : String) : String := appendLower "" [] text.toList

def uppercase (text : String) : String :=
  text.toList.foldl (fun out c => (Unicode.upperMap.map c).foldl String.push out) ""

/-! ## Capitalised words -/

/-- A word of English letters with a capital first letter and small ones after it. Other words
stay as they are. -/
def capitalizeWord (word : List Char) : List Char :=
  if word.all Char.isAlpha then
    match word with
    | [] => []
    | c :: rest => c.toUpper :: rest.map Char.toLower
  else word

/-- The runs of characters between spaces; two spaces in a row have an empty run between
them. -/
def splitSpaces (cs : List Char) : List (List Char) :=
  let (word, words) := cs.foldr
    (fun c (word, words) => if c = ' ' then ([], word :: words) else (c :: word, words))
    (([], []) : List Char × List (List Char))
  word :: words

/-- Capitalises every English word between spaces. -/
def capitalizeWords (text : String) : String :=
  String.ofList ([' '].intercalate ((splitSpaces text.toList).map capitalizeWord))

/-- The text without blanks at its ends, and with single spaces inside. -/
def squeeze (cs : List Char) : List Char :=
  [' '].intercalate ((splitSpaces cs).filter (· ≠ []))

end Formulary.Text
