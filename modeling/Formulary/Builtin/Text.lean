-- The Text plugin: pieces of texts, case, search and replacement. Places and lengths count
-- characters.
import Formulary.Builtin.Arguments
import Formulary.Plugin
import Formulary.Text.Blank
import Formulary.Text.Case
import Formulary.Text.Slice
import Formulary.TextPattern.Replace

namespace Formulary.Builtin

/-- The most bytes of UTF-8 that a repeated text can have. -/
def maxTextBytes : Nat := 10485760

/-! ## Methods on one text -/

/-- A method that makes one text of another. -/
def textMethod (name description : String) (f : String → String) : Method where
  name := name
  description := some description
  inputs := [required "text" .text]
  output := .text
  run := fun args => do pure (.text (f (← textArg args 0)))

/-- The text without blanks at its ends, and with single spaces inside. -/
def trimSpaces (text : String) : String :=
  String.ofList (Text.squeeze (Text.trimChars text.toList))

/-- The method that makes a text of a value. -/
def textConversion : Method where
  name := "text"
  description := some "Convert a value to text"
  inputs := [required "value" .value]
  output := .text
  run := fun args => do pure (.text (← argument args 0).display)

def lengthMethod : Method where
  name := "len"
  description := some "Number of characters"
  inputs := [required "text" .text]
  output := .number
  run := fun args => do pure (.number (.ofInt (← textArg args 0).length))

/-! ## Methods on two texts -/

def concatMethod : Method where
  name := "concat"
  description := some "Join two strings"
  inputs := [required "text1" .text, required "text2" .text]
  output := .text
  run := fun args => do
    let s ← textArg args 0
    let t ← textArg args 1
    pure (.text (s ++ t))

def exactMethod : Method where
  name := "exact"
  description := some "Case sensitive equality"
  inputs := [required "text1" .text, required "text2" .text]
  output := .boolean
  run := fun args => do
    let s ← textArg args 0
    let t ← textArg args 1
    pure (.boolean (s == t))

/-- The place of one text in another from a place on, or -1. -/
def findMethod : Method where
  name := "find"
  description := some "Position of a substring, case sensitive; -1 when absent"
  inputs := [required "text" .text, required "find_text" .text, optional "start_num" .number]
  output := .number
  run := fun args => do
    let text ← textArg args 0
    let needle ← textArg args 1
    let start ← if args.length ≤ 2 then pure 0 else countArg "start_num" args 2
    let place := match Text.find? text.toList needle.toList start with
      | some i => (i : Int)
      | none => -1
    pure (.number (.ofInt place))

/-- Every match of a pattern replaced by a template. -/
def replaceMethod : Method where
  name := "replace"
  description := some "Replace every match of a pattern"
  inputs := [required "text" .text, required "old_text" .text, required "new_text" .text]
  output := .text
  run := fun args => do
    let text ← textArg args 0
    match TextPattern.read? (← textArg args 1) with
    | none => .error (.invalidData "old_text")
    | some pattern => do
      let replacement ← textArg args 2
      pure (.text (TextPattern.replaceAll pattern text replacement))

/-! ## Pieces of a text -/

def midMethod : Method where
  name := "mid"
  description := some "Characters from a position"
  inputs := [required "text" .text, required "start_num" .number, required "num_chars" .number]
  output := .text
  run := fun args => do
    let text ← textArg args 0
    let start ← countArg "start_num" args 1
    let count ← countArg "num_chars" args 2
    pure (.text (String.ofList (Text.slice text.toList start count)))

def leftMethod : Method where
  name := "left"
  description := some "Leading characters"
  inputs := [required "text" .text, required "num_chars" .number]
  output := .text
  run := fun args => do
    let text ← textArg args 0
    let count ← countArg "num_chars" args 1
    pure (.text (String.ofList (Text.left text.toList count)))

def rightMethod : Method where
  name := "right"
  description := some "Trailing characters"
  inputs := [required "text" .text, required "num_chars" .number]
  output := .text
  run := fun args => do
    let text ← textArg args 0
    let count ← countArg "num_chars" args 1
    pure (.text (String.ofList (Text.right text.toList count)))

/-! ## Repetition -/

/-- A text so many times in a row, put after `out`. -/
def repeatOnto (text : String) : Nat → String → String
  | 0, out => out
  | n + 1, out => repeatOnto text n (out ++ text)

/-- A text so many times in a row, if the whole is not too long. -/
def repeatText (text : String) (count : Nat) : Except Fault String :=
  if maxTextBytes < text.utf8ByteSize * count then .error (.invalidData "count")
  else if text.isEmpty then .ok ""
  else .ok (repeatOnto text count "")

def repeatMethod : Method where
  name := "repeat"
  description := some "Repeat a string"
  inputs := [required "text" .text, required "count" .number]
  output := .text
  run := fun args => do
    let text ← textArg args 0
    let count ← countArg "count" args 1
    .text <$> repeatText text count

/-- The Text plugin. -/
def text : Plugin where
  name := "Text"
  methods :=
    [textConversion,
      concatMethod,
      findMethod,
      exactMethod,
      midMethod,
      leftMethod,
      rightMethod,
      lengthMethod,
      textMethod "lower" "Lower case" Text.lowercase,
      textMethod "upper" "Upper case" Text.uppercase,
      textMethod "proper" "Capitalize each English word" Text.capitalizeWords,
      replaceMethod,
      repeatMethod,
      textMethod "trim" "Strip outer spaces and collapse inner runs" trimSpaces]
  vars := []

end Formulary.Builtin
