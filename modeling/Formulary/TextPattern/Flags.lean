-- The flags of patterns, and what sets of characters mean under them.
import Formulary.TextPattern.CaseFolding
import Formulary.TextPattern.Syntax

namespace Formulary.TextPattern

/-- What the flags of a pattern turn on. -/
structure Flags where
  ignoreCase : Bool := false
  multiLine : Bool := false
  dotAll : Bool := false
  /-- Loops are lazy unless a question mark makes them greedy. -/
  lazyLoops : Bool := false
  /-- Classes hold characters of all scripts. -/
  unicode : Bool := true
  /-- Lines may end with a carriage return. -/
  looseLines : Bool := false
  /-- Blanks and comments in the pattern do not count. -/
  extended : Bool := false
  deriving DecidableEq, Repr

namespace Flags

/-! ## Setting flags -/

/-- Turns one flag on or off. -/
def set? (f : Flags) (c : Char) (on : Bool) : Option Flags :=
  match c with
  | 'i' => some { f with ignoreCase := on }
  | 'm' => some { f with multiLine := on }
  | 's' => some { f with dotAll := on }
  | 'U' => some { f with lazyLoops := on }
  | 'u' => some { f with unicode := on }
  | 'R' => some { f with looseLines := on }
  | 'x' => some { f with extended := on }
  | _ => none

/-- Sets the flags of a list. A dash turns off those behind it, of which there must be one; no
letter and no dash may stand twice. -/
def setAll? (f : Flags) (letters : List Char) : Option Flags :=
  let on := letters.takeWhile (· != '-')
  let off := letters.dropWhile (· != '-')
  if !letters.Nodup ∨ off = ['-'] then none
  else do
    let f ← on.foldlM (fun f c => f.set? c true) f
    (off.drop 1).foldlM (fun f c => f.set? c false) f

/-! ## Sets under flags -/

/-- A set with all that differs in case only, if case does not matter. -/
def fold (f : Flags) (s : CharSet) : CharSet :=
  if !f.ignoreCase then s else if f.unicode then closeCase s else closeAsciiCase s

/-- A set that a pattern may name: without Unicode it holds only characters of ASCII. -/
def allow? (f : Flags) (s : CharSet) : Option CharSet :=
  if f.unicode || s.isAscii then some s else none

/-- A set with case folded, or what is not in it. -/
def foldNegate? (f : Flags) (negated : Bool) (s : CharSet) : Option CharSet :=
  let folded := f.fold s
  f.allow? (if negated then folded.complement else folded)

/-- The characters that a class such as `\d` names, in all scripts or in English, or those that
it does not name. -/
def plainClass? (f : Flags) (negated : Bool) (all english : CharSet) : Option CharSet :=
  let s := if f.unicode then all else english
  f.allow? (if negated then s.complement else s)

/-- The characters that a point stands for. -/
def dot? (f : Flags) : Option CharSet :=
  if !f.unicode then none
  else if f.dotAll then some .any
  else if f.looseLines then some (CharSet.ofText "A D").complement
  else some (CharSet.single '\n').complement

/-- The pattern of one character. -/
def char (f : Flags) (c : Char) : TextPattern :=
  if f.ignoreCase then ofSet (f.fold (.single c)) else .literal [c]

/-- The place that a caret stands for. -/
def lineStart (f : Flags) : Assertion :=
  if !f.multiLine then .textStart else if f.looseLines then .looseLineStart else .lineStart

/-- The place that a dollar sign stands for. -/
def lineEnd (f : Flags) : Assertion :=
  if !f.multiLine then .textEnd else if f.looseLines then .looseLineEnd else .lineEnd

end Flags

end Formulary.TextPattern
