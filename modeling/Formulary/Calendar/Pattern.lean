-- Patterns for dates as text: which directives there are, and what each one writes.
import Formulary.Calendar.Datetime
import Formulary.Powers

namespace Formulary.Calendar

/-! ## Items of a pattern -/

/-- What a number is filled up with to its width. -/
inductive Padding where
  | none
  | space
  | zero
  deriving DecidableEq, Repr

/-- The numbers that a pattern can ask for. -/
inductive NumberField where
  | year
  | century
  | yearOfCentury
  | isoYear
  | isoYearOfCentury
  | quarter
  | month
  | day
  | ordinal
  | sundayWeek
  | mondayWeek
  | isoWeek
  | weekday
  | isoWeekday
  | hour
  | hour12
  | minute
  | second
  | nanosecond
  | epochSeconds
  deriving DecidableEq, Repr

/-- The names that a pattern can ask for. -/
inductive NameField where
  | month
  | shortMonth
  | weekday
  | shortWeekday
  | upperHalfDay
  | lowerHalfDay
  deriving DecidableEq, Repr

/-- One item of a pattern. -/
inductive Item where
  | char (c : Char)
  | number (field : NumberField) (padding : Padding)
  | name (field : NameField)
  /-- A point and 3, 6 or 9 digits, as many as are needed, or nothing. -/
  | shortestFraction
  /-- The given number of digits, with or without a point. -/
  | fraction (digits : Nat) (withPoint : Bool)
  deriving DecidableEq, Repr

/-! ## Reading a pattern -/

/-- The number directives, each with the padding it has by itself. -/
def numberDirective (c : Char) : Option (NumberField × Padding) :=
  match c with
  | 'Y' => some (.year, .zero)
  | 'C' => some (.century, .zero)
  | 'y' => some (.yearOfCentury, .zero)
  | 'G' => some (.isoYear, .zero)
  | 'g' => some (.isoYearOfCentury, .zero)
  | 'q' => some (.quarter, .none)
  | 'm' => some (.month, .zero)
  | 'd' => some (.day, .zero)
  | 'e' => some (.day, .space)
  | 'j' => some (.ordinal, .zero)
  | 'U' => some (.sundayWeek, .zero)
  | 'W' => some (.mondayWeek, .zero)
  | 'V' => some (.isoWeek, .zero)
  | 'w' => some (.weekday, .none)
  | 'u' => some (.isoWeekday, .none)
  | 'H' => some (.hour, .zero)
  | 'k' => some (.hour, .space)
  | 'I' => some (.hour12, .zero)
  | 'l' => some (.hour12, .space)
  | 'M' => some (.minute, .zero)
  | 'S' => some (.second, .zero)
  | 'f' => some (.nanosecond, .zero)
  | 's' => some (.epochSeconds, .none)
  | _ => none

/-- The year, the month and the day, between dashes. -/
def dateItems : List Item :=
  [.number .year .zero, .char '-', .number .month .zero, .char '-', .number .day .zero]

/-- The month, the day and the year of the century, between slashes. -/
def slashDateItems : List Item :=
  [.number .month .zero, .char '/', .number .day .zero, .char '/',
    .number .yearOfCentury .zero]

/-- The hour and the minute. -/
def minuteItems : List Item := [.number .hour .zero, .char ':', .number .minute .zero]

/-- The hour, the minute and the second. -/
def timeItems : List Item := minuteItems ++ [.char ':', .number .second .zero]

/-- The directives that take no padding. -/
def plainDirective (c : Char) : Option (List Item) :=
  match c with
  | 'B' => some [.name .month]
  | 'b' | 'h' => some [.name .shortMonth]
  | 'A' => some [.name .weekday]
  | 'a' => some [.name .shortWeekday]
  | 'p' => some [.name .upperHalfDay]
  | 'P' => some [.name .lowerHalfDay]
  | 'D' | 'x' => some slashDateItems
  | 'F' => some dateItems
  | 'v' =>
    some [.number .day .space, .char '-', .name .shortMonth, .char '-', .number .year .zero]
  | 'R' => some minuteItems
  | 'T' | 'X' => some timeItems
  | 'r' =>
    some [.number .hour12 .zero, .char ':', .number .minute .zero, .char ':',
      .number .second .zero, .char ' ', .name .upperHalfDay]
  | 'c' =>
    some ([.name .shortWeekday, .char ' ', .name .shortMonth, .char ' ', .number .day .space,
      .char ' '] ++ timeItems ++ [.char ' ', .number .year .zero])
  | 't' => some [.char '\t']
  | 'n' => some [.char '\n']
  | '%' => some [.char '%']
  | _ => none

/-- The padding that a mark before a number directive asks for. -/
def paddingMark (c : Char) : Option Padding :=
  match c with
  | '-' => some .none
  | '_' => some .space
  | '0' => some .zero
  | _ => none

/-- How many digits of the second a digit before `f` asks for. -/
def fractionDigits (c : Char) : Option Nat :=
  match c with
  | '3' => some 3
  | '6' => some 6
  | '9' => some 9
  | _ => none

/-- Reads what follows a percent sign: its items and the rest of the pattern. -/
def directive? : List Char → Option (List Item × List Char)
  | [] => none
  | '.' :: 'f' :: rest => some ([.shortestFraction], rest)
  | '.' :: d :: 'f' :: rest => (fractionDigits d).map fun n => ([.fraction n true], rest)
  | c :: rest =>
    match numberDirective c, plainDirective c with
    | some (field, padding), _ => some ([.number field padding], rest)
    | none, some items => some (items, rest)
    | none, none =>
      match rest with
      | [] => none
      | d :: rest =>
        match paddingMark c, fractionDigits c with
        | some padding, _ =>
          (numberDirective d).map fun (field, _) => ([.number field padding], rest)
        | none, some n => if d = 'f' then some ([.fraction n false], rest) else none
        | none, none => none

theorem directive?_length {cs rest : List Char} {items : List Item}
    (h : directive? cs = some (items, rest)) : rest.length < cs.length := by
  unfold directive? at h
  repeat' split at h
  all_goals simp at h
  all_goals grind

/-- The items of a pattern. A percent sign that starts no directive spoils the pattern. -/
def items? (cs : List Char) : Option (List Item) :=
  match cs with
  | [] => some []
  | '%' :: rest =>
    match _h : directive? rest with
    | none => none
    | some (items, after) => (items? after).map (items ++ ·)
  | c :: rest => (items? rest).map (.char c :: ·)
termination_by cs.length
decreasing_by
  · have := directive?_length _h; simp; omega
  · simp

/-! ## Writing a moment -/

def monthNames : List String :=
  ["January", "February", "March", "April", "May", "June", "July", "August", "September",
    "October", "November", "December"]

def weekdayNames : List String :=
  ["Sunday", "Monday", "Tuesday", "Wednesday", "Thursday", "Friday", "Saturday"]

namespace NumberField

/-- The number that a field shows. -/
def value (d : Datetime) : NumberField → Int
  | year => d.date.year
  | century => d.date.year / 100
  | yearOfCentury => d.date.year % 100
  | isoYear => d.date.isoWeek.1
  | isoYearOfCentury => d.date.isoWeek.1 % 100
  | quarter => (d.date.month + 2) / 3
  | month => d.date.month
  | day => d.date.day
  | ordinal => d.date.ordinal
  | sundayWeek => d.date.sundayWeek
  | mondayWeek => d.date.mondayWeek
  | isoWeek => d.date.isoWeek.2
  | weekday => d.date.weekday
  | isoWeekday => d.date.isoWeekday
  | hour => d.hour
  | hour12 => if d.hour % 12 = 0 then 12 else d.hour % 12
  | minute => d.minute
  | second => d.shownSecond
  | nanosecond => d.fraction
  | epochSeconds => d.epochSeconds

/-- The width that padding fills a number up to. -/
def width : NumberField → Nat
  | year | isoYear => 4
  | ordinal => 3
  | nanosecond | epochSeconds => 9
  | quarter | weekday | isoWeekday => 1
  | _ => 2

/-- Years have a sign when they have more or fewer than the four digits 0000 to 9999. -/
def alwaysSigned (n : Int) : NumberField → Bool
  | year | isoYear => decide (n < 0 ∨ 9999 < n)
  | _ => false

end NumberField

/-- Digits with a sign before them, filled up to a width. Zeros go between the sign and the
digits. -/
def padded (padding : Padding) (width : Nat) (sign digits : List Char) : List Char :=
  let room := width - (sign.length + digits.length)
  match padding with
  | .none => sign ++ digits
  | .space => List.replicate room ' ' ++ (sign ++ digits)
  | .zero => sign ++ (List.replicate room '0' ++ digits)

/-- The digits of a number with zeros before them up to the width. -/
def zeroPadded (width n : Nat) : List Char := padded .zero width [] (Nat.toDigits 10 n)

/-- What a number item writes. A sign that is always there makes the number one wider. -/
def writeNumber (d : Datetime) (field : NumberField) (padding : Padding) : List Char :=
  let n := field.value d
  let signed := field.alwaysSigned n
  let sign := if n < 0 then ['-'] else if signed then ['+'] else []
  padded padding (if signed then field.width + 1 else field.width) sign
    (Nat.toDigits 10 n.natAbs)

/-- What a name item writes. -/
def writeName (d : Datetime) : NameField → List Char
  | .month => (monthNames.getD (d.date.month - 1) "").toList
  | .shortMonth => (monthNames.getD (d.date.month - 1) "").toList.take 3
  | .weekday => (weekdayNames.getD d.date.weekday "").toList
  | .shortWeekday => (weekdayNames.getD d.date.weekday "").toList.take 3
  | .upperHalfDay => (if d.hour < 12 then "AM" else "PM").toList
  | .lowerHalfDay => (if d.hour < 12 then "am" else "pm").toList

/-- The first 3, 6 or 9 digits of the nanoseconds. -/
def writeFraction (nano digits : Nat) : List Char :=
  zeroPadded digits (nano / tenPow (9 - digits))

/-- The fraction of a second with its point, in thousandths, millionths or billionths, and
nothing for a whole second. -/
def shortestFractionText (nano : Nat) : List Char :=
  if nano = 0 then []
  else if nano % 1000000 = 0 then '.' :: writeFraction nano 3
  else if nano % 1000 = 0 then '.' :: writeFraction nano 6
  else '.' :: writeFraction nano 9

/-- What an item writes. -/
def Item.write (d : Datetime) : Item → List Char
  | char c => [c]
  | number field padding => writeNumber d field padding
  | name field => writeName d field
  | shortestFraction => shortestFractionText d.fraction
  | fraction digits withPoint =>
    if withPoint then '.' :: writeFraction d.fraction digits
    else writeFraction d.fraction digits

/-- What a list of items writes. -/
def write (d : Datetime) (items : List Item) : List Char := items.flatMap (·.write d)

/-- The text of a moment under a pattern, if the pattern is one. -/
def format? (d : Datetime) (pattern : String) : Option String :=
  (items? pattern.toList).map fun items => String.ofList (write d items)

/-! ## The fixed forms -/

/-- The pattern for dates that are shown without a pattern. -/
def defaultPattern : String := "%Y-%m-%d %H:%M:%S"

/-- The characters of a moment as it is shown. -/
def display (d : Datetime) : List Char := write d (dateItems ++ .char ' ' :: timeItems)

/-- The characters of a moment in ISO 8601, with the shortest fraction. -/
def iso (d : Datetime) : List Char :=
  write d (dateItems ++ .char 'T' :: (timeItems ++ [.shortestFraction]))

end Formulary.Calendar
