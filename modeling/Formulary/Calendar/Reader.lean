-- How a moment is read from text: with an offset from universal time in RFC 3339, or
-- in the looser forms without one.
import Formulary.Calendar.Datetime
import Formulary.Text.Blank

namespace Formulary.Calendar

/-- A reader takes what it reads off the front of the characters. -/
abbrev Reader := StateT (List Char) Option

/-! ## Parts -/

/-- Reads one given character. -/
def expect (c : Char) : Reader Unit := fun cs =>
  match cs with
  | d :: rest => if d = c then some ((), rest) else none
  | [] => none

/-- Passes over blanks, of which there need not be any. -/
def skipBlanks : Reader Unit := fun cs => some ((), Text.trimStart cs)

/-- Reads nothing, and succeeds only at the end. -/
def atEnd : Reader Unit := fun cs => if cs = [] then some ((), []) else none

/-- The value of decimal digits. -/
def digitsNumber (cs : List Char) : Nat :=
  cs.foldl (fun n c => n * 10 + (c.toNat - '0'.toNat)) 0

/-- Reads at most `most` digits, and at least `least`. -/
def digits (least most : Nat) : Reader Nat := fun cs =>
  let ds := (cs.take most).takeWhile Char.isDigit
  if ds.length < least then none else some (digitsNumber ds, cs.drop ds.length)

/-- Reads a run of digits, however long. -/
def allDigits : Reader (List Char) := fun cs =>
  match cs.takeWhile Char.isDigit with
  | [] => none
  | ds => some (ds, cs.dropWhile Char.isDigit)

/-- Reads a fraction of a second into nanoseconds, if a point begins one. Digits beyond the
ninth do not count. -/
def fraction : Reader Nat := fun cs =>
  match cs with
  | '.' :: rest => do
    let (ds, rest) ← allDigits rest
    some (digitsNumber ((ds ++ List.replicate 9 '0').take 9), rest)
  | _ => some (0, cs)

/-- A year has up to four digits, or a sign and as many as it needs. -/
def year : Reader Int := fun cs =>
  match cs with
  | '-' :: rest => do
    let (ds, rest) ← allDigits rest
    some (-(digitsNumber ds : Int), rest)
  | '+' :: rest => do
    let (ds, rest) ← allDigits rest
    some ((digitsNumber ds : Int), rest)
  | _ => do
    let (n, rest) ← digits 1 4 cs
    some ((n : Int), rest)

/-- The moment with these parts. The second 60 is kept as a full second in the nanoseconds
after 59. -/
def assemble (date : Date) (hour minute second nano : Nat) : Option Datetime :=
  if second = 60 then Datetime.of? date hour minute 59 (nano + 1000000000)
  else Datetime.of? date hour minute second nano

/-! ## RFC 3339 -/

/-- Reads an offset from universal time in seconds. -/
def offset : Reader Int := fun cs =>
  let read (sign : Int) : Reader Int := do
    let hours ← digits 2 2
    expect ':'
    let minutes ← digits 2 2
    if hours < 24 ∧ minutes < 60 then
      pure (sign * ((hours * 3600 + minutes * 60 : Nat) : Int))
    else fun _ => none
  match cs with
  | 'Z' :: rest | 'z' :: rest => some (0, rest)
  | '+' :: rest => read 1 rest
  | '-' :: rest | '−' :: rest => read (-1) rest
  | _ => none

/-- Reads the mark between date and time. -/
def dateTimeMark : Reader Unit := fun cs =>
  match cs with
  | 'T' :: rest | 't' :: rest | ' ' :: rest => some ((), rest)
  | _ => none

/-- Reads a moment in RFC 3339, and moves it to universal time. -/
def rfc3339 : Reader Datetime := do
  let year ← digits 4 4
  expect '-'
  let month ← digits 2 2
  expect '-'
  let day ← digits 2 2
  dateTimeMark
  let hour ← digits 2 2
  expect ':'
  let minute ← digits 2 2
  expect ':'
  let second ← digits 2 2
  let nano ← fraction
  let offset ← offset
  atEnd
  let date ← Date.of? year month day
  let there ← assemble date hour minute second nano
  Datetime.ofEpochSeconds? (there.epochSeconds - offset) there.nano

/-! ## Forms without an offset -/

/-- Reads year, month and day; blanks may stand before each number. -/
def looseDate : Reader Date := do
  skipBlanks
  let year ← year
  expect '-'
  skipBlanks
  let month ← digits 1 2
  expect '-'
  skipBlanks
  let day ← digits 1 2
  Date.of? year month day

/-- Reads hour, minute, second and fraction; blanks may stand before each number. -/
def looseTime (date : Date) : Reader Datetime := do
  skipBlanks
  let hour ← digits 1 2
  expect ':'
  skipBlanks
  let minute ← digits 1 2
  expect ':'
  skipBlanks
  let second ← digits 1 2
  let nano ← fraction
  assemble date hour minute second nano

/-- Reads the `T` between date and time, if there is one. -/
def optionalT : Reader Unit := fun cs =>
  match cs with
  | 'T' :: rest => some ((), rest)
  | _ => some ((), cs)

/-- Reads a date and a time, with blanks, a `T` or nothing between them. -/
def looseDatetime : Reader Datetime := do
  let date ← looseDate
  optionalT
  let moment ← looseTime date
  atEnd
  pure moment

/-- Reads a date for its first second. -/
def dateOnly : Reader Datetime := do
  let date ← looseDate
  atEnd
  pure (.midnight date)

/-- Reads the ISO 8601 form with a `T`; blanks may stand before every part and at the end. -/
def isoDatetime : Reader Datetime := do
  skipBlanks
  let year ← year
  skipBlanks
  expect '-'
  skipBlanks
  let month ← digits 1 2
  skipBlanks
  expect '-'
  skipBlanks
  let day ← digits 1 2
  skipBlanks
  expect 'T'
  skipBlanks
  let hour ← digits 1 2
  skipBlanks
  expect ':'
  skipBlanks
  let minute ← digits 1 2
  skipBlanks
  expect ':'
  skipBlanks
  let second ← digits 1 2
  let nano ← fraction
  skipBlanks
  atEnd
  let date ← Date.of? year month day
  assemble date hour minute second nano

/-! ## Texts -/

/-- The moment that a text stands for: in RFC 3339, as date and time, or as a date alone. -/
def parse? (text : String) : Option Datetime :=
  let cs := Text.trimChars text.toList
  let run (reader : Reader Datetime) : Option Datetime := (reader cs).map (·.1)
  (run rfc3339).or ((run looseDatetime).or (run dateOnly))

/-- The moment that a text stands for in ISO 8601. -/
def parseIso? (text : String) : Option Datetime := (isoDatetime text.toList).map (·.1)

end Formulary.Calendar
