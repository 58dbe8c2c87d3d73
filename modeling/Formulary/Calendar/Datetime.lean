-- A moment on the calendar without a time zone: a date, a time of day, its fields, and
-- its distance from the epoch.
import Formulary.Calendar.Date

namespace Formulary

/-- A date and a time of day. A nanosecond count of a full second or more stands for a leap
second, which is shown as one second later. -/
structure Datetime where
  date : Date
  hour : Nat
  minute : Nat
  second : Nat
  nano : Nat
  hour_lt : hour < 24
  minute_lt : minute < 60
  second_lt : second < 60
  nano_lt : nano < 2000000000
  deriving DecidableEq, Repr

namespace Datetime

/-- The moment with these parts, if there is one. -/
def of? (date : Date) (hour minute second nano : Nat) : Option Datetime :=
  if h : hour < 24 ∧ minute < 60 ∧ second < 60 ∧ nano < 2000000000 then
    some ⟨date, hour, minute, second, nano, h.1, h.2.1, h.2.2.1, h.2.2.2⟩
  else none

@[simp] theorem of?_eq_some_iff {date : Date} {hour minute second nano : Nat} {d : Datetime} :
    of? date hour minute second nano = some d ↔ d.date = date ∧ d.hour = hour ∧
      d.minute = minute ∧ d.second = second ∧ d.nano = nano := by
  unfold of?
  constructor
  · intro h
    split at h
    · cases h
      exact ⟨rfl, rfl, rfl, rfl, rfl⟩
    · cases h
  · rintro ⟨rfl, rfl, rfl, rfl, rfl⟩
    rw [dif_pos ⟨d.hour_lt, d.minute_lt, d.second_lt, d.nano_lt⟩]

/-- The first second of a day. -/
def midnight (date : Date) : Datetime :=
  ⟨date, 0, 0, 0, 0, by decide, by decide, by decide, by decide⟩

/-- The moment that all distances are measured from. -/
def epoch : Datetime := midnight .epoch

/-- The nanoseconds after the second that is shown. -/
def fraction (d : Datetime) : Nat := d.nano % 1000000000

/-- The second that is shown: 60 in a leap second. -/
def shownSecond (d : Datetime) : Nat := d.second + d.nano / 1000000000

/-! ## Distances from the epoch -/

/-- The seconds from the epoch; a leap second counts as the one before it. -/
def epochSeconds (d : Datetime) : Int :=
  d.date.dayNumber * 86400 + (d.hour * 3600 + d.minute * 60 + d.second : Nat)

/-- The milliseconds from the epoch, rounded towards the past. -/
def epochMillis (d : Datetime) : Int := d.epochSeconds * 1000 + (d.nano / 1000000 : Nat)

/-- The moment so many seconds from the epoch, with the given nanoseconds. -/
def ofEpochSeconds? (seconds : Int) (nano : Nat) : Option Datetime := do
  let date ← Date.ofDayNumber? (seconds / 86400)
  let rest := (seconds % 86400).toNat
  of? date (rest / 3600) (rest / 60 % 60) (rest % 60) nano

/-- The moment so many milliseconds from the epoch. -/
def ofEpochMillis? (millis : Int) : Option Datetime :=
  ofEpochSeconds? (millis / 1000) ((millis % 1000).toNat * 1000000)

/-! ## Fields -/

/-- A part of a moment that can be read and replaced by itself. -/
inductive Field where
  | year
  | month
  | date
  | hours
  | minutes
  | seconds
  | milliseconds
  deriving DecidableEq, Repr

/-- The number in a field. In a leap second the seconds are 59. -/
def get (d : Datetime) : Field → Int
  | .year => d.date.year
  | .month => d.date.month
  | .date => d.date.day
  | .hours => d.hour
  | .minutes => d.minute
  | .seconds => d.second
  | .milliseconds => (d.nano / 1000000 % 1000 : Nat)

/-- The same time on another day. -/
def onDate (d : Datetime) (date : Date) : Datetime := { d with date }

/-- The moment with one field replaced and all others kept, if there is such a moment. A field
never runs over into the next one. -/
def set (d : Datetime) (field : Field) (n : Int) : Option Datetime :=
  match field with
  | .year => (Date.of? n d.date.month d.date.day).map d.onDate
  | .month => do (← Date.of? d.date.year (← n.toNat?) d.date.day) |> d.onDate
  | .date => do (← Date.of? d.date.year d.date.month (← n.toNat?)) |> d.onDate
  | .hours => do of? d.date (← n.toNat?) d.minute d.second d.nano
  | .minutes => do of? d.date d.hour (← n.toNat?) d.second d.nano
  | .seconds => do of? d.date d.hour d.minute (← n.toNat?) d.nano
  | .milliseconds => do
    let ms ← n.toNat?
    if ms < 1000 then of? d.date d.hour d.minute d.second (ms * 1000000) else none

end Datetime

end Formulary
