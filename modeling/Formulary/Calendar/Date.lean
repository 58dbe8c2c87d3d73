-- Dates of the Gregorian calendar, carried on before its start and with a year zero,
-- and the number of days between them.
namespace Formulary

/-! ## Years and months -/

/-- The first year that a date can have. -/
def minYear : Int := -262143

/-- The last year that a date can have. -/
def maxYear : Int := 262142

/-- Every fourth year is a leap year, every hundredth is not, every four-hundredth is. -/
def isLeapYear (year : Int) : Bool :=
  year % 4 == 0 && (year % 100 != 0 || year % 400 == 0)

/-- The days of a month; no month outside 1 to 12 has any. -/
def daysInMonth (year : Int) (month : Nat) : Nat :=
  match month with
  | 2 => if isLeapYear year then 29 else 28
  | 4 | 6 | 9 | 11 => 30
  | 1 | 3 | 5 | 7 | 8 | 10 | 12 => 31
  | _ => 0

/-! ## Dates -/

/-- A day that exists. -/
structure Date where
  year : Int
  month : Nat
  day : Nat
  year_mem : minYear ≤ year ∧ year ≤ maxYear
  day_mem : 1 ≤ day ∧ day ≤ daysInMonth year month
  deriving DecidableEq, Repr

namespace Date

/-- The date with these parts, if there is one. -/
def of? (year : Int) (month day : Nat) : Option Date :=
  if hy : minYear ≤ year ∧ year ≤ maxYear then
    if hd : 1 ≤ day ∧ day ≤ daysInMonth year month then some ⟨year, month, day, hy, hd⟩
    else none
  else none

@[simp] theorem of?_eq_some_iff {year : Int} {month day : Nat} {date : Date} :
    of? year month day = some date ↔ date.year = year ∧ date.month = month ∧ date.day = day := by
  unfold of?
  constructor
  · intro h
    split at h
    · split at h
      · cases h
        exact ⟨rfl, rfl, rfl⟩
      · cases h
    · cases h
  · rintro ⟨rfl, rfl, rfl⟩
    rw [dif_pos date.year_mem, dif_pos date.day_mem]

/-- The first day of 1970. -/
def epoch : Date := ⟨1970, 1, 1, by decide, by decide⟩

/-! ## Day numbers -/

/-- The days from the first of March of year zero to the epoch. -/
def epochOffset : Int := 719468

/-- The days of four hundred years. -/
def cycleDays : Int := 146097

/-- The days from the first of March to the first of the month, in months after March. -/
def daysBefore (month : Int) : Int := (153 * month + 2) / 5

/-- The days from the epoch to a day. Years are counted from March, so that the leap day is the
last day of a year. -/
def dayNumberOf (year : Int) (month day : Nat) : Int :=
  let y := if month ≤ 2 then year - 1 else year
  let m : Int := if month ≤ 2 then (month : Int) + 9 else (month : Int) - 3
  365 * y + y / 4 - y / 100 + y / 400 + daysBefore m + (day : Int) - 1 - epochOffset

/-- The days from the epoch. -/
def dayNumber (d : Date) : Int := dayNumberOf d.year d.month d.day

/-- The year, the month and the day so many days from the epoch. -/
def civilOf (n : Int) : Int × Nat × Nat :=
  let shifted := n + epochOffset
  let cycle := shifted / cycleDays
  let dayOfCycle := shifted % cycleDays
  let yearOfCycle :=
    (dayOfCycle - dayOfCycle / 1460 + dayOfCycle / 36524 - dayOfCycle / 146096) / 365
  let dayOfYear := dayOfCycle - (365 * yearOfCycle + yearOfCycle / 4 - yearOfCycle / 100)
  let m := (5 * dayOfYear + 2) / 153
  let day := dayOfYear - daysBefore m + 1
  let month := if m < 10 then m + 3 else m - 9
  let year := yearOfCycle + 400 * cycle + (if month ≤ 2 then 1 else 0)
  (year, month.toNat, day.toNat)

/-- The date so many days from the epoch, if its year is in range. -/
def ofDayNumber? (n : Int) : Option Date :=
  let (year, month, day) := civilOf n
  of? year month day

/-! ## Weeks -/

/-- The day of the week of a day number, with Sunday as zero. -/
def weekdayOf (n : Int) : Nat := ((n + 4) % 7).toNat

/-- The day of the week, with Sunday as zero. -/
def weekday (d : Date) : Nat := weekdayOf d.dayNumber

/-- The day of the week, from one for Monday to seven for Sunday. -/
def isoWeekday (d : Date) : Nat := if d.weekday = 0 then 7 else d.weekday

/-- The day of the year, the first of January being one. -/
def ordinal (d : Date) : Nat := (d.dayNumber - dayNumberOf d.year 1 1 + 1).toNat

/-- The weeks of the year that have begun, the days before the first Sunday being in week
zero. -/
def sundayWeek (d : Date) : Nat := (d.ordinal + 6 - d.weekday) / 7

/-- The weeks of the year that have begun, the days before the first Monday being in week
zero. -/
def mondayWeek (d : Date) : Nat := (d.ordinal + 7 - d.isoWeekday) / 7

/-- The year and the number of the week from Monday to Sunday. A week belongs to the year that
its Thursday is in. -/
def isoWeek (d : Date) : Int × Nat :=
  let thursday := d.dayNumber + 4 - d.isoWeekday
  let year := (civilOf thursday).1
  (year, ((thursday - dayNumberOf year 1 1) / 7 + 1).toNat)

end Date

end Formulary
