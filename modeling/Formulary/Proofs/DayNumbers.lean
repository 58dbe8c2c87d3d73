-- Days and their numbers. Every number of days from the epoch is that of exactly one day of the
-- Gregorian calendar, before and after the epoch, in year zero and before it.
import Formulary.Calendar.Date
import Mathlib.Tactic.IntervalCases

namespace Formulary.Date

/-! ## Years from March to February -/

/-- The days from the first of March of year zero to the first of March of a year. -/
def marchStart (year : Int) : Int := 365 * year + year / 4 - year / 100 + year / 400

/-- The leap day is the last day of the year that began in the March before it. -/
theorem marchStart_succ (year : Int) :
    marchStart (year + 1) = marchStart year + 365 + if isLeapYear (year + 1) then 1 else 0 := by
  have h4 : (year + 1) / 4 = year / 4 + if (year + 1) % 4 = 0 then 1 else 0 := by
    split <;> omega
  have h100 : (year + 1) / 100 = year / 100 + if (year + 1) % 100 = 0 then 1 else 0 := by
    split <;> omega
  have h400 : (year + 1) / 400 = year / 400 + if (year + 1) % 400 = 0 then 1 else 0 := by
    split <;> omega
  unfold marchStart isLeapYear
  rw [h4, h100, h400]
  by_cases hfour : (year + 1) % 4 = 0 <;> by_cases hundred : (year + 1) % 100 = 0 <;>
    by_cases hcycle : (year + 1) % 400 = 0 <;> simp [hfour, hundred, hcycle] <;> omega

theorem marchStart_le {a b : Int} (h : a ≤ b) : marchStart a ≤ marchStart b := by
  unfold marchStart
  omega

/-- A day is in one year only. -/
theorem eq_of_marchStart {a b n : Int} (ha : marchStart a ≤ n) (ha' : n < marchStart (a + 1))
    (hb : marchStart b ≤ n) (hb' : n < marchStart (b + 1)) : a = b := by
  rcases Int.lt_trichotomy a b with hlt | rfl | hlt
  · have hafter := marchStart_le (Int.add_one_le_of_lt hlt)
    omega
  · rfl
  · have hafter := marchStart_le (Int.add_one_le_of_lt hlt)
    omega

/-- After four hundred years the calendar begins again. -/
theorem marchStart_cycle (year cycle : Int) :
    marchStart (year + 400 * cycle) = marchStart year + cycleDays * cycle := by
  unfold marchStart cycleDays
  omega

/-! ## The year of a day -/

/-- The year that a day of a cycle of four hundred years is in. -/
def yearOfCycle (day : Int) : Int := (day - day / 1460 + day / 36524 - day / 146096) / 365

/-- The year of day `s` of four years, that are `a` fours of years into century `k`. The last one of
four years is longer than the others, and does not count for more than one. -/
theorem exists_year_of_four {k a s : Int} (hk : 0 ≤ k ∧ k ≤ 3) (ha : 0 ≤ a ∧ a ≤ 24)
    (hs : 0 ≤ s ∧ s ≤ 1460) : ∃ b, (0 ≤ b ∧ b ≤ 3) ∧ 365 * b ≤ s ∧ (s < 365 * (b + 1) ∨ b = 3) ∧
      (36524 * k + 1461 * a + s - (36524 * k + 1461 * a + s) / 1460 + k) / 365 =
        100 * k + 4 * a + b := by
  have hleap : (36524 * k + 1461 * a + s) / 1460 = 25 * k + a + (24 * k + a + s) / 1460 := by omega
  rw [hleap]
  -- Whether the day counts as one after the leap day makes no difference for its year.
  generalize he : (24 * k + a + s) / 1460 = e
  have hbit : 0 ≤ e ∧ e ≤ 1 := by omega
  have hlate : e = 1 → 1364 ≤ s := by omega
  have hlast : s = 1460 → e = 1 := by omega
  clear hleap he
  exact ⟨(s - e) / 365, by omega, by omega, by omega, by omega⟩

theorem yearOfCycle_spec {day : Int} (h : 0 ≤ day) (h' : day < cycleDays) :
    (0 ≤ yearOfCycle day ∧ yearOfCycle day ≤ 399) ∧ marchStart (yearOfCycle day) ≤ day ∧
      day < marchStart (yearOfCycle day + 1) := by
  unfold cycleDays at h'
  -- The century, the fours of years in it, and the days after these.
  obtain ⟨k, hk⟩ : ∃ k, k = day / 36524 - day / 146096 := ⟨_, rfl⟩
  have hcentury : (0 ≤ k ∧ k ≤ 3) ∧ 36524 * k ≤ day ∧ day ≤ 36524 * k + 36524 ∧
      (k < 3 → day < 36524 * k + 36524) := by omega
  obtain ⟨a, ha⟩ : ∃ a, a = (day - 36524 * k) / 1461 := ⟨_, rfl⟩
  obtain ⟨s, hs⟩ : ∃ s, s = (day - 36524 * k) % 1461 := ⟨_, rfl⟩
  have hday : day = 36524 * k + 1461 * a + s := by omega
  have hsum : day - day / 1460 + day / 36524 - day / 146096 = day - day / 1460 + k := by omega
  have hfours : 0 ≤ a ∧ a ≤ 24 := by omega
  have hrest : 0 ≤ s ∧ s ≤ 1460 := by omega
  obtain ⟨b, hb, hlow, hhigh, hb'⟩ := exists_year_of_four hcentury.1 hfours hrest
  have hyear : yearOfCycle day = 100 * k + 4 * a + b := by
    rw [yearOfCycle, hsum, hday]
    exact hb'
  rw [hyear]
  clear hyear hb' hsum hk hs ha h h'
  have hfour : (100 * k + 4 * a + b) / 4 = 25 * k + a := by omega
  have hhundred : (100 * k + 4 * a + b) / 100 = k := by omega
  have hcycle : (100 * k + 4 * a + b) / 400 = 0 := by omega
  refine ⟨by omega, ?_, ?_⟩
  · unfold marchStart
    rw [hfour, hhundred, hcycle]
    omega
  · rcases hhigh with hnext | rfl
    · rw [marchStart_succ]
      unfold marchStart
      rw [hfour, hhundred, hcycle]
      split <;> omega
    · unfold marchStart
      omega

/-- The year, from March on, of the day so many days from the first of March of year zero. -/
def marchYearOf (shifted : Int) : Int :=
  yearOfCycle (shifted % cycleDays) + 400 * (shifted / cycleDays)

theorem marchYearOf_spec (shifted : Int) : marchStart (marchYearOf shifted) ≤ shifted ∧
    shifted < marchStart (marchYearOf shifted + 1) := by
  have hpos : (0 : Int) < cycleDays := by decide
  obtain ⟨-, hlow, hhigh⟩ := yearOfCycle_spec (Int.emod_nonneg shifted hpos.ne')
    (Int.emod_lt_of_pos shifted hpos)
  have hsplit := Int.emod_add_mul_ediv shifted cycleDays
  unfold marchYearOf
  rw [add_right_comm, marchStart_cycle, marchStart_cycle]
  omega

/-! ## Months from March to February -/

/-- The year that a month is counted in, from March on. -/
def marchYear (year : Int) (month : Nat) : Int := if month ≤ 2 then year - 1 else year

/-- How many months after March a month is. -/
def marchMonth (month : Nat) : Int := if month ≤ 2 then (month : Int) + 9 else (month : Int) - 3

theorem dayNumberOf_eq (year : Int) (month day : Nat) : dayNumberOf year month day =
    marchStart (marchYear year month) + (daysBefore (marchMonth month) + day - 1) -
      epochOffset := by
  unfold dayNumberOf marchStart marchYear marchMonth
  dsimp only
  omega

theorem daysBefore_nonneg {month : Nat} (h : 1 ≤ month) : 0 ≤ daysBefore (marchMonth month) := by
  unfold daysBefore marchMonth
  split <;> omega

theorem marchMonth_inj {month month' : Nat} (h : 1 ≤ month ∧ month ≤ 12)
    (h' : 1 ≤ month' ∧ month' ≤ 12) (hsame : marchMonth month = marchMonth month') :
    month = month' := by
  unfold marchMonth at hsame
  split at hsame <;> split at hsame <;> omega

/-- A month that has days is one of the twelve. -/
theorem month_mem {year : Int} {month day : Nat} (h : 1 ≤ day ∧ day ≤ daysInMonth year month) :
    1 ≤ month ∧ month ≤ 12 := by
  by_contra hmonth
  have hnone : daysInMonth year month = 0 := by
    unfold daysInMonth
    split <;> omega
  omega

/-- No month has more than 31 days. -/
theorem daysInMonth_le (year : Int) (month : Nat) : daysInMonth year month ≤ 31 := by
  unfold daysInMonth
  repeat' split
  all_goals decide

/-- A month lasts until the next one begins, and the last one until the year ends. -/
theorem le_daysInMonth_iff {year : Int} {month day : Nat} (h : 1 ≤ month ∧ month ≤ 12) :
    day ≤ daysInMonth year month ↔
      daysBefore (marchMonth month) + day ≤ daysBefore (marchMonth month + 1) ∧
        marchStart (marchYear year month) + (daysBefore (marchMonth month) + day) ≤
          marchStart (marchYear year month + 1) := by
  obtain ⟨hlow, hhigh⟩ := h
  rw [marchStart_succ]
  interval_cases month <;> simp [daysInMonth, marchMonth, marchYear, daysBefore] <;> split <;> omega

/-- The month, counted from March, of a day of the year. -/
def monthOf (dayOfYear : Int) : Int := (5 * dayOfYear + 2) / 153

theorem monthOf_eq_iff {dayOfYear month : Int} : monthOf dayOfYear = month ↔
    daysBefore month ≤ dayOfYear ∧ dayOfYear < daysBefore (month + 1) := by
  unfold monthOf daysBefore
  omega

/-! ## The day of a number -/

/-- The day of the year, from March on, is counted within the cycle. -/
theorem dayOfYear_eq (shifted : Int) :
    shifted % cycleDays - (365 * yearOfCycle (shifted % cycleDays) +
        yearOfCycle (shifted % cycleDays) / 4 - yearOfCycle (shifted % cycleDays) / 100) =
      shifted - marchStart (marchYearOf shifted) := by
  have hpos : (0 : Int) < cycleDays := by decide
  obtain ⟨hyear, -⟩ := yearOfCycle_spec (Int.emod_nonneg shifted hpos.ne')
    (Int.emod_lt_of_pos shifted hpos)
  have hsplit := Int.emod_add_mul_ediv shifted cycleDays
  unfold marchYearOf
  rw [marchStart_cycle]
  generalize yearOfCycle (shifted % cycleDays) = year at hyear ⊢
  unfold marchStart
  omega

/-- The year, the month and the day that is `dayOfYear` days into a year from March on. -/
def partsOf (year dayOfYear : Int) : Int × Nat × Nat :=
  let m := monthOf dayOfYear
  let month := if m < 10 then m + 3 else m - 9
  (year + if month ≤ 2 then 1 else 0, month.toNat, (dayOfYear - daysBefore m + 1).toNat)

theorem civilOf_eq (n : Int) : civilOf n = partsOf (marchYearOf (n + epochOffset))
    (n + epochOffset - marchStart (marchYearOf (n + epochOffset))) := by
  rw [← dayOfYear_eq]
  rfl

/-- The parts of a day make up the day again. -/
theorem partsOf_spec {start dayOfYear year : Int} {month day : Nat} (h : 0 ≤ dayOfYear)
    (h' : dayOfYear ≤ 365) (hparts : partsOf start dayOfYear = (year, month, day)) :
    (1 ≤ month ∧ month ≤ 12) ∧ 1 ≤ day ∧ marchYear year month = start ∧
      marchMonth month = monthOf dayOfYear ∧
      daysBefore (marchMonth month) + day - 1 = dayOfYear := by
  obtain ⟨hlow, hhigh⟩ := monthOf_eq_iff.mp (rfl : monthOf dayOfYear = _)
  have hmonth : 0 ≤ monthOf dayOfYear ∧ monthOf dayOfYear ≤ 11 := by
    unfold monthOf
    omega
  unfold partsOf at hparts
  unfold marchYear
  generalize monthOf dayOfYear = m at *
  have hback : marchMonth month = m := by
    unfold marchMonth
    by_cases hten : m < 10 <;> simp only [hten, if_true, if_false, Prod.mk.injEq] at hparts <;>
      split <;> omega
  rw [hback]
  by_cases hten : m < 10 <;> simp only [hten, if_true, if_false, Prod.mk.injEq] at hparts <;>
    split at hparts <;> split <;> omega

/-- The day of every number is a day of the calendar, and the one with that number. -/
theorem civilOf_spec {n year : Int} {month day : Nat} (h : civilOf n = (year, month, day)) :
    (1 ≤ day ∧ day ≤ daysInMonth year month) ∧ dayNumberOf year month day = n := by
  obtain ⟨hlow, hhigh⟩ := marchYearOf_spec (n + epochOffset)
  have hlength := marchStart_succ (marchYearOf (n + epochOffset))
  rw [civilOf_eq] at h
  generalize marchYearOf (n + epochOffset) = start at *
  have hlong : 0 ≤ n + epochOffset - marchStart start ∧
      n + epochOffset - marchStart start ≤ 365 := by
    split at hlength <;> omega
  obtain ⟨hmonth, hone, hyear, hsame, hsum⟩ := partsOf_spec hlong.1 hlong.2 h
  obtain ⟨-, hnext⟩ := monthOf_eq_iff.mp hsame.symm
  refine ⟨⟨hone, (le_daysInMonth_iff hmonth).mpr ⟨by omega, ?_⟩⟩, ?_⟩
  · rw [hyear]
    omega
  · rw [dayNumberOf_eq, hyear]
    omega

/-- Two days of the calendar have different numbers. -/
theorem dayNumberOf_inj {year year' : Int} {month month' day day' : Nat}
    (h : 1 ≤ day ∧ day ≤ daysInMonth year month) (h' : 1 ≤ day' ∧ day' ≤ daysInMonth year' month')
    (hsame : dayNumberOf year month day = dayNumberOf year' month' day') :
    year = year' ∧ month = month' ∧ day = day' := by
  have hmonth := month_mem h
  have hmonth' := month_mem h'
  obtain ⟨hnext, hyear⟩ := (le_daysInMonth_iff hmonth).mp h.2
  obtain ⟨hnext', hyear'⟩ := (le_daysInMonth_iff hmonth').mp h'.2
  have hpos := daysBefore_nonneg hmonth.1
  have hpos' := daysBefore_nonneg hmonth'.1
  rw [dayNumberOf_eq, dayNumberOf_eq] at hsame
  have hstart : marchYear year month = marchYear year' month' :=
    eq_of_marchStart (n := marchStart (marchYear year month) +
      (daysBefore (marchMonth month) + day - 1)) (by omega) (by omega) (by omega) (by omega)
  rw [hstart] at hsame
  have hmarch : monthOf (daysBefore (marchMonth month) + day - 1) = marchMonth month :=
    monthOf_eq_iff.mpr ⟨by omega, by omega⟩
  have hmarch' : monthOf (daysBefore (marchMonth month) + day - 1) = marchMonth month' :=
    monthOf_eq_iff.mpr ⟨by omega, by omega⟩
  have hsameMonth : month = month' := marchMonth_inj hmonth hmonth' (hmarch.symm.trans hmarch')
  subst hsameMonth
  refine ⟨?_, rfl, by omega⟩
  unfold marchYear at hstart
  split at hstart <;> omega

/-- A day of the calendar is the one that has its number. -/
theorem civilOf_dayNumberOf {year : Int} {month day : Nat}
    (h : 1 ≤ day ∧ day ≤ daysInMonth year month) :
    civilOf (dayNumberOf year month day) = (year, month, day) := by
  rcases hcivil : civilOf (dayNumberOf year month day) with ⟨year', month', day'⟩
  obtain ⟨h', hsame⟩ := civilOf_spec hcivil
  obtain ⟨rfl, rfl, rfl⟩ := dayNumberOf_inj h' h hsame
  rfl

/-! ## Dates -/

/-- The date so many days from the epoch is the one with that number. -/
theorem dayNumber_of_ofDayNumber? {n : Int} {d : Date} (h : ofDayNumber? n = some d) :
    d.dayNumber = n := by
  rcases hcivil : civilOf n with ⟨year, month, day⟩
  unfold ofDayNumber? of? at h
  rw [hcivil] at h
  dsimp only at h
  split at h
  · split at h <;> cases h
    exact (civilOf_spec hcivil).2
  · cases h

/-- Every date is the one that has its number. -/
theorem ofDayNumber?_dayNumber (d : Date) : ofDayNumber? d.dayNumber = some d := by
  unfold ofDayNumber? dayNumber
  rw [civilOf_dayNumberOf d.day_mem]
  dsimp only
  rw [of?, dif_pos d.year_mem, dif_pos d.day_mem]

end Formulary.Date
