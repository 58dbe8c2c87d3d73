-- Moments and their milliseconds from the epoch. A moment is the number of its day and the time
-- of that day, and both are read off the number of milliseconds by division that rounds towards
-- the past, on either side of the epoch.
import Formulary.Builtin.Arithmetic
import Formulary.Builtin.Datetime
import Formulary.Proofs.DayNumbers
import Formulary.Proofs.WholeArguments

namespace Formulary

namespace Datetime

/-! ## Seconds and milliseconds -/

/-- The moment of a number of seconds is the one that is so many seconds from the epoch. -/
theorem ofEpochSeconds?_eq_some_iff {seconds : Int} {nano : Nat} {d : Datetime} :
    ofEpochSeconds? seconds nano = some d ↔ d.epochSeconds = seconds ∧ d.nano = nano := by
  unfold ofEpochSeconds?
  constructor
  · intro h
    obtain ⟨date, hdate, h⟩ := Option.bind_eq_some_iff.mp h
    have hday := Date.dayNumber_of_ofDayNumber? hdate
    unfold of? at h
    dsimp only at h
    split at h
    · cases h
      refine ⟨?_, rfl⟩
      unfold epochSeconds
      dsimp only
      omega
    · cases h
  · rintro ⟨rfl, rfl⟩
    have hhour := d.hour_lt
    have hminute := d.minute_lt
    have hsecond := d.second_lt
    have hday : d.epochSeconds / 86400 = d.date.dayNumber := by
      unfold epochSeconds
      omega
    have htime : (d.epochSeconds % 86400).toNat = d.hour * 3600 + d.minute * 60 + d.second := by
      unfold epochSeconds
      omega
    refine Option.bind_eq_some_iff.mpr ⟨d.date, ?_, ?_⟩
    · rw [hday, Date.ofDayNumber?_dayNumber]
    · dsimp only
      rw [htime, show (d.hour * 3600 + d.minute * 60 + d.second) / 3600 = d.hour by omega,
        show (d.hour * 3600 + d.minute * 60 + d.second) / 60 % 60 = d.minute by omega,
        show (d.hour * 3600 + d.minute * 60 + d.second) % 60 = d.second by omega]
      exact dif_pos ⟨hhour, hminute, hsecond, d.nano_lt⟩

/-- The moment of a number of milliseconds is the one that is so many milliseconds from the epoch,
and that has whole milliseconds and no leap second. -/
theorem ofEpochMillis?_eq_some_iff {millis : Int} {d : Datetime} :
    ofEpochMillis? millis = some d ↔
      d.epochMillis = millis ∧ d.nano % 1000000 = 0 ∧ d.nano < 1000000000 := by
  unfold ofEpochMillis? epochMillis
  rw [ofEpochSeconds?_eq_some_iff]
  omega

/-- A moment without what is below its milliseconds. -/
def wholeMillis (d : Datetime) : Datetime :=
  { d with
    nano := d.nano / 1000000 * 1000000
    nano_lt := (Nat.div_mul_le_self _ _).trans_lt d.nano_lt }

theorem epochMillis_wholeMillis (d : Datetime) : d.wholeMillis.epochMillis = d.epochMillis := by
  unfold epochMillis wholeMillis epochSeconds
  dsimp only
  omega

theorem ofEpochMillis?_epochMillis {d : Datetime} (h : d.nano < 1000000000) :
    ofEpochMillis? d.epochMillis = some d.wholeMillis := by
  refine ofEpochMillis?_eq_some_iff.mpr ⟨epochMillis_wholeMillis d, ?_, ?_⟩ <;>
    unfold wholeMillis <;> dsimp only <;> omega

/-- The milliseconds of every moment are a 64-bit integer. -/
theorem epochMillis_mem (d : Datetime) : -2 ^ 63 ≤ d.epochMillis ∧ d.epochMillis < 2 ^ 63 := by
  obtain ⟨hlow, hhigh⟩ := d.date.year_mem
  have hmonth := Date.month_mem d.date.day_mem
  have hdays := d.date.day_mem.2.trans (Date.daysInMonth_le d.date.year d.date.month)
  have hday : -100000000 ≤ d.date.dayNumber ∧ d.date.dayNumber ≤ 100000000 := by
    unfold minYear at hlow
    unfold maxYear at hhigh
    unfold Date.dayNumber Date.dayNumberOf Date.daysBefore Date.epochOffset
    dsimp only
    split <;> omega
  have hhour := d.hour_lt
  have hminute := d.minute_lt
  have hsecond := d.second_lt
  have hnano := d.nano_lt
  unfold epochMillis epochSeconds
  omega

end Datetime

namespace Builtin

/-! ## The law -/

/-- The method takes a whole number, in whatever form it is, for milliseconds. -/
theorem run_datetimeConversion {x : Decimal} {n : ℤ} (hx : x.toRat = n) :
    datetimeConversion.run [.number x] = match Datetime.ofEpochMillis? n with
      | some d => .ok (.datetime d)
      | none => .error (.invalidData "datetime") := by
  change Value.datetime <$> datetimeOfMillis [.number x] = _
  unfold datetimeOfMillis
  rw [integerArg_of_toRat rfl hx]
  by_cases hfits : -2 ^ 63 ≤ n ∧ n < 2 ^ 63
  · rw [if_pos hfits, ok_bind]
    cases Datetime.ofEpochMillis? n <;> rfl
  · have hnone : Datetime.ofEpochMillis? n = none := by
      refine Option.eq_none_iff_forall_ne_some.mpr fun d hd => hfits ?_
      rw [← (Datetime.ofEpochMillis?_eq_some_iff.mp hd).1]
      exact d.epochMillis_mem
    rw [if_neg hfits, hnone]
    rfl

/-- Moments and milliseconds are inverse. A whole number that stands for a moment is the number of
that moment, and the number of a moment that is no leap second stands for the moment without what
is below its milliseconds, be it before or after the epoch. -/
theorem datetime_millis_inverse :
    (∀ (x : Decimal) (n : ℤ) (v : Value), x.toRat = n →
      datetimeConversion.run [.number x] = .ok v → toNumber v = .ok (.ofInt n)) ∧
    ∀ d : Datetime, d.nano < 1000000000 → ∃ x, toNumber (.datetime d) = .ok x ∧
      datetimeConversion.run [.number x] = .ok (.datetime d.wholeMillis) := by
  constructor
  · intro x n v hx hrun
    rw [run_datetimeConversion hx] at hrun
    cases hd : Datetime.ofEpochMillis? n with
    | none =>
      rw [hd] at hrun
      cases hrun
    | some d =>
      rw [hd] at hrun
      cases hrun
      rw [← (Datetime.ofEpochMillis?_eq_some_iff.mp hd).1]
      rfl
  · intro d hnano
    refine ⟨.ofInt d.epochMillis, rfl, ?_⟩
    rw [run_datetimeConversion (Decimal.toRat_ofInt d.epochMillis),
      Datetime.ofEpochMillis?_epochMillis hnano]

/-- The last nanosecond before the epoch. -/
def beforeEpoch : Datetime :=
  ⟨⟨1969, 12, 31, by decide, by decide⟩, 23, 59, 59, 999999999, by decide, by decide, by decide,
    by decide⟩

/-- It is one millisecond before the epoch, which may be written with a place. -/
theorem datetime_millis_inverse_beforeEpoch :
    (Decimal.toRat ⟨-10, 1⟩ = (-1 : ℤ) ∧
      datetimeConversion.run [.number ⟨-10, 1⟩] = .ok (.datetime beforeEpoch.wholeMillis) ∧
      toNumber (.datetime beforeEpoch.wholeMillis) = .ok (.ofInt (-1))) ∧
    beforeEpoch.nano < 1000000000 ∧ ∃ x, toNumber (.datetime beforeEpoch) = .ok x ∧
      datetimeConversion.run [.number x] = .ok (.datetime beforeEpoch.wholeMillis) := by
  have hone : Decimal.toRat ⟨-10, 1⟩ = (-1 : ℤ) := by
    rw [Decimal.toRat_mk _ (show (1 : Int64).toInt = 1 from rfl)]
    norm_num
  have hrun : datetimeConversion.run [.number ⟨-10, 1⟩] =
      .ok (.datetime beforeEpoch.wholeMillis) := by decide +kernel
  exact ⟨⟨hone, hrun, datetime_millis_inverse.1 _ _ _ hone hrun⟩, by decide,
    datetime_millis_inverse.2 beforeEpoch (by decide)⟩

end Builtin

end Formulary
