-- Reading and replacing the fields of a moment. A field that is replaced has its new number, and
-- all others keep theirs: a moment that would have to run over into the next field does not
-- exist. What was in the field before leaves no trace.
import Formulary.Builtin.Datetime
import Formulary.Proofs.DayNumbers
import Formulary.Proofs.WholeArguments

namespace Formulary

namespace Datetime

/-! ## Fields and what is stored -/

/-- The numbers that a field can have at all. -/
def Field.InRange : Field → Int → Prop
  | .year, n => minYear ≤ n ∧ n ≤ maxYear
  | .month, n => 1 ≤ n ∧ n ≤ 12
  | .date, n => 1 ≤ n ∧ n ≤ 31
  | .hours, n => 0 ≤ n ∧ n < 24
  | .minutes, n => 0 ≤ n ∧ n < 60
  | .seconds, n => 0 ≤ n ∧ n < 60
  | .milliseconds, n => 0 ≤ n ∧ n < 1000

/-- The second moment has the number in the field, and the numbers of the first one in all
others. -/
structure Replaces (d : Datetime) (field : Field) (n : Int) (e : Datetime) : Prop where
  get_self : e.get field = n
  get_other : ∀ other ≠ field, e.get other = d.get other

/-- What is stored for a field. Behind the milliseconds stand all nanoseconds, those of a leap
second too. -/
def stored (d : Datetime) : Field → Int
  | .milliseconds => d.nano
  | field => d.get field

/-- What is stored when a number is put in a field. -/
def Field.stored : Field → Int → Int
  | .milliseconds, n => n * 1000000
  | _, n => n

variable {d e : Datetime} {field : Field} {n : Int}

@[simp] theorem toNat?_eq_some_iff {k : Nat} : n.toNat? = some k ↔ n = k := by
  cases n <;> simp [Int.toNat?]

theorem get_inRange (d : Datetime) (field : Field) : field.InRange (d.get field) := by
  have hday := d.date.day_mem
  have hmonth := Date.month_mem hday
  have hlast := Date.daysInMonth_le d.date.year d.date.month
  have hhour := d.hour_lt
  have hminute := d.minute_lt
  have hsecond := d.second_lt
  cases field <;> simp only [get, Field.InRange]
  case year => exact d.date.year_mem
  all_goals omega

/-- A moment is what is stored for its fields. -/
theorem eq_of_stored (h : ∀ field, d.stored field = e.stored field) : d = e := by
  have hyear := h .year
  have hmonth := h .month
  have hday := h .date
  have hhour := h .hours
  have hminute := h .minutes
  have hsecond := h .seconds
  have hnano := h .milliseconds
  obtain ⟨⟨_, _, _, _, _⟩, _, _, _, _, _, _, _, _⟩ := d
  obtain ⟨⟨_, _, _, _, _⟩, _, _, _, _, _, _, _, _⟩ := e
  simp only [stored, get, Int.natCast_inj] at *
  subst_vars
  rfl

/-! ## Setting one field -/

theorem set_year_eq_some_iff : d.set .year n = some e ↔ ∃ date : Date,
    (date.year = n ∧ date.month = d.date.month ∧ date.day = d.date.day) ∧ d.onDate date = e := by
  simp [set]

theorem set_month_eq_some_iff : d.set .month n = some e ↔ ∃ k : Nat, n = k ∧ ∃ date : Date,
    (date.year = d.date.year ∧ date.month = k ∧ date.day = d.date.day) ∧ d.onDate date = e := by
  simp [set, Option.bind_eq_some_iff]

theorem set_date_eq_some_iff : d.set .date n = some e ↔ ∃ k : Nat, n = k ∧ ∃ date : Date,
    (date.year = d.date.year ∧ date.month = d.date.month ∧ date.day = k) ∧ d.onDate date = e := by
  simp [set, Option.bind_eq_some_iff]

theorem set_hours_eq_some_iff : d.set .hours n = some e ↔ n = e.hour ∧ e.date = d.date ∧
    e.minute = d.minute ∧ e.second = d.second ∧ e.nano = d.nano := by
  simp [set, Option.bind_eq_some_iff]

theorem set_minutes_eq_some_iff : d.set .minutes n = some e ↔ n = e.minute ∧ e.date = d.date ∧
    e.hour = d.hour ∧ e.second = d.second ∧ e.nano = d.nano := by
  simp [set, Option.bind_eq_some_iff]

theorem set_seconds_eq_some_iff : d.set .seconds n = some e ↔ n = e.second ∧ e.date = d.date ∧
    e.hour = d.hour ∧ e.minute = d.minute ∧ e.nano = d.nano := by
  simp [set, Option.bind_eq_some_iff]

theorem set_milliseconds_eq_some_iff : d.set .milliseconds n = some e ↔ ∃ k : Nat, n = k ∧
    k < 1000 ∧ e.date = d.date ∧ e.hour = d.hour ∧ e.minute = d.minute ∧ e.second = d.second ∧
    e.nano = k * 1000000 := by
  simp [set, Option.bind_eq_some_iff]

/-- The number is stored in its field and read there, and nothing else changes. -/
theorem stored_of_set (h : d.set field n = some e) : e.get field = n ∧
    e.stored field = field.stored n ∧ ∀ other ≠ field, e.stored other = d.stored other := by
  cases field with
  | year =>
    obtain ⟨date, ⟨rfl, hmonth, hday⟩, rfl⟩ := set_year_eq_some_iff.mp h
    refine ⟨rfl, rfl, fun other hother => ?_⟩
    cases other <;> simp_all [stored, get, onDate]
  | month =>
    obtain ⟨_, rfl, date, ⟨hyear, rfl, hday⟩, rfl⟩ := set_month_eq_some_iff.mp h
    refine ⟨rfl, rfl, fun other hother => ?_⟩
    cases other <;> simp_all [stored, get, onDate]
  | date =>
    obtain ⟨_, rfl, date, ⟨hyear, hmonth, rfl⟩, rfl⟩ := set_date_eq_some_iff.mp h
    refine ⟨rfl, rfl, fun other hother => ?_⟩
    cases other <;> simp_all [stored, get, onDate]
  | hours =>
    obtain ⟨rfl, hdate, hminute, hsecond, hnano⟩ := set_hours_eq_some_iff.mp h
    refine ⟨rfl, rfl, fun other hother => ?_⟩
    cases other <;> simp_all [stored, get]
  | minutes =>
    obtain ⟨rfl, hdate, hhour, hsecond, hnano⟩ := set_minutes_eq_some_iff.mp h
    refine ⟨rfl, rfl, fun other hother => ?_⟩
    cases other <;> simp_all [stored, get]
  | seconds =>
    obtain ⟨rfl, hdate, hhour, hminute, hnano⟩ := set_seconds_eq_some_iff.mp h
    refine ⟨rfl, rfl, fun other hother => ?_⟩
    cases other <;> simp_all [stored, get]
  | milliseconds =>
    obtain ⟨k, rfl, hlt, hdate, hhour, hminute, hsecond, hnano⟩ :=
      set_milliseconds_eq_some_iff.mp h
    refine ⟨?_, by simp [stored, Field.stored, hnano], fun other hother => ?_⟩
    · simp only [get, hnano]
      omega
    · cases other <;> simp_all [stored, get]

theorem get_of_stored (h : e.stored field = d.stored field) : e.get field = d.get field := by
  cases field with
  | milliseconds =>
    simp only [stored, Int.natCast_inj] at h
    simp only [get, h]
  | _ => exact h

theorem replaces_of_set (h : d.set field n = some e) : d.Replaces field n e := by
  obtain ⟨hself, -, hother⟩ := stored_of_set h
  exact ⟨hself, fun other hne => get_of_stored (hother other hne)⟩

/-- If there is a moment that differs in the one field, it can be set. -/
theorem exists_set_of_replaces (h : d.Replaces field n e) : ∃ e', d.set field n = some e' := by
  obtain ⟨rfl, hother⟩ := h
  have hyear : field ≠ .year → e.date.year = d.date.year := fun hne => hother .year hne.symm
  have hmonth : field ≠ .month → e.date.month = d.date.month := fun hne =>
    Int.natCast_inj.mp (hother .month hne.symm)
  have hday : field ≠ .date → e.date.day = d.date.day := fun hne =>
    Int.natCast_inj.mp (hother .date hne.symm)
  cases field with
  | year =>
    refine ⟨d.onDate e.date, set_year_eq_some_iff.mpr ⟨e.date, ⟨rfl, ?_, ?_⟩, rfl⟩⟩
    · exact hmonth (by decide)
    · exact hday (by decide)
  | month =>
    refine ⟨d.onDate e.date, set_month_eq_some_iff.mpr ⟨_, rfl, e.date, ⟨?_, rfl, ?_⟩, rfl⟩⟩
    · exact hyear (by decide)
    · exact hday (by decide)
  | date =>
    refine ⟨d.onDate e.date, set_date_eq_some_iff.mpr ⟨_, rfl, e.date, ⟨?_, ?_, rfl⟩, rfl⟩⟩
    · exact hyear (by decide)
    · exact hmonth (by decide)
  | hours =>
    exact ⟨{ d with hour := e.hour, hour_lt := e.hour_lt },
      set_hours_eq_some_iff.mpr ⟨rfl, rfl, rfl, rfl, rfl⟩⟩
  | minutes =>
    exact ⟨{ d with minute := e.minute, minute_lt := e.minute_lt },
      set_minutes_eq_some_iff.mpr ⟨rfl, rfl, rfl, rfl, rfl⟩⟩
  | seconds =>
    exact ⟨{ d with second := e.second, second_lt := e.second_lt },
      set_seconds_eq_some_iff.mpr ⟨rfl, rfl, rfl, rfl, rfl⟩⟩
  | milliseconds =>
    have hlt : e.nano / 1000000 % 1000 < 1000 := Nat.mod_lt _ (by decide)
    exact ⟨{ d with nano := e.nano / 1000000 % 1000 * 1000000, nano_lt := by omega },
      set_milliseconds_eq_some_iff.mpr ⟨_, rfl, hlt, rfl, rfl, rfl, rfl, rfl⟩⟩

/-- A field can be set unless no moment differs in the one field alone. -/
theorem set_eq_none_iff : d.set field n = none ↔ ¬ ∃ e, d.Replaces field n e := by
  constructor
  · rintro hnone ⟨e, he⟩
    obtain ⟨e', he'⟩ := exists_set_of_replaces he
    rw [hnone] at he'
    cases he'
  · intro h
    cases hset : d.set field n with
    | none => rfl
    | some e => exact absurd ⟨e, replaces_of_set hset⟩ h

/-- What becomes of a moment does not depend on what was stored for the field before. -/
theorem set_of_stored {e' : Datetime} (hsame : ∀ other ≠ field, e.stored other = d.stored other)
    (h : d.set field n = some e') : e.set field n = some e' := by
  obtain ⟨hself, hstored, hother⟩ := stored_of_set h
  have hreplaces : e.Replaces field n e' := by
    refine ⟨hself, fun other hne => get_of_stored ?_⟩
    rw [hother other hne, hsame other hne]
  obtain ⟨x, hx⟩ := exists_set_of_replaces hreplaces
  obtain ⟨-, hxstored, hxother⟩ := stored_of_set hx
  rw [hx, Option.some.injEq]
  apply eq_of_stored
  intro other
  by_cases hne : other = field
  · rw [hne, hxstored, hstored]
  · rw [hxother other hne, hsame other hne, hother other hne]

/-- A field that is set again is set once. -/
theorem set_set (h : d.set field n = some e) (m : Int) : e.set field m = d.set field m := by
  obtain ⟨-, -, hother⟩ := stored_of_set h
  apply Option.ext
  intro x
  constructor
  · exact set_of_stored fun other hne => (hother other hne).symm
  · exact set_of_stored hother

end Datetime

namespace Builtin

open Datetime

/-! ## The law -/

theorem run_getter (field : Field) (d : Datetime) :
    (getter field).run [.datetime d] = .ok (.number (.ofInt (d.get field))) := rfl

/-- The numbers of all fields are 64-bit integers. -/
theorem fits_of_inRange {field : Field} {n : Int} (h : field.InRange n) :
    -2 ^ 63 ≤ n ∧ n < 2 ^ 63 := by
  cases field <;> simp only [Field.InRange, minYear, maxYear] at h <;> omega

/-- The method sets its field to the number without its fraction. -/
theorem run_setter (field : Field) (d : Datetime) (v : Decimal) :
    (setter field).run [.datetime d, .number v] =
      match d.set field (Decimal.truncated v.toRat) with
      | some e => .ok (.datetime e)
      | none => .error (.invalidData (fieldWord field)) := by
  have hrun : (setter field).run [.datetime d, .number v] = (do
      match d.set field (← integerArg (fieldWord field) [.datetime d, .number v] 1) with
      | some e => pure (.datetime e)
      | none => .error (.invalidData (fieldWord field))) := rfl
  rw [hrun, integerArg_eq rfl]
  by_cases hfits : -2 ^ 63 ≤ Decimal.truncated v.toRat ∧ Decimal.truncated v.toRat < 2 ^ 63
  · rw [if_pos hfits, ok_bind]
    cases d.set field (Decimal.truncated v.toRat) <;> rfl
  · have hnone : d.set field (Decimal.truncated v.toRat) = none := by
      rw [set_eq_none_iff]
      rintro ⟨e, he, -⟩
      have hrange := e.get_inRange field
      rw [he] at hrange
      exact hfits (fits_of_inRange hrange)
    rw [if_neg hfits, hnone]
    rfl

/-- The law of the fields, for every moment, every field and every number, which counts without its
fraction. A field is refused, by its name, just where no moment has the number in it and keeps
all other fields. Otherwise the method gives a moment that has the number in the field and keeps
all others, and that is set again as the moment before it is. -/
theorem setter_replaces (d : Datetime) (field : Field) (v : Decimal) :
    let n := Decimal.truncated v.toRat
    let result := (setter field).run [.datetime d, .number v]
    (result = .error (.invalidData (fieldWord field)) ↔
      ¬ field.InRange n ∨ ¬ ∃ e, d.Replaces field n e) ∧
    (result = .error (.invalidData (fieldWord field)) ∨
      ∃ e, result = .ok (.datetime e) ∧
        (getter field).run [.datetime e] = .ok (.number (.ofInt n)) ∧
        (∀ other ≠ field, (getter other).run [.datetime e] = (getter other).run [.datetime d]) ∧
        ∀ w : Decimal, (setter field).run [.datetime e, .number w] =
          (setter field).run [.datetime d, .number w]) := by
  intro n result
  have hresult : result = match d.set field n with
      | some e => .ok (.datetime e)
      | none => .error (.invalidData (fieldWord field)) := run_setter field d v
  cases hset : d.set field n with
  | none =>
    rw [hset] at hresult
    exact ⟨iff_of_true hresult (.inr (set_eq_none_iff.mp hset)), .inl hresult⟩
  | some e =>
    rw [hset] at hresult
    have hreplaces := replaces_of_set hset
    have hrange : field.InRange n := by
      rw [← hreplaces.get_self]
      exact e.get_inRange field
    refine ⟨iff_of_false ?_ ?_, .inr ⟨e, hresult, ?_, ?_, ?_⟩⟩
    · rw [hresult]
      nofun
    · exact fun h => h.elim (· hrange) (· ⟨e, hreplaces⟩)
    · rw [run_getter, hreplaces.get_self]
    · intro other hother
      rw [run_getter, run_getter, hreplaces.get_other other hother]
    · intro w
      rw [run_setter, run_setter, set_set hset]

/-- Half a second into a leap second on a leap day. -/
def leapDay : Datetime :=
  { Datetime.midnight ⟨2024, 2, 29, by decide, by decide⟩ with
    nano := 1500000000, nano_lt := by decide }

/-- The leap day does not exist a year before, and exists two months later: the number 4.9 counts
as 4. -/
theorem setter_replaces_leapDay :
    ((setter .year).run [.datetime leapDay, .number (.ofInt 2023)] = .error (.invalidData "year") ∧
      ¬ ∃ e, leapDay.Replaces .year 2023 e) ∧
    ∃ e, (setter .month).run [.datetime leapDay, .number ⟨49, 1⟩] = .ok (.datetime e) ∧
      (getter .month).run [.datetime e] = .ok (.number (.ofInt 4)) ∧
      (getter .milliseconds).run [.datetime e] = .ok (.number (.ofInt 500)) := by
  have hyear : Decimal.truncated (Decimal.ofInt 2023).toRat = 2023 := by
    rw [Decimal.toRat_ofInt, Decimal.truncated_intCast]
  have hmonth : Decimal.truncated (Decimal.toRat ⟨49, 1⟩) = 4 := by
    rw [Decimal.toRat_mk _ (show (1 : Int64).toInt = 1 from rfl)]
    norm_num [Decimal.truncated, Int.floor_eq_iff]
  have hrefused : (setter .year).run [.datetime leapDay, .number (.ofInt 2023)] =
      .error (.invalidData "year") := by
    decide +kernel
  constructor
  · have hnone := (setter_replaces leapDay .year (.ofInt 2023)).1.mp hrefused
    rw [hyear] at hnone
    exact ⟨hrefused, hnone.resolve_left (not_not_intro ⟨by decide, by decide⟩)⟩
  · have haccepted : (setter .month).run [.datetime leapDay, .number ⟨49, 1⟩] ≠
        .error (.invalidData "month") := by
      decide +kernel
    have hset := (setter_replaces leapDay .month ⟨49, 1⟩).2
    rw [hmonth] at hset
    obtain ⟨e, hrun, hget, hother, -⟩ := hset.resolve_left haccepted
    exact ⟨e, hrun, hget, hother .milliseconds (by decide)⟩

end Builtin

end Formulary
