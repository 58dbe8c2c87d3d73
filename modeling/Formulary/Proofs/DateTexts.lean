-- Moments that are written and read back. Every number is written with a fixed width, or with a
-- sign and as many digits as it needs, so that its reader takes in just what was written, and the
-- readers that are tried before find nothing that they could read.
import Formulary.Builtin.Datetime
import Formulary.Proofs.DayNumbers
import Formulary.Proofs.DigitRuns
import Mathlib.Data.List.Basic
import Mathlib.Data.List.TakeWhile

namespace Formulary.Datetime

/-- Whether a moment is in a leap second. -/
def InLeapSecond (d : Datetime) : Prop := 1000000000 ≤ d.nano

instance (d : Datetime) : Decidable d.InLeapSecond :=
  inferInstanceAs (Decidable (1000000000 ≤ d.nano))

/-- The moment at which the second of a moment began. -/
def wholeSeconds (d : Datetime) : Datetime :=
  { d with nano := 0, nano_lt := Nat.lt_of_le_of_lt (Nat.zero_le d.nano) d.nano_lt }

variable {d : Datetime}

theorem shownSecond_eq (h : ¬ d.InLeapSecond) : d.shownSecond = d.second := by
  unfold InLeapSecond at h
  unfold shownSecond
  omega

theorem fraction_eq (h : ¬ d.InLeapSecond) : d.fraction = d.nano := by
  unfold InLeapSecond at h
  unfold fraction
  omega

theorem not_inLeapSecond_wholeSeconds (d : Datetime) : ¬ d.wholeSeconds.InLeapSecond := by
  simp [InLeapSecond, wholeSeconds]

end Formulary.Datetime

namespace Formulary.Calendar

/-! ## Numbers with zeros before them -/

section

variable {width n : Nat}

theorem zeroPadded_eq (width n : Nat) : zeroPadded width n =
    List.replicate (width - (Nat.toDigits 10 n).length) '0' ++ Nat.toDigits 10 n := by
  simp [zeroPadded, padded]

theorem isDigit_zeroPadded (width n : Nat) : ∀ c ∈ zeroPadded width n, c.isDigit = true := by
  intro c hc
  rw [zeroPadded_eq, List.mem_append, List.mem_replicate] at hc
  rcases hc with ⟨-, rfl⟩ | hc
  · decide
  · exact isDigit_toDigits c hc

theorem digitsNumber_zeroPadded (width n : Nat) : digitsNumber (zeroPadded width n) = n := by
  rw [zeroPadded_eq]
  exact (digitsValue_zeros _ _).trans (digitsValue_toDigits n)

theorem length_zeroPadded (hwidth : 0 < width) (h : n < 10 ^ width) :
    (zeroPadded width n).length = width := by
  have hle := (Nat.length_toDigits_le_iff (by decide) hwidth).mpr h
  rw [zeroPadded_eq, List.length_append, List.length_replicate]
  omega

theorem zeroPadded_ne_nil (width n : Nat) : zeroPadded width n ≠ [] := by
  rw [zeroPadded_eq]
  simp [Nat.toDigits_ne_nil]

/-- It begins with a digit. -/
theorem exists_digit_zeroPadded (width n : Nat) (rest : List Char) :
    ∃ c more, c.isDigit = true ∧ zeroPadded width n ++ rest = c :: more := by
  obtain ⟨c, more, hcs⟩ := List.exists_cons_of_ne_nil (zeroPadded_ne_nil width n)
  refine ⟨c, more ++ rest, isDigit_zeroPadded width n c ?_, ?_⟩
  · rw [hcs]
    exact List.mem_cons_self
  · rw [hcs, List.cons_append]

end

/-! ## One reader after the other -/

section

variable {α β : Type} {m : Reader α} {f : α → Reader β} {a : α} {cs rest : List Char}

theorem bind_of_some (h : m cs = some (a, rest)) : (m >>= f) cs = f a rest := by
  change (m cs >>= fun r => f r.1 r.2) = _
  rw [h]
  rfl

theorem bind_of_none (h : m cs = none) : (m >>= f) cs = none := by
  change (m cs >>= fun r => f r.1 r.2) = _
  rw [h]
  rfl

theorem bind_expect {f : Unit → Reader β} (c : Char) (rest : List Char) :
    (expect c >>= f) (c :: rest) = f () rest :=
  bind_of_some (if_pos rfl)

theorem bind_dateTimeMark {f : Unit → Reader β} (rest : List Char) :
    (dateTimeMark >>= f) (' ' :: rest) = f () rest :=
  bind_of_some rfl

theorem bind_optionalT_blank {f : Unit → Reader β} (rest : List Char) :
    (optionalT >>= f) (' ' :: rest) = f () (' ' :: rest) :=
  bind_of_some rfl

theorem bind_atEnd {f : Unit → Reader β} : (atEnd >>= f) [] = f () [] :=
  bind_of_some rfl

/-- A number is read to its width. -/
theorem digits_zeroPadded (least : Nat) {width n : Nat} (hleast : least ≤ width) (hwidth : 0 < width)
    (h : n < 10 ^ width) (rest : List Char) :
    digits least width (zeroPadded width n ++ rest) = some (n, rest) := by
  have hlength := length_zeroPadded hwidth h
  have htake : ((zeroPadded width n ++ rest).take width).takeWhile Char.isDigit =
      zeroPadded width n := by
    rw [List.take_left' hlength, List.takeWhile_eq_self_iff.mpr (isDigit_zeroPadded width n)]
  unfold digits
  dsimp only
  rw [htake, hlength, if_neg (by omega), digitsNumber_zeroPadded, List.drop_left' hlength]

/-- Where no blank stands, none is passed over. -/
theorem bind_skipBlanks {f : Unit → Reader β} (h : ∀ c ∈ cs.head?, Text.isBlank c = false) :
    (skipBlanks >>= f) cs = f () cs := by
  apply bind_of_some
  unfold skipBlanks
  rw [Text.trimStart_eq_self_iff.mpr h]

theorem bind_skipBlanks_nil {f : Unit → Reader β} : (skipBlanks >>= f) [] = f () [] :=
  bind_skipBlanks (by simp)

theorem bind_skipBlanks_cons {f : Unit → Reader β} {c : Char} (hc : Text.isBlank c = false)
    (rest : List Char) : (skipBlanks >>= f) (c :: rest) = f () (c :: rest) := by
  apply bind_skipBlanks
  rintro d ⟨⟩
  exact hc

theorem bind_skipBlanks_digits {f : Unit → Reader β} (width n : Nat) (rest : List Char) :
    (skipBlanks >>= f) (zeroPadded width n ++ rest) = f () (zeroPadded width n ++ rest) := by
  obtain ⟨c, more, hc, hcs⟩ := exists_digit_zeroPadded width n rest
  rw [hcs, bind_skipBlanks_cons (Text.isBlank_of_isDigit hc)]

theorem allDigits_append {ds : List Char} (rest : List Char) (hne : ds ≠ []) (hds : ∀ c ∈ ds, c.isDigit = true)
    (hrest : ∀ c ∈ rest.head?, c.isDigit = false) : allDigits (ds ++ rest) = some (ds, rest) := by
  obtain ⟨htake, hdrop⟩ := takeWhile_digits hds hrest
  unfold allDigits
  rw [htake, hdrop]
  cases ds with
  | nil => exact absurd rfl hne
  | cons c ds => rfl

end

/-! ## Years -/

/-- The characters of a year. -/
def yearText (y : Int) : List Char :=
  if y < 0 then '-' :: zeroPadded 4 y.natAbs
  else if 9999 < y then '+' :: zeroPadded 4 y.natAbs
  else zeroPadded 4 y.natAbs

/-- A year begins with a sign or a digit. -/
theorem isBlank_of_mem_head?_yearText {y : Int} {rest : List Char} :
    ∀ c ∈ (yearText y ++ rest).head?, Text.isBlank c = false := by
  obtain ⟨d, more, hd, hcs⟩ := exists_digit_zeroPadded 4 y.natAbs rest
  unfold yearText
  split_ifs
  · rintro c ⟨⟩
    decide
  · rintro c ⟨⟩
    decide
  · rw [hcs]
    rintro c ⟨⟩
    exact Text.isBlank_of_isDigit hd

/-- A sign does not count for the width. -/
theorem padded_signed (c : Char) (width n : Nat) :
    padded .zero (width + 1) [c] (Nat.toDigits 10 n) = c :: zeroPadded width n := by
  have hroom : width + 1 - (1 + (Nat.toDigits 10 n).length) = width - (Nat.toDigits 10 n).length := by
    omega
  simp [zeroPadded_eq, padded, hroom]

theorem writeNumber_year (d : Datetime) : writeNumber d .year .zero = yearText d.date.year := by
  unfold writeNumber yearText
  simp only [NumberField.value, NumberField.alwaysSigned, NumberField.width]
  by_cases hneg : d.date.year < 0
  · simp [hneg, padded_signed]
  · by_cases hlarge : 9999 < d.date.year
    · simp [hneg, hlarge, padded_signed]
    · simp [hneg, hlarge, zeroPadded]

/-- Any other number, which is never negative, is written to its width. -/
theorem writeNumber_nat {d : Datetime} {field : NumberField} {n : Nat} (hvalue : field.value d = n)
    (hsigned : field.alwaysSigned n = false) :
    writeNumber d field .zero = zeroPadded field.width n := by
  have hneg : ¬ (n : Int) < 0 := by omega
  unfold writeNumber
  simp [hvalue, hsigned, hneg, zeroPadded]

theorem year_of_digit {c : Char} {cs rest : List Char} {n : Nat} (hc : c.isDigit = true)
    (h : digits 1 4 (c :: cs) = some (n, rest)) : year (c :: cs) = some ((n : Int), rest) := by
  have hminus : c ≠ '-' := ne_of_isDigit hc rfl
  have hplus : c ≠ '+' := ne_of_isDigit hc rfl
  unfold year
  split
  · rename_i heq
    exact absurd (List.cons.inj heq).1 hminus
  · rename_i heq
    exact absurd (List.cons.inj heq).1 hplus
  · rw [h]
    rfl

/-- A year is read up to the dash behind it. -/
theorem year_yearText (y : Int) (rest : List Char) :
    year (yearText y ++ '-' :: rest) = some (y, '-' :: rest) := by
  have hsigned : allDigits (zeroPadded 4 y.natAbs ++ '-' :: rest) =
      some (zeroPadded 4 y.natAbs, '-' :: rest) := by
    apply allDigits_append _ (zeroPadded_ne_nil 4 _) (isDigit_zeroPadded 4 _)
    rintro c ⟨⟩
    decide
  unfold yearText
  by_cases hneg : y < 0
  · have hvalue : -(y.natAbs : Int) = y := by omega
    rw [if_pos hneg]
    simp only [List.cons_append, year, hsigned, Option.bind_eq_bind, Option.bind_some,
      digitsNumber_zeroPadded, hvalue]
  · rw [if_neg hneg]
    by_cases hlarge : 9999 < y
    · have hvalue : (y.natAbs : Int) = y := by omega
      rw [if_pos hlarge]
      simp only [List.cons_append, year, hsigned, Option.bind_eq_bind, Option.bind_some,
        digitsNumber_zeroPadded, hvalue]
    · rw [if_neg hlarge]
      have hdigits := digits_zeroPadded 1 (by decide) (by decide)
        (by omega : y.natAbs < 10 ^ 4) ('-' :: rest)
      obtain ⟨c, more, hc, hcs⟩ := exists_digit_zeroPadded 4 y.natAbs ('-' :: rest)
      rw [hcs] at hdigits ⊢
      rw [year_of_digit hc hdigits, Int.natAbs_of_nonneg (by omega)]

/-! ## Fractions of a second -/

/-- So many digits of the nanoseconds are all of them, if zeros follow. -/
theorem fraction_writeFraction {nano places : Nat} (hplaces : 0 < places ∧ places ≤ 9)
    (hnano : nano < 10 ^ 9) (hzeros : nano % tenPow (9 - places) = 0) :
    fraction ('.' :: writeFraction nano places) = some (nano, []) := by
  have hpow : tenPow places * tenPow (9 - places) = 10 ^ 9 := by
    rw [tenPow, tenPow, Nat.pow_eq, Nat.pow_eq, ← Nat.pow_add]
    congr 1
    omega
  have hlt : nano / tenPow (9 - places) < 10 ^ places := by
    apply Nat.div_lt_of_lt_mul
    rw [Nat.mul_comm]
    exact hnano.trans_eq hpow.symm
  have hlength := length_zeroPadded hplaces.1 hlt
  have hread := allDigits_append [] (zeroPadded_ne_nil places (nano / tenPow (9 - places)))
    (isDigit_zeroPadded places (nano / tenPow (9 - places))) (by simp)
  have htake : (zeroPadded places (nano / tenPow (9 - places)) ++ List.replicate 9 '0').take 9 =
      zeroPadded places (nano / tenPow (9 - places)) ++ List.replicate (9 - places) '0' := by
    rw [List.take_append, hlength, List.take_of_length_le (by omega), List.take_replicate]
    simp
  rw [List.append_nil] at hread
  unfold fraction writeFraction
  simp only [hread, Option.bind_eq_bind, Option.bind_some, htake]
  rw [show digitsNumber = digitsValue from rfl, digitsValue_append_zeros]
  rw [show digitsValue = digitsNumber from rfl, digitsNumber_zeroPadded]
  rw [Nat.div_mul_cancel (Nat.dvd_of_mod_eq_zero hzeros)]

theorem fraction_shortest {nano : Nat} (h : nano < 10 ^ 9) :
    fraction (shortestFractionText nano) = some (nano, []) := by
  unfold shortestFractionText
  split_ifs with hwhole hmillis hmicros
  · rw [hwhole]
    rfl
  · exact fraction_writeFraction (by decide) h hmillis
  · exact fraction_writeFraction (by decide) h hmicros
  · exact fraction_writeFraction (by decide) h (Nat.mod_one nano)

/-! ## The parts of a moment -/

/-- The characters of a date, and what follows it. -/
def dateText (date : Date) (rest : List Char) : List Char :=
  yearText date.year ++
    '-' :: (zeroPadded 2 date.month ++ '-' :: (zeroPadded 2 date.day ++ rest))

/-- The characters of a time of day, and what follows it. -/
def clockText (d : Datetime) (rest : List Char) : List Char :=
  zeroPadded 2 d.hour ++
    ':' :: (zeroPadded 2 d.minute ++ ':' :: (zeroPadded 2 d.shownSecond ++ rest))

theorem write_date (d : Datetime) (items : List Item) :
    write d (dateItems ++ items) = dateText d.date (write d items) := by
  have hmonth : writeNumber d .month .zero = zeroPadded 2 d.date.month := writeNumber_nat rfl rfl
  have hday : writeNumber d .day .zero = zeroPadded 2 d.date.day := writeNumber_nat rfl rfl
  simp [write, dateItems, Item.write, dateText, writeNumber_year, hmonth, hday]

theorem write_time (d : Datetime) (items : List Item) :
    write d (timeItems ++ items) = clockText d (write d items) := by
  have hhour : writeNumber d .hour .zero = zeroPadded 2 d.hour := writeNumber_nat rfl rfl
  have hminute : writeNumber d .minute .zero = zeroPadded 2 d.minute := writeNumber_nat rfl rfl
  have hsecond : writeNumber d .second .zero = zeroPadded 2 d.shownSecond := writeNumber_nat rfl rfl
  simp [write, timeItems, minuteItems, Item.write, clockText, hhour, hminute, hsecond]

theorem display_eq (d : Datetime) : display d = dateText d.date (' ' :: clockText d []) := by
  unfold display
  rw [write_date]
  exact congrArg (fun time => dateText d.date (' ' :: time)) (write_time d [])

theorem iso_eq (d : Datetime) :
    iso d = dateText d.date ('T' :: clockText d (shortestFractionText d.fraction)) := by
  have htime := write_time d [.shortestFraction]
  have hfraction : write d [.shortestFraction] = shortestFractionText d.fraction := by
    simp [write, Item.write]
  rw [hfraction] at htime
  unfold iso
  rw [write_date]
  exact congrArg (fun time => dateText d.date ('T' :: time)) htime

/-! ## Reading a moment -/

section

variable {α : Type} {d : Datetime} {date : Date} {rest : List Char}

theorem date_fits (date : Date) : date.month < 10 ^ 2 ∧ date.day < 10 ^ 2 := by
  have hmonth := Date.month_mem date.day_mem
  have hday := date.day_mem.2.trans (Date.daysInMonth_le date.year date.month)
  omega

theorem clock_fits (d : Datetime) : d.hour < 10 ^ 2 ∧ d.minute < 10 ^ 2 ∧ d.shownSecond < 10 ^ 2 := by
  have hhour := d.hour_lt
  have hminute := d.minute_lt
  have hsecond := d.second_lt
  have hnano := d.nano_lt
  unfold Datetime.shownSecond
  omega

theorem of?_self (date : Date) : Date.of? date.year date.month date.day = some date :=
  Date.of?_eq_some_iff.mpr ⟨rfl, rfl, rfl⟩

/-- A date that exists is read up to its last digit. -/
theorem looseDate_dateText (date : Date) (rest : List Char) :
    looseDate (dateText date rest) = some (date, rest) := by
  obtain ⟨hmonth, hday⟩ := date_fits date
  unfold looseDate dateText
  rw [bind_skipBlanks isBlank_of_mem_head?_yearText, bind_of_some (year_yearText _ _), bind_expect,
    bind_skipBlanks_digits, bind_of_some (digits_zeroPadded 1 (by decide) (by decide) hmonth _),
    bind_expect, bind_skipBlanks_digits,
    bind_of_some (digits_zeroPadded 1 (by decide) (by decide) hday _)]
  rw [of?_self]
  rfl

theorem looseTime_clockText {nano : Nat} (h : fraction rest = some (nano, [])) :
    looseTime date (clockText d rest) =
      (assemble date d.hour d.minute d.shownSecond nano).map (·, []) := by
  obtain ⟨hhour, hminute, hsecond⟩ := clock_fits d
  unfold looseTime clockText
  rw [bind_skipBlanks_digits, bind_of_some (digits_zeroPadded 1 (by decide) (by decide) hhour _),
    bind_expect, bind_skipBlanks_digits,
    bind_of_some (digits_zeroPadded 1 (by decide) (by decide) hminute _), bind_expect,
    bind_skipBlanks_digits, bind_of_some (digits_zeroPadded 1 (by decide) (by decide) hsecond _),
    bind_of_some h]
  cases assemble date d.hour d.minute d.shownSecond nano <;> rfl

end

/-! ## A moment as it is shown -/

theorem display_eq_append (d : Datetime) : display d =
    write d (dateItems ++ .char ' ' :: (minuteItems ++ [.char ':'])) ++
      zeroPadded 2 d.shownSecond := by
  have hsecond : writeNumber d .second .zero = zeroPadded 2 d.shownSecond := writeNumber_nat rfl rfl
  simp [display, write, timeItems, Item.write, hsecond]

/-- Nothing is trimmed off it. -/
theorem trimChars_display (d : Datetime) : Text.trimChars (display d) = display d := by
  apply Text.trimChars_eq_self
  · rw [display_eq]
    exact isBlank_of_mem_head?_yearText
  · intro c hc
    have hmem : c ∈ zeroPadded 2 d.shownSecond := by
      rw [display_eq_append, List.getLast?_append_of_ne_nil _ (zeroPadded_ne_nil 2 _)] at hc
      exact List.mem_of_getLast? hc
    exact Text.isBlank_of_isDigit (isDigit_zeroPadded 2 _ c hmem)

/-- The default pattern writes a moment as it is shown. -/
theorem format?_defaultPattern (d : Datetime) :
    format? d defaultPattern = some (String.ofList (display d)) := by
  have hitems : items? defaultPattern.toList = some (dateItems ++ .char ' ' :: timeItems) := by
    decide +kernel
  unfold format?
  rw [hitems]
  rfl

/-- It has no offset, which the strict form asks for. -/
theorem rfc3339_display (d : Datetime) : rfc3339 (display d) = none := by
  obtain ⟨hmonth, hday⟩ := date_fits d.date
  obtain ⟨hhour, hminute, hsecond⟩ := clock_fits d
  have hsign (c : Char) (rest : List Char) (hc : c.isDigit = false) :
      digits 4 4 (c :: rest) = none := by
    simp [digits, hc]
  have hnumber {m n : Nat} (h : n < 10 ^ m) (hm : 0 < m) (rest : List Char) :=
    digits_zeroPadded m le_rfl hm h rest
  rw [display_eq]
  unfold rfc3339 dateText yearText
  split_ifs with hneg hlarge
  · exact bind_of_none (hsign '-' _ rfl)
  · exact bind_of_none (hsign '+' _ rfl)
  · have hyear : d.date.year.natAbs < 10 ^ 4 := by omega
    unfold clockText
    rw [bind_of_some (hnumber hyear (by decide) _), bind_expect,
      bind_of_some (hnumber hmonth (by decide) _), bind_expect,
      bind_of_some (hnumber hday (by decide) _)]
    rw [bind_dateTimeMark, bind_of_some (hnumber hhour (by decide) _), bind_expect,
      bind_of_some (hnumber hminute (by decide) _), bind_expect,
      bind_of_some (hnumber hsecond (by decide) _)]
    rfl

/-- The parts that are shown are those of a moment that is not in a leap second. -/
theorem assemble_shown {d : Datetime} (h : ¬ d.InLeapSecond) :
    assemble d.date d.hour d.minute d.shownSecond d.fraction = some d := by
  have hlt := d.second_lt
  unfold assemble
  rw [Datetime.shownSecond_eq h, Datetime.fraction_eq h, if_neg (by omega),
    Datetime.of?_eq_some_iff]
  exact ⟨rfl, rfl, rfl, rfl, rfl⟩

theorem looseDatetime_display {d : Datetime} (h : ¬ d.InLeapSecond) :
    looseDatetime (display d) = some (d.wholeSeconds, []) := by
  have hassemble : assemble d.date d.hour d.minute d.shownSecond 0 = some d.wholeSeconds := by
    have hwhole := assemble_shown d.not_inLeapSecond_wholeSeconds
    rwa [Datetime.shownSecond_eq d.not_inLeapSecond_wholeSeconds,
      show d.wholeSeconds.second = d.shownSecond from (Datetime.shownSecond_eq h).symm] at hwhole
  have htime : looseTime d.date (' ' :: clockText d []) = some (d.wholeSeconds, []) := by
    have hclock : looseTime d.date (clockText d []) =
        (assemble d.date d.hour d.minute d.shownSecond 0).map (·, []) := looseTime_clockText rfl
    rw [hassemble] at hclock
    exact hclock
  rw [display_eq]
  unfold looseDatetime
  rw [bind_of_some (looseDate_dateText _ _),
    bind_optionalT_blank,
    bind_of_some htime]
  rfl

/-- A moment that is shown is read back to the second. -/
theorem parse?_display {d : Datetime} (h : ¬ d.InLeapSecond) :
    parse? (String.ofList (display d)) = some d.wholeSeconds := by
  unfold parse?
  dsimp only
  rw [String.toList_ofList, trimChars_display, rfc3339_display, looseDatetime_display h]
  rfl

/-! ## A moment in ISO 8601 -/

theorem isoDatetime_iso {d : Datetime} (h : ¬ d.InLeapSecond) :
    isoDatetime (iso d) = some (d, []) := by
  obtain ⟨hmonth, hday⟩ := date_fits d.date
  obtain ⟨hhour, hminute, hsecond⟩ := clock_fits d
  have hnumber {n : Nat} (h : n < 10 ^ 2) (rest : List Char) :=
    digits_zeroPadded 1 (by decide) (by decide) h rest
  have hnano : d.fraction < 10 ^ 9 := Nat.mod_lt _ (by decide)
  have hdash : Text.isBlank '-' = false := by decide
  have hmark : Text.isBlank 'T' = false := by decide
  have hcolon : Text.isBlank ':' = false := by decide
  rw [iso_eq]
  unfold isoDatetime dateText clockText
  rw [bind_skipBlanks isBlank_of_mem_head?_yearText, bind_of_some (year_yearText _ _),
    bind_skipBlanks_cons hdash, bind_expect,
    bind_skipBlanks_digits, bind_of_some (hnumber hmonth _), bind_skipBlanks_cons hdash, bind_expect,
    bind_skipBlanks_digits, bind_of_some (hnumber hday _), bind_skipBlanks_cons hmark, bind_expect,
    bind_skipBlanks_digits, bind_of_some (hnumber hhour _), bind_skipBlanks_cons hcolon, bind_expect,
    bind_skipBlanks_digits, bind_of_some (hnumber hminute _), bind_skipBlanks_cons hcolon,
    bind_expect, bind_skipBlanks_digits, bind_of_some (hnumber hsecond _),
    bind_of_some (fraction_shortest hnano), bind_skipBlanks_nil,
    bind_atEnd]
  rw [of?_self]
  change (assemble d.date d.hour d.minute d.shownSecond d.fraction >>= fun d => some (d, [])) = _
  rw [assemble_shown h]
  rfl

/-- What is written in ISO 8601 is read back in full. -/
theorem parseIso?_iso {d : Datetime} (h : ¬ d.InLeapSecond) :
    parseIso? (String.ofList (iso d)) = some d := by
  unfold parseIso?
  rw [String.toList_ofList, isoDatetime_iso h]
  rfl

end Formulary.Calendar

namespace Formulary.Builtin

/-- A moment that is written under the default pattern, or shown, is read back to the second,
whatever its year, unless it is in a leap second. -/
theorem parseDatetime_formatDatetime {d : Datetime} (h : ¬ d.InLeapSecond) :
    (formatDatetime d Calendar.defaultPattern >>= parseDatetime) = .ok d.wholeSeconds ∧
      parseDatetime (Value.datetime d).display = .ok d.wholeSeconds := by
  have hread : parseDatetime (String.ofList (Calendar.display d)) = .ok d.wholeSeconds := by
    unfold parseDatetime
    rw [Calendar.parse?_display h]
  have hwrite : formatDatetime d Calendar.defaultPattern =
      .ok (String.ofList (Calendar.display d)) := by
    unfold formatDatetime
    rw [Calendar.format?_defaultPattern]
  refine ⟨?_, hread⟩
  rw [hwrite, ok_bind, hread]

/-- It is so for the last half second of a day before the year zero. -/
theorem parseDatetime_formatDatetime_beforeZero :
    let d : Datetime := ⟨⟨-44, 3, 15, by decide, by decide⟩, 23, 59, 59, 500000000,
      by decide, by decide, by decide, by decide⟩
    ¬ d.InLeapSecond ∧
      (formatDatetime d Calendar.defaultPattern >>= parseDatetime) = .ok d.wholeSeconds ∧
        parseDatetime (Value.datetime d).display = .ok d.wholeSeconds := by
  intro d
  have h : ¬ d.InLeapSecond := by decide
  exact ⟨h, parseDatetime_formatDatetime h⟩

end Formulary.Builtin
