-- How the scan reads a number: a literal that can be read is taken in to its last
-- character, and what the scan takes in is a literal that can be read.
import Formulary.Proofs.DigitRuns
import Formulary.Proofs.Tokens

namespace Formulary

open String (utf8Len)
open Written (Numeral signChars)

/-! ## The shape of a literal -/

/-- Digits with an optional sign before them. -/
theorem exists_sign_of_signedDigits? {cs : List Char} {n : Int}
    (h : Decimal.signedDigits? cs = some n) : ∃ sign digits, cs = sign ++ digits ∧
      (sign = [] ∨ sign = ['+'] ∨ sign = ['-']) ∧ digits ≠ [] ∧ ∀ c ∈ digits, c.isDigit = true := by
  have hread : ∀ {ds : List Char} {n : Int},
      (if ds ≠ [] ∧ ds.all Char.isDigit = true then some (digitsValue ds : Int) else none) =
        some n → ds ≠ [] ∧ ∀ c ∈ ds, c.isDigit = true := by
    intro ds n hif
    split_ifs at hif with hds
    exact ⟨hds.1, List.all_eq_true.mp hds.2⟩
  unfold Decimal.signedDigits? at h
  dsimp only at h
  split at h
  · exact ⟨['+'], _, rfl, .inr (.inl rfl), hread h⟩
  · obtain ⟨m, hm, -⟩ := Option.map_eq_some_iff.mp h
    exact ⟨['-'], _, rfl, .inr (.inr rfl), hread hm⟩
  · exact ⟨[], _, rfl, .inl rfl, hread h⟩

/-- The fraction of a literal with its point, if there is one. -/
def IsFraction (cs : List Char) : Prop :=
  cs = [] ∨ ∃ digits, cs = '.' :: digits ∧ ∀ c ∈ digits, c.isDigit = true

/-- The exponent of a literal with its mark, if there is one. -/
def IsExponent (cs : List Char) : Prop :=
  cs = [] ∨ ∃ sign digits, cs = 'e' :: (sign ++ digits) ∧
    (sign = [] ∨ sign = ['+'] ∨ sign = ['-']) ∧ digits ≠ [] ∧ ∀ c ∈ digits, c.isDigit = true

/-- A point with a fraction behind it, or neither of them. -/
def PointOf (fraction point : List Char) : Prop :=
  point = [] ∧ fraction = [] ∨ point = '.' :: fraction

/-- A mark with a power of ten behind it, or neither of them. -/
def PowerOf (marks : List Char) (exponent : Int) (power : List Char) : Prop :=
  power = [] ∧ exponent = 0 ∨
    ∃ mark ∈ marks, ∃ cs, power = mark :: cs ∧ Decimal.signedDigits? cs = some exponent

/-- The characters stand for the parts of a number without its sign: digits, a point with digits
and a power of ten behind one of the marks. There is a digit before the power. -/
structure NumberLiteral.WrittenAs (marks : List Char) (l : NumberLiteral) (cs : List Char) :
    Prop where
  digits : ∀ c ∈ l.whole ++ l.fraction, c.isDigit = true
  ne_nil : l.whole ++ l.fraction ≠ []
  parts : ∃ point power, cs = l.whole ++ (point ++ power) ∧ PointOf l.fraction point ∧
    PowerOf marks l.exponent power

theorem NumberLiteral.WrittenAs.mono {marks more cs : List Char} {l : NumberLiteral}
    (h : l.WrittenAs marks cs) (hmarks : ∀ mark ∈ marks, mark ∈ more) : l.WrittenAs more cs := by
  obtain ⟨hdigits, hne, point, power, hcs, hpoint, hpower⟩ := h
  refine ⟨hdigits, hne, point, power, hcs, hpoint, hpower.imp_right ?_⟩
  rintro ⟨mark, hmark, hrest⟩
  exact ⟨mark, hmarks mark hmark, hrest⟩

theorem powerOf_of_read? {whole fraction power : List Char} {l : NumberLiteral}
    (h : (match power with
      | [] => some (⟨whole, fraction, 0⟩ : NumberLiteral)
      | 'e' :: exponent => (Decimal.signedDigits? exponent).map fun e => ⟨whole, fraction, e⟩
      | _ => none) = some l) :
    l.whole = whole ∧ l.fraction = fraction ∧ PowerOf ['e'] l.exponent power := by
  split at h
  · cases h
    exact ⟨rfl, rfl, .inl ⟨rfl, rfl⟩⟩
  · obtain ⟨e, he, rfl⟩ := Option.map_eq_some_iff.mp h
    exact ⟨rfl, rfl, .inr ⟨'e', by simp, _, rfl, he⟩⟩
  · cases h

/-- A literal is read into the parts that it is written in. -/
theorem writtenAs_of_read? {cs : List Char} {l : NumberLiteral}
    (h : NumberLiteral.read? cs = some l) : l.WrittenAs ['e'] cs := by
  have hdigits : ∀ {ds : List Char}, ∀ c ∈ ds.takeWhile Char.isDigit, c.isDigit = true :=
    fun c hc => List.mem_takeWhile_imp hc
  obtain ⟨fraction, point, power, hrest, hpoint, hfraction, hne, hwhole, hl, hpower⟩ :
      ∃ fraction point power, cs.dropWhile Char.isDigit = point ++ power ∧
        PointOf fraction point ∧ (∀ c ∈ fraction, c.isDigit = true) ∧
        ¬ (cs.takeWhile Char.isDigit = [] ∧ fraction = []) ∧
        l.whole = cs.takeWhile Char.isDigit ∧ l.fraction = fraction ∧
        PowerOf ['e'] l.exponent power := by
    unfold NumberLiteral.read? at h
    dsimp only at h
    split_ifs at h with hzeros hnone
    cases hd : cs.dropWhile Char.isDigit with
    | nil =>
      rw [hd] at h hnone
      exact ⟨[], [], [], rfl, .inl ⟨rfl, rfl⟩, nofun, hnone, powerOf_of_read? h⟩
    | cons c more =>
      rw [hd] at h hnone
      by_cases hc : c = '.'
      · subst hc
        refine ⟨more.takeWhile Char.isDigit, '.' :: more.takeWhile Char.isDigit,
          more.dropWhile Char.isDigit, ?_, .inr rfl, hdigits, hnone, powerOf_of_read? h⟩
        rw [List.cons_append, List.takeWhile_append_dropWhile]
      · have hno : ∀ rest, c :: more = '.' :: rest → False := fun _ he => hc (List.cons.inj he).1
        simp only at h hnone
        exact ⟨[], [], c :: more, rfl, .inl ⟨rfl, rfl⟩, nofun, by simpa using hnone,
          powerOf_of_read? h⟩
  refine ⟨?_, ?_, point, power, ?_, hl ▸ hpoint, hpower⟩
  · intro c hc
    rw [hwhole, hl] at hc
    exact (List.mem_append.mp hc).elim (hdigits c) (hfraction c)
  · rwa [hwhole, hl, Ne, List.append_eq_nil_iff]
  · rw [hwhole, ← hrest, List.takeWhile_append_dropWhile]

theorem exists_parts_of_read? {cs : List Char} {l : NumberLiteral}
    (h : NumberLiteral.read? cs = some l) : ∃ whole fraction exponent,
      cs = whole ++ (fraction ++ exponent) ∧ (∀ c ∈ whole, c.isDigit = true) ∧
      IsFraction fraction ∧ IsExponent exponent ∧ (whole ≠ [] ∨ fraction ≠ []) := by
  obtain ⟨hdigits, hne, point, power, hcs, hpoint, hpower⟩ := writtenAs_of_read? h
  refine ⟨l.whole, point, power, hcs, fun c hc => hdigits c (List.mem_append_left _ hc), ?_, ?_, ?_⟩
  · refine hpoint.imp And.left fun hp => ⟨l.fraction, hp, fun c hc => ?_⟩
    exact hdigits c (List.mem_append_right _ hc)
  · refine hpower.imp And.left ?_
    rintro ⟨mark, hmark, cs, rfl, he⟩
    rw [List.mem_singleton] at hmark
    obtain ⟨sign, digits, rfl, hsign⟩ := exists_sign_of_signedDigits? he
    exact ⟨sign, digits, by rw [hmark], hsign⟩
  · rcases hpoint with ⟨-, hnone⟩ | rfl
    · left
      rwa [hnone, List.append_nil] at hne
    · exact .inr (List.cons_ne_nil _ _)

/-- A literal that can be evaluated can be read. -/
theorem exists_read?_of_evaluate {cs : List Char} {negative : Bool} {x : Decimal}
    (h : NumberLiteral.evaluate cs negative = .ok x) : ∃ l, NumberLiteral.read? cs = some l := by
  cases hread : NumberLiteral.read? cs with
  | none =>
    unfold NumberLiteral.evaluate at h
    rw [hread] at h
    cases h
  | some l => exact ⟨l, rfl⟩

/-- A literal begins with a digit or a point. -/
theorem exists_head_of_read? {cs : List Char} {l : NumberLiteral}
    (h : NumberLiteral.read? cs = some l) :
    ∃ c more, cs = c :: more ∧ (c.isDigit = true ∨ c = '.') := by
  obtain ⟨whole, fraction, exponent, rfl, hwhole, hfraction, -, hne⟩ := exists_parts_of_read? h
  cases whole with
  | cons c whole => exact ⟨c, _, rfl, .inl (hwhole c List.mem_cons_self)⟩
  | nil =>
    rcases hfraction with rfl | ⟨digits, rfl, -⟩
    · simp at hne
    · exact ⟨'.', _, rfl, .inr rfl⟩

namespace Scanner

variable {read rest : List Char} {nodes : List Node} {frames : List Frame}

/-! ## One more character -/

/-- No number goes on here. -/
def EndsNumber (rest : List Char) : Prop :=
  ∀ c ∈ rest.head?, c.isDigit = false ∧ c ≠ '.' ∧ c ≠ 'e'

theorem step_number_digit {c : Char} {scan : NumberScan} (hc : c.isDigit = true) :
    (amid read (c :: rest) nodes frames (.number scan)).step =
      .ok (amid (c :: read) rest nodes frames
        (.number { scan with literal := c :: scan.literal })) :=
  if_pos hc

theorem step_number_point {scan : NumberScan} (hp : scan.hasPoint = false)
    (he : scan.hasExponent = false) :
    (amid read ('.' :: rest) nodes frames (.number scan)).step =
      .ok (amid ('.' :: read) rest nodes frames
        (.number { scan with literal := '.' :: scan.literal, hasPoint := true })) := by
  change (if (scan.hasPoint || scan.hasExponent) = true then _ else _) = _
  rw [hp, he]
  rfl

theorem step_number_mark {scan : NumberScan} (he : scan.hasExponent = false) :
    (amid read ('e' :: rest) nodes frames (.number scan)).step =
      .ok (amid ('e' :: read) rest nodes frames
        (.number { scan with literal := 'e' :: scan.literal, hasExponent := true })) := by
  change (if scan.hasExponent = true then _ else _) = _
  rw [he]
  rfl

theorem step_number_sign {c : Char} {scan : NumberScan} (hc : c = '+' ∨ c = '-')
    (hs : scan.literal.head? = some 'e') :
    (amid read (c :: rest) nodes frames (.number scan)).step =
      .ok (amid (c :: read) rest nodes frames
        (.number { scan with literal := c :: scan.literal })) := by
  have hdigit : ¬ c.isDigit = true := by rcases hc with rfl | rfl <;> decide
  have hpoint : c ≠ '.' := by rcases hc with rfl | rfl <;> decide
  have hmark : c ≠ 'e' := by rcases hc with rfl | rfl <;> decide
  exact (if_neg hdigit).trans ((if_neg hpoint).trans ((if_neg hmark).trans (if_pos ⟨hc, hs⟩)))

theorem step_number_end {scan : NumberScan} (hrest : EndsNumber rest)
    (hs : scan.literal.head? ≠ some 'e') :
    (amid read rest nodes frames (.number scan)).step =
      (amid read rest nodes frames (.number scan)).endNumber scan rest.head? := by
  cases rest with
  | nil => rfl
  | cons c rest =>
    obtain ⟨hdigit, hpoint, hmark⟩ := hrest c rfl
    exact (if_neg (by simp [hdigit])).trans ((if_neg hpoint).trans ((if_neg hmark).trans
      (if_neg fun h => hs h.2)))

/-- Digits are taken in wherever they stand in a number. -/
theorem result_digits {digits : List Char} {scan : NumberScan}
    (h : ∀ c ∈ digits, c.isDigit = true) :
    (amid read (digits ++ rest) nodes frames (.number scan)).result =
      (amid (digits.reverse ++ read) rest nodes frames
        (.number { scan with literal := digits.reverse ++ scan.literal })).result :=
  result_run (·.isDigit = true) (fun taken => .number { scan with literal := taken })
    (fun _ h => by cases h) (fun _ _ _ _ hc => step_number_digit hc) digits read rest scan.literal h

/-! ## Whole numbers -/

/-- The latest character that has been taken in is not the mark of an exponent. -/
theorem head?_append_digits (before : List Char) {digits : List Char}
    (h : ∀ c ∈ digits, c.isDigit = true) (hbefore : digits = [] → before.head? ≠ some 'e') :
    (digits.reverse ++ before).head? ≠ some 'e' := by
  rcases digits.eq_nil_or_concat with rfl | ⟨front, c, rfl⟩
  · exact hbefore rfl
  · have hc : c.isDigit = true := h c (by simp)
    simp only [List.concat_eq_append, List.reverse_append, List.reverse_singleton,
      List.cons_append, List.head?_cons, ne_eq, Option.some.injEq]
    rintro rfl
    exact absurd hc (by decide)

/-- A literal that can be read is taken in to its end. -/
theorem result_literal {literal : List Char} {l : NumberLiteral}
    (h : NumberLiteral.read? literal = some l) (origin : Nat) (sign : Option Operator)
    (read rest : List Char) (nodes : List Node) (frames : List Frame) :
    ∃ scan : NumberScan, scan.origin = origin ∧ scan.sign = sign ∧
      scan.literal = literal.reverse ∧ scan.literal.head? ≠ some 'e' ∧
      (amid read (literal ++ rest) nodes frames
        (.number ⟨origin, sign, [], false, false⟩)).result =
        (amid (literal.reverse ++ read) rest nodes frames (.number scan)).result := by
  obtain ⟨whole, fraction, exponent, rfl, hwhole, hfraction, hexponent, -⟩ :=
    exists_parts_of_read? h
  -- The digits in front, then the fraction, and then the exponent.
  obtain ⟨hasPoint, hpoint, hlast⟩ : ∃ hasPoint,
      (amid read (whole ++ (fraction ++ exponent) ++ rest) nodes frames
        (.number ⟨origin, sign, [], false, false⟩)).result =
        (amid ((whole ++ fraction).reverse ++ read) (exponent ++ rest) nodes frames
          (.number ⟨origin, sign, (whole ++ fraction).reverse, hasPoint, false⟩)).result ∧
      (whole ++ fraction).reverse.head? ≠ some 'e' := by
    rw [List.append_assoc, List.append_assoc, result_digits hwhole]
    rcases hfraction with rfl | ⟨digits, rfl, hdigits⟩
    · refine ⟨false, by simp, ?_⟩
      have := head?_append_digits [] hwhole (fun _ => nofun)
      simpa using this
    · refine ⟨true, ?_, ?_⟩
      · rw [List.cons_append,
          result_of_step (fun h => by cases h) (step_number_point rfl rfl), result_digits hdigits]
        simp
      · have := head?_append_digits ('.' :: whole.reverse) hdigits (fun _ => by simp)
        simpa using this
  rcases hexponent with rfl | ⟨expSign, digits, rfl, hsign, hne, hdigits⟩
  · refine ⟨⟨origin, sign, (whole ++ fraction).reverse, hasPoint, false⟩, rfl, rfl, ?_, hlast, ?_⟩
    · simp
    · simpa using hpoint
  · refine ⟨⟨origin, sign, (whole ++ (fraction ++ 'e' :: (expSign ++ digits))).reverse, hasPoint,
      true⟩, rfl, rfl, rfl, ?_, ?_⟩
    · have := head?_append_digits (whole ++ (fraction ++ 'e' :: expSign)).reverse
        hdigits (fun he => absurd he hne)
      simpa using this
    · rw [hpoint, List.cons_append, List.append_assoc,
        result_of_step (fun h => by cases h) (step_number_mark rfl)]
      rcases hsign with rfl | rfl | rfl
      · rw [List.nil_append, result_digits hdigits]
        simp
      · rw [List.singleton_append,
          result_of_step (fun h => by cases h) (step_number_sign (.inl rfl) rfl),
          result_digits hdigits]
        simp
      · rw [List.singleton_append,
          result_of_step (fun h => by cases h) (step_number_sign (.inr rfl) rfl),
          result_digits hdigits]
        simp

/-- A literal does not begin like an operator. -/
theorem endsOperator_literal {literal : List Char} {l : NumberLiteral}
    (h : NumberLiteral.read? literal = some l) : EndsOperator (literal ++ rest) := by
  obtain ⟨c, more, hcs, hc⟩ := exists_head_of_read? h
  intro d hd
  rw [hcs] at hd
  cases hd
  rcases hc with hc | rfl
  · apply CharClass.isOperatorChar_eq_false
    rw [CharClass.ofChar_digit hc]
    decide
  · decide

/-- A literal is taken in with its sign where an operand may stand. -/
theorem result_signed {literal : List Char} {l : NumberLiteral} {sign : Option Operator}
    (h : NumberLiteral.read? literal = some l) (hsign : ∀ op ∈ sign, op.isSign = true)
    (hexpects : (place nodes frames).expectsOperand = true) :
    ∃ scan : NumberScan, scan.origin = utf8Len read ∧ scan.sign = sign ∧
      scan.literal = literal.reverse ∧ scan.literal.head? ≠ some 'e' ∧
      (between read (signChars sign ++ (literal ++ rest)) nodes frames).result =
        (amid ((signChars sign ++ literal).reverse ++ read) rest nodes frames
          (.number scan)).result := by
  obtain ⟨scan, horigin, hscan, hliteral, hlast, hresult⟩ :=
    result_literal h (utf8Len read) sign ((signChars sign).reverse ++ read) rest nodes frames
  refine ⟨scan, horigin, hscan, hliteral, hlast, ?_⟩
  rw [List.reverse_append, List.append_assoc, ← hresult]
  cases sign with
  | none =>
    obtain ⟨c, more, rfl, hc⟩ := exists_head_of_read? h
    exact result_of_begins (.number (hc.imp id .inl) hexpects)
  | some op => exact result_sign (hsign op rfl) (endsOperator_literal h) hexpects

/-- What can be read is not empty. -/
theorem ne_nil_of_read? {literal : List Char} {l : NumberLiteral}
    (h : NumberLiteral.read? literal = some l) : literal ≠ [] := by
  rintro rfl
  cases h

theorem endNumber_eq {scan : NumberScan} {l : NumberLiteral}
    (h : NumberLiteral.read? scan.literal.reverse = some l) :
    (amid read rest nodes frames (.number scan)).endNumber scan rest.head? =
      (NumberLiteral.evaluate scan.literal.reverse (scan.sign == some .subtract)).map fun x =>
        between read rest (.value ⟨scan.origin,
          (amid read rest nodes frames (.number scan)).textFrom scan.origin⟩ (.number x) :: nodes)
          frames := by
  have hempty : ¬ scan.literal.isEmpty = true := by
    have := ne_nil_of_read? h
    simpa using this
  unfold endNumber
  rw [if_neg hempty]
  rfl

/-- A number is read with its sign where an operand may stand. -/
theorem result_numeral (n : Numeral) (hrest : EndsNumber rest)
    (hexpects : (place nodes frames).expectsOperand = true) :
    (between read (n.chars ++ rest) nodes frames).result =
      (between (n.chars.reverse ++ read) rest
        ((Written.Operand.number n).node (utf8Len read) :: nodes) frames).result := by
  obtain ⟨l, hl⟩ := exists_read?_of_evaluate n.reads
  obtain ⟨scan, horigin, hsign, hliteral, hlast, hresult⟩ := result_signed hl n.isSign hexpects
  have hread : NumberLiteral.read? scan.literal.reverse = some l := by
    rw [hliteral, List.reverse_reverse, hl]
  have heval : NumberLiteral.evaluate scan.literal.reverse (scan.sign == some .subtract) =
      .ok n.value := by
    rw [hliteral, hsign, List.reverse_reverse]
    exact n.reads
  rw [Numeral.chars, List.append_assoc, hresult]
  refine result_of_step (fun h => by cases h) ?_
  rw [step_number_end hrest hlast, endNumber_eq hread, heval, horigin, textFrom_amid rfl]
  rfl

/-! ## What can be read as a number -/

theorem exists_value_of_endNumber {s t : Scanner} {scan : NumberScan} {next : Option Char}
    (h : s.endNumber scan next = .ok t) : ∃ x,
      NumberLiteral.evaluate scan.literal.reverse (scan.sign == some .subtract) = .ok x := by
  unfold endNumber at h
  by_cases hempty : scan.literal.isEmpty
  · rw [if_pos hempty] at h
    cases h
  · rw [if_neg hempty] at h
    cases hx : NumberLiteral.evaluate scan.literal.reverse (scan.sign == some .subtract) with
    | error fault =>
      rw [hx] at h
      cases h
    | ok x => exact ⟨x, rfl⟩

/-- A number that comes to an end is made of characters that can be evaluated. -/
theorem exists_literal_of_result {r : List Node} : ∀ {rest read : List Char} {scan : NumberScan},
    (amid read rest nodes frames (.number scan)).result = .ok r →
    ∃ taken more x, rest = taken ++ more ∧ EndsNumber more ∧
      NumberLiteral.evaluate (scan.literal.reverse ++ taken) (scan.sign == some .subtract) = .ok x
  | [], read, scan, h => by
    obtain ⟨t, hstep, -⟩ := exists_step_of_result (fun h => by cases h) h
    replace hstep : endNumber _ scan none = .ok t := hstep
    obtain ⟨x, hx⟩ := exists_value_of_endNumber hstep
    exact ⟨[], [], x, rfl, nofun, by rwa [List.append_nil]⟩
  | c :: rest, read, scan, h => by
    -- Each character that is taken in is the first of those that the rest of the scan takes in.
    have hmore : ∀ next : NumberScan, next.literal = c :: scan.literal →
        next.sign = scan.sign →
        (amid (c :: read) rest nodes frames (.number next)).result = .ok r →
        ∃ taken more x, c :: rest = taken ++ more ∧ EndsNumber more ∧
          NumberLiteral.evaluate (scan.literal.reverse ++ taken)
            (scan.sign == some .subtract) = .ok x := by
      intro next hliteral hsign hnext
      obtain ⟨taken, more, x, rfl, hends, hx⟩ := exists_literal_of_result hnext
      refine ⟨c :: taken, more, x, rfl, hends, ?_⟩
      rw [hliteral, hsign] at hx
      simpa using hx
    obtain ⟨t, hstep, ht⟩ := exists_step_of_result (fun h => by cases h) h
    replace hstep : scanNumber (amid read (c :: rest) nodes frames (.number scan)) scan = .ok t :=
      hstep
    unfold scanNumber at hstep
    dsimp only [amid, List.head?_cons] at hstep
    split_ifs at hstep with hdigit hpoint h1 hmark h2 hsign
    · cases hstep
      exact hmore { scan with literal := c :: scan.literal } rfl rfl ht
    · cases hstep
      exact hmore { scan with literal := c :: scan.literal, hasPoint := true } rfl rfl ht
    · cases hstep
      exact hmore { scan with literal := c :: scan.literal, hasExponent := true } rfl rfl ht
    · cases hstep
      exact hmore { scan with literal := c :: scan.literal } rfl rfl ht
    · obtain ⟨x, hx⟩ := exists_value_of_endNumber hstep
      refine ⟨[], c :: rest, x, rfl, ?_, by rwa [List.append_nil]⟩
      intro d hd
      cases hd
      exact ⟨Bool.eq_false_of_not_eq_true hdigit, hpoint, hmark⟩

/-- What begins like a number, where an operand may stand, is one. -/
theorem exists_numeral_of_result {c : Char} {r : List Node}
    (hc : c.isDigit = true ∨ c = '.' ∨ c = 'e')
    (hexpects : (place nodes frames).expectsOperand = true)
    (h : (between read (c :: rest) nodes frames).result = .ok r) :
    ∃ (n : Numeral) (more : List Char), n.sign = none ∧ c :: rest = n.chars ++ more ∧
      EndsNumber more := by
  have hbegin : Begins (between read (c :: rest) nodes frames) c
      (amid read (c :: rest) nodes frames (.number ⟨utf8Len read, none, [], false, false⟩)) :=
    .number hc hexpects
  rw [result_of_begins hbegin] at h
  obtain ⟨literal, more, x, hsplit, hends, hx⟩ := exists_literal_of_result h
  exact ⟨⟨none, literal, x, nofun, hx⟩, more, rfl, hsplit, hends⟩

/-- Behind a sign stands a literal. -/
theorem exists_signed_of_result {op : Operator} {r : List Node} (hsign : op.isSign = true)
    (hrest : EndsOperator rest) (hexpects : (place nodes frames).expectsOperand = true)
    (h : (between read (op.symbol.toList ++ rest) nodes frames).result = .ok r) :
    ∃ (n : Numeral) (more : List Char), n.sign = some op ∧
      op.symbol.toList ++ rest = n.chars ++ more ∧ EndsNumber more := by
  rw [result_sign hsign hrest hexpects] at h
  obtain ⟨literal, more, x, rfl, hends, hx⟩ := exists_literal_of_result h
  refine ⟨⟨some op, literal, x, fun _ ho => Option.some.inj ho ▸ hsign, hx⟩, more, rfl, ?_, hends⟩
  rw [← List.append_assoc]
  rfl

end Scanner

end Formulary
