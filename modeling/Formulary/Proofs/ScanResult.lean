-- What a scan comes to, without a bound on its steps. Every step makes the scan
-- smaller: it reads a character, or goes to a mode that is nearer to the next one.
import Formulary.Scan.Scanner
import Mathlib.Data.String.Basic

namespace Formulary

/-! ## Classes of characters -/

namespace CharClass

/-- The characters of each class. -/
def Holds (c : Char) : CharClass → Prop
  | endOfText => False
  | space => Text.isBlank c = true
  | groupStart => c = '('
  | groupEnd => c = ')'
  | digit => c.isDigit = true
  | decimalPoint => c = '.'
  | operator => isOperatorChar c = true
  | quote => c = '\'' ∨ c = '"'
  | referenceStart => c = '\x7b'
  | callStart => c = '$'
  | comma => c = ','
  | other => True

theorem holds_ofChar (c : Char) : Holds c (ofChar c) := by
  unfold ofChar
  split_ifs <;> first | assumption | trivial

@[simp] theorem ofChar_blank {c : Char} (h : Text.isBlank c = true) : ofChar c = space := by
  simp [ofChar, h]

theorem ofChar_digit {c : Char} (h : c.isDigit = true) : ofChar c = digit := by
  have hc : 48 ≤ c.toNat ∧ c.toNat ≤ 57 := by
    simpa [Char.isDigit, UInt32.le_iff_toNat_le] using h
  have hblank : Text.isBlank c = false := Text.isBlank_of_isDigit h
  have hopen : c ≠ '(' := fun he => by simp [he] at hc
  have hclose : c ≠ ')' := fun he => by simp [he] at hc
  simp [ofChar, hblank, hopen, hclose, h]

/-- An operator character is one of eight. -/
theorem isOperatorChar_iff {c : Char} : isOperatorChar c = true ↔
    c = '+' ∨ c = '-' ∨ c = '*' ∨ c = '/' ∨ c = '<' ∨ c = '>' ∨ c = '=' ∨ c = '!' := by
  simp [isOperatorChar, or_assoc]

theorem ofChar_operator {c : Char} (h : isOperatorChar c = true) : ofChar c = operator := by
  rcases isOperatorChar_iff.mp h with rfl | rfl | rfl | rfl | rfl | rfl | rfl | rfl <;> rfl

theorem isOperatorChar_eq_false {c : Char} (h : ofChar c ≠ operator) :
    isOperatorChar c = false := by
  cases hop : isOperatorChar c with
  | false => rfl
  | true => exact absurd (ofChar_operator hop) h

theorem isDigit_eq_false {c : Char} (h : ofChar c ≠ digit) : c.isDigit = false := by
  cases hd : c.isDigit with
  | false => rfl
  | true => exact absurd (ofChar_digit hd) h

end CharClass

namespace Scanner

/-! ## What the first character of a token begins -/

/-- From `s`, before the character `c`, the scan goes on to the given state. -/
inductive Begins (s : Scanner) (c : Char) : Scanner → Prop
  | space : Text.isBlank c = true → Begins s c s.advance
  | group : c = '(' → s.expectsOperand = true → Begins s c (s.advance.enter .group s.index)
  | leave {t : Scanner} : c = ')' → s.frames ≠ [] → s.isBehind .operator = false →
      (s.inGroup = true → s.isFirst = false) → s.leave = .ok t → Begins s c t
  | number : c.isDigit = true ∨ c = '.' ∨ c = 'e' → s.expectsOperand = true →
      Begins s c (s.beginNumber s.index none)
  | operator : isOperatorChar c = true → Begins s c { s with mode := .operator s.index "" }
  | text : c = '\'' ∨ c = '"' → s.isBehind .operator = false →
      Begins s c { s.advance with mode := .text s.index c "" }
  | reference : c = '\x7b' → s.expectsOperand = true →
      Begins s c { s.advance with mode := .reference s.index "" }
  | callName : c = '$' → s.expectsOperand = true →
      Begins s c { s.advance with mode := .callName s.index "" }
  | comma : c = ',' → s.inCall = true → s.isBehind .operator = false →
      Begins s c (s.push (.comma s.index)).advance

theorem begins_of_scanToken {s t : Scanner} {c : Char} (h : s.scanToken c = .ok t) :
    Begins s c t := by
  have hc := CharClass.holds_ofChar c
  unfold scanToken at h
  split at h <;> rename_i hclass <;> rw [hclass] at hc
  case h_1 => exact hc.elim
  case h_2 =>
    cases h
    exact .space hc
  case h_3 =>
    split at h <;> cases h
    exact .group hc ‹_›
  case h_4 =>
    split at h
    · cases h
    · split at h
      · cases h
      · rename_i h1 h2
        simp only [Bool.or_eq_true, List.isEmpty_iff, not_or, Bool.not_eq_true] at h1
        simp only [Bool.and_eq_true, not_and, Bool.not_eq_true] at h2
        exact .leave hc h1.1 h1.2 h2 h
  case h_5 =>
    split at h <;> cases h
    exact .number (.inl hc) ‹_›
  case h_6 =>
    split at h <;> cases h
    exact .number (.inr (.inl hc)) ‹_›
  case h_7 =>
    cases h
    exact .operator hc
  case h_8 =>
    split at h <;> cases h
    exact .text hc (Bool.eq_false_of_not_eq_true ‹_›)
  case h_9 =>
    split at h <;> cases h
    exact .reference hc ‹_›
  case h_10 =>
    split at h <;> cases h
    exact .callName hc ‹_›
  case h_11 =>
    split at h <;> cases h
    rename_i h1
    simp only [Bool.or_eq_true, Bool.not_eq_true', not_or, Bool.not_eq_false, Bool.not_eq_true]
      at h1
    exact .comma hc h1.1 h1.2
  case h_12 =>
    split at h <;> cases h
    rename_i h1
    exact .number (.inr (.inr h1.1)) h1.2

theorem scanToken_of_begins {s t : Scanner} {c : Char} (h : Begins s c t) :
    s.scanToken c = .ok t := by
  unfold scanToken
  cases h with
  | space hc => rw [CharClass.ofChar_blank hc]
  | group hc hs =>
    have hclass : CharClass.ofChar c = .groupStart := hc ▸ rfl
    rw [hclass]
    exact if_pos hs
  | leave hc hf hb hg hl =>
    have hclass : CharClass.ofChar c = .groupEnd := hc ▸ rfl
    rw [hclass]
    have h1 : ¬ (s.frames.isEmpty || s.isBehind .operator) = true := by simp [hf, hb]
    have h2 : ¬ (s.inGroup && s.isFirst) = true := by simpa using hg
    exact (if_neg h1).trans ((if_neg h2).trans hl)
  | number hc hs =>
    rcases hc with hc | hc | hc
    · rw [CharClass.ofChar_digit hc]
      exact if_pos hs
    · have hclass : CharClass.ofChar c = .decimalPoint := hc ▸ rfl
      rw [hclass]
      exact if_pos hs
    · have hclass : CharClass.ofChar c = .other := hc ▸ rfl
      rw [hclass]
      exact if_pos ⟨hc, hs⟩
  | operator hc => rw [CharClass.ofChar_operator hc]
  | text hc hb =>
    have hclass : CharClass.ofChar c = .quote := by rcases hc with rfl | rfl <;> rfl
    rw [hclass]
    exact if_neg (by simp [hb])
  | reference hc hs =>
    have hclass : CharClass.ofChar c = .referenceStart := hc ▸ rfl
    rw [hclass]
    exact if_pos hs
  | callName hc hs =>
    have hclass : CharClass.ofChar c = .callStart := hc ▸ rfl
    rw [hclass]
    exact if_pos hs
  | comma hc hi hb =>
    have hclass : CharClass.ofChar c = .comma := hc ▸ rfl
    rw [hclass]
    exact if_neg (by simp [hi, hb])

/-- The law of first characters. -/
theorem scanToken_eq_ok_iff {s t : Scanner} {c : Char} : s.scanToken c = .ok t ↔ Begins s c t :=
  ⟨begins_of_scanToken, scanToken_of_begins⟩

/-- What an owner's text adds to the text that has been read: the parenthesis, if it is there. -/
def ownerSpan (s : Scanner) (origin : Nat) : Span :=
  ⟨origin, s.textFrom origin ++ String.ofList (s.rest.take 1)⟩

/-- At the end of a level, the scan goes on to the given state. -/
inductive Leaves (s : Scanner) : Scanner → Prop
  | group {origin : Nat} {before : List Node} {frames : List Frame} :
      s.frames = ⟨.group, origin, before⟩ :: frames →
      Leaves s { s with nodes := .group (s.ownerSpan origin) s.nodes.reverse :: before,
                        frames, mode := .groupClose }
  | call {method : String} {origin : Nat} {before : List Node} {frames : List Frame}
      {params : List Node} : s.frames = ⟨.call method, origin, before⟩ :: frames →
      s.arguments s.nodes.reverse = .ok params →
      Leaves s { s with nodes := .call (s.ownerSpan origin) method params :: before,
                        frames, mode := .callClose method }

theorem leave_eq_ok_iff {s t : Scanner} : s.leave = .ok t ↔ Leaves s t := by
  constructor
  · intro h
    unfold leave at h
    split at h
    · cases h
    · dsimp only at h
      split at h
      · cases h
        exact .group ‹_›
      · cases hparams : s.arguments s.nodes.reverse with
        | error fault =>
          rw [hparams] at h
          cases h
        | ok params =>
          rw [hparams] at h
          cases h
          exact .call ‹_› hparams
  · intro h
    unfold leave
    cases h with
    | group hf =>
      rw [hf]
      rfl
    | call hf hparams =>
      rw [hf]
      dsimp only
      rw [hparams]
      rfl

end Scanner

/-! ## The size of a scan -/

/-- How far a mode is from the next character. A token that has begun is further away than the
place between tokens, and one that is about to begin is nearer. -/
def Mode.rank : Mode → Nat
  | .number scan => if scan.literal.isEmpty then 0 else 2
  | .operator _ symbol => if symbol.isEmpty then 0 else 2
  | .base | .text _ _ _ | .reference _ _ | .callName _ _ => 1
  | .groupClose | .callClose _ | .complete => 0

theorem Mode.rank_le (m : Mode) : m.rank ≤ 2 := by
  unfold Mode.rank
  split <;> try split
  all_goals omega

namespace Scanner

/-- The most steps that are left. -/
def size (s : Scanner) : Nat := 3 * s.rest.length + s.mode.rank

/-- A step that reads a character makes the scan smaller, whatever mode it leads to. -/
theorem size_lt_of_read {s t : Scanner} {c : Char} {rest : List Char} (hs : s.rest = c :: rest)
    (ht : t.rest = rest) : t.size < s.size := by
  have := t.mode.rank_le
  simp only [size, hs, ht, List.length_cons]
  omega

theorem size_lt_of_rank {s t : Scanner} (hr : t.rest = s.rest) (hm : t.mode.rank < s.mode.rank) :
    t.size < s.size := by
  simp only [size, hr]
  omega

theorem advance_of_rest {s : Scanner} {c : Char} {rest : List Char} (h : s.rest = c :: rest) :
    s.advance = { s with read := c :: s.read, rest, index := s.index + c.utf8Size } := by
  unfold advance
  rw [h]

theorem size_leave {s t : Scanner} (hm : s.mode = .base) (h : Leaves s t) : t.size < s.size := by
  cases h with
  | group _ => exact size_lt_of_rank rfl (by rw [hm]; exact Nat.one_pos)
  | call _ _ => exact size_lt_of_rank rfl (by rw [hm]; exact Nat.one_pos)

theorem size_begins {s t : Scanner} {c : Char} {rest : List Char} (hs : s.rest = c :: rest)
    (hm : s.mode = .base) (h : Begins s c t) : t.size < s.size := by
  have hadvance := advance_of_rest hs
  cases h with
  | leave _ _ _ _ hl => exact size_leave hm (leave_eq_ok_iff.mp hl)
  | number _ _ => exact size_lt_of_rank rfl (by rw [hm]; exact Nat.one_pos)
  | operator _ => exact size_lt_of_rank rfl (by rw [hm]; exact Nat.one_pos)
  | comma _ _ _ =>
    rw [advance_of_rest (s := s.push _) hs]
    exact size_lt_of_read hs rfl
  | _ =>
    rw [hadvance]
    exact size_lt_of_read hs rfl

theorem size_endNumber {s t : Scanner} {scan : NumberScan} {next : Option Char}
    (hm : s.mode = .number scan) (h : s.endNumber scan next = .ok t) : t.size < s.size := by
  unfold endNumber at h
  by_cases hempty : scan.literal.isEmpty
  · rw [if_pos hempty] at h
    cases h
  · rw [if_neg hempty] at h
    cases hx : NumberLiteral.evaluate scan.literal.reverse (scan.sign == some .subtract) with
    | error fault =>
      rw [hx] at h
      cases h
    | ok x =>
      rw [hx] at h
      cases h
      exact size_lt_of_rank rfl (by simp [hm, push, Mode.rank, hempty])

theorem size_endOperator {s t : Scanner} {origin : Nat} {symbol : String}
    (hm : s.mode = .operator origin symbol) (h : s.endOperator origin symbol = .ok t) :
    t.size < s.size := by
  have hempty : symbol.isEmpty = false := by
    cases he : symbol.isEmpty with
    | false => rfl
    | true =>
      rw [String.isEmpty_iff] at he
      subst he
      cases h
  unfold endOperator at h
  split at h
  · cases h
  · split at h
    · cases h
      exact size_lt_of_rank rfl (by simp [hm, beginNumber, Mode.rank, hempty])
    · split at h <;> cases h
      exact size_lt_of_rank rfl (by simp [hm, push, Mode.rank, hempty])

theorem size_scanEnd {s t : Scanner} (hm : s.mode = .base) (h : s.scanEnd = .ok t) :
    t.size < s.size := by
  unfold scanEnd at h
  split at h
  · exact size_leave hm (leave_eq_ok_iff.mp h)
  · split at h <;> cases h
    exact size_lt_of_rank rfl (by rw [hm]; exact Nat.one_pos)

theorem size_endText {s t u : Scanner} {origin : Nat} {content : String} {c : Char}
    {rest : List Char} (hs : s.rest = c :: rest) (ht : t.rest = rest)
    (h : t.endText origin content = .ok u) : u.size < s.size := by
  unfold endText at h
  split at h
  · cases h
    exact size_lt_of_read hs ht
  · split at h <;> cases h

theorem size_step {s t : Scanner} (hm : s.mode ≠ .complete) (h : s.step = .ok t) :
    t.size < s.size := by
  unfold step scanBase scanNumber scanOperator scanText scanReference scanCallName scanClose at h
  rcases hrest : s.rest with _ | ⟨c, rest⟩
  · -- The text has ended, so the step can only end a token or a level.
    rw [hrest] at h
    split at h
    · exact size_scanEnd ‹_› h
    · exact size_endNumber ‹_› h
    · exact size_endOperator ‹_› h
    all_goals contradiction
  · have hread : s.advance.rest = rest := by rw [advance_of_rest hrest]
    rw [hrest] at h
    dsimp only [List.head?_cons] at h
    split at h
    · exact size_begins hrest ‹_› (scanToken_eq_ok_iff.mp h)
    · split_ifs at h
      all_goals first | exact size_endNumber ‹_› h | (cases h; exact size_lt_of_read hrest hread)
    · split_ifs at h
      · cases h
        exact size_lt_of_read hrest hread
      · exact size_endOperator ‹_› h
    · split_ifs at h
      · exact size_endText hrest hread h
      · cases h
        exact size_lt_of_read hrest hread
    · split_ifs at h <;> cases h <;> exact size_lt_of_read hrest hread
    · split_ifs at h <;> cases h <;> exact size_lt_of_read hrest hread
    · split at h <;> cases h
      exact size_lt_of_read hrest hread
    · split at h <;> cases h
      exact size_lt_of_read hrest hread
    · contradiction

/-! ## The result of a scan -/

instance isComplete : (m : Mode) → Decidable (m = .complete)
  | .complete => isTrue rfl
  | .base | .number _ | .operator _ _ | .text _ _ _ | .reference _ _ | .callName _ _
  | .groupClose | .callClose _ => isFalse nofun

/-- What a scan comes to, with as many steps as it takes. -/
def result (s : Scanner) : Except Fault (List Node) :=
  if _ : s.mode = .complete then .ok s.nodes.reverse
  else
    match _ : s.step with
    | .error fault => .error fault
    | .ok t => t.result
termination_by s.size
decreasing_by exact size_step ‹_› ‹_›

theorem result_of_complete {s : Scanner} (hm : s.mode = .complete) :
    s.result = .ok s.nodes.reverse := by
  rw [result, dif_pos hm]

theorem result_of_step {s t : Scanner} (hm : s.mode ≠ .complete) (h : s.step = .ok t) :
    s.result = t.result := by
  rw [result, dif_neg hm]
  split <;> rename_i heq <;> rw [h] at heq <;> cases heq
  rfl

theorem result_of_fault {s : Scanner} {fault : Fault} (hm : s.mode ≠ .complete)
    (h : s.step = .error fault) : s.result = .error fault := by
  rw [result, dif_neg hm]
  split <;> rename_i heq <;> rw [h] at heq <;> cases heq
  rfl

/-- A scan that succeeds takes its next step. -/
theorem exists_step_of_result {s : Scanner} {nodes : List Node} (hm : s.mode ≠ .complete)
    (h : s.result = .ok nodes) : ∃ t, s.step = .ok t ∧ t.result = .ok nodes := by
  cases hstep : s.step with
  | error fault =>
    rw [result_of_fault hm hstep] at h
    cases h
  | ok t => exact ⟨t, rfl, result_of_step hm hstep ▸ h⟩

/-- A scan that fails, fails in one of its steps. -/
theorem exists_fault_of_result (s : Scanner) {fault : Fault} (h : s.result = .error fault) :
    ∃ t : Scanner, t.step = .error fault := by
  by_cases hm : s.mode = .complete
  · rw [result_of_complete hm] at h
    cases h
  · cases hstep : s.step with
    | error fault' =>
      rw [result_of_fault hm hstep] at h
      cases h
      exact ⟨s, hstep⟩
    | ok t =>
      rw [result_of_step hm hstep] at h
      exact exists_fault_of_result t h
termination_by s.size
decreasing_by exact size_step hm hstep

/-- More steps than the scan is large are enough. -/
theorem run_eq_result : ∀ {fuel : Nat} {s : Scanner}, s.size < fuel → run fuel s = s.result
  | 0, _, h => absurd h (Nat.not_lt_zero _)
  | fuel + 1, s, h => by
    unfold run
    by_cases hm : s.mode = .complete
    · rw [hm, result_of_complete hm]
    · cases hstep : s.step with
      | error fault =>
        rw [result_of_fault hm hstep]
        split
        · contradiction
        · rfl
      | ok t =>
        have hsize := size_step hm hstep
        have hrun : run fuel t = t.result := run_eq_result (by omega)
        rw [result_of_step hm hstep, ← hrun]
        split
        · contradiction
        · rfl

end Scanner

theorem tokenize_eq_result (text : String) :
    tokenize text = (Scanner.start text.toList).result := by
  refine Scanner.run_eq_result ?_
  simp only [Scanner.size, Scanner.start, Mode.rank, Scanner.stepBound]
  omega

end Formulary
