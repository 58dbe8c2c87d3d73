-- Texts that are refused before they end. A step of the scan looks at the next character and at
-- what has been read, never further, so a scan goes the same way whatever stands behind the
-- characters that it has seen. A text with a fault at one of its characters has the same fault with
-- any text behind it.
import Formulary.Proofs.OpenLevels

namespace Formulary.Scanner

/-! ## More text behind -/

/-- The scan with more text behind what is left. -/
def followedBy (more : List Char) (s : Scanner) : Scanner := { s with rest := s.rest ++ more }

/-- The characters that the scan has looked at: those that it has read, and the next one. -/
def seen (s : Scanner) : List Char := s.read.reverse ++ s.rest.take 1

variable {s t : Scanner} {c : Char} {rest : List Char} {fault : Fault} (more : List Char)

theorem start_followedBy (cs : List Char) : (start cs).followedBy more = start (cs ++ more) := rfl

@[simp] theorem rest_followedBy : (s.followedBy more).rest = s.rest ++ more := rfl

@[simp] theorem frames_followedBy : (s.followedBy more).frames = s.frames := rfl

@[simp] theorem mode_followedBy : (s.followedBy more).mode = s.mode := rfl

@[simp] theorem isFirst_followedBy : (s.followedBy more).isFirst = s.isFirst := rfl

@[simp] theorem isBehind_followedBy (types : TypeMask) :
    (s.followedBy more).isBehind types = s.isBehind types := rfl

@[simp] theorem inGroup_followedBy : (s.followedBy more).inGroup = s.inGroup := rfl

@[simp] theorem inCall_followedBy : (s.followedBy more).inCall = s.inCall := rfl

@[simp] theorem expectsOperand_followedBy :
    (s.followedBy more).expectsOperand = s.expectsOperand := rfl

theorem head?_followedBy (hrest : s.rest = c :: rest) :
    (s.followedBy more).rest.head? = some c := by
  change (s.rest ++ more).head? = some c
  rw [hrest]
  rfl

theorem advance_followedBy (hrest : s.rest = c :: rest) :
    (s.followedBy more).advance = s.advance.followedBy more := by
  have hmore : (s.followedBy more).rest = c :: (rest ++ more) := congrArg (· ++ more) hrest
  rw [advance_of_rest hmore, advance_of_rest hrest]
  rfl

/-! ## Steps with more text behind -/

/-- A choice by the same condition is a choice between the same results. -/
theorem ite_followedBy {p : Prop} [Decidable p] {yes no yes' no' : Except Fault Scanner}
    (hyes : yes' = yes.map (followedBy more)) (hno : no' = no.map (followedBy more)) :
    (if p then yes' else no') = (if p then yes else no).map (followedBy more) := by
  split
  · exact hyes
  · exact hno

/-- The text of an owner goes no further than the next character. -/
theorem leave_followedBy (hrest : s.rest = c :: rest) :
    (s.followedBy more).leave = s.leave.map (followedBy more) := by
  have hnext : (s.followedBy more).rest.take 1 = s.rest.take 1 := by
    change (s.rest ++ more).take 1 = s.rest.take 1
    rw [hrest]
    rfl
  unfold leave
  rw [hnext, frames_followedBy]
  rcases s.frames with _ | ⟨⟨owner, origin, before⟩, frames⟩
  · rfl
  · cases owner with
    | group => rfl
    | call method =>
      change (s.arguments s.nodes.reverse >>= fun params => _) = _
      dsimp only
      cases s.arguments s.nodes.reverse <;> rfl

theorem scanToken_followedBy (hrest : s.rest = c :: rest) :
    (s.followedBy more).scanToken c = (s.scanToken c).map (followedBy more) := by
  have hadvance := advance_followedBy more hrest
  have hc := CharClass.holds_ofChar c
  unfold scanToken
  simp only [hadvance, expectsOperand_followedBy, isBehind_followedBy, inGroup_followedBy,
    inCall_followedBy, isFirst_followedBy, frames_followedBy, leave_followedBy more hrest]
  cases hclass : CharClass.ofChar c <;> rw [hclass] at hc <;> dsimp only
  case endOfText => exact hc.elim
  case space => rfl
  case groupStart => exact ite_followedBy more rfl rfl
  case groupEnd => exact ite_followedBy more rfl (ite_followedBy more rfl rfl)
  case digit => exact ite_followedBy more rfl rfl
  case decimalPoint => exact ite_followedBy more rfl rfl
  case operator => rfl
  case quote => exact ite_followedBy more rfl rfl
  case referenceStart => exact ite_followedBy more rfl rfl
  case callStart => exact ite_followedBy more rfl rfl
  case comma =>
    refine ite_followedBy more rfl (congrArg Except.ok ?_)
    exact advance_followedBy (s := s.push (.comma s.index)) more hrest
  case other => exact ite_followedBy more rfl rfl

theorem endNumber_followedBy (scan : NumberScan) (next : Option Char) :
    (s.followedBy more).endNumber scan next = (s.endNumber scan next).map (followedBy more) := by
  unfold endNumber
  refine ite_followedBy more rfl ?_
  cases NumberLiteral.evaluate scan.literal.reverse (scan.sign == some .subtract) <;> rfl

theorem scanNumber_followedBy (hrest : s.rest = c :: rest) (scan : NumberScan) :
    (s.followedBy more).scanNumber scan = (s.scanNumber scan).map (followedBy more) := by
  have hcontinue : ∀ scan : NumberScan,
      (s.followedBy more).continueNumber scan c = (s.continueNumber scan c).followedBy more := by
    intro scan
    unfold continueNumber
    rw [advance_followedBy more hrest]
    rfl
  unfold scanNumber
  rw [head?_followedBy more hrest, hrest]
  simp only [List.head?_cons, hcontinue, endNumber_followedBy]
  refine ite_followedBy more rfl (ite_followedBy more ?_ (ite_followedBy more ?_ ?_))
  · exact ite_followedBy more rfl rfl
  · exact ite_followedBy more rfl rfl
  · exact ite_followedBy more rfl rfl

theorem endOperator_followedBy (origin : Nat) (symbol : String) :
    (s.followedBy more).endOperator origin symbol =
      (s.endOperator origin symbol).map (followedBy more) := by
  unfold endOperator
  cases Operator.ofSymbol? symbol with
  | none => rfl
  | some op => exact ite_followedBy more rfl (ite_followedBy more rfl rfl)

theorem scanOperator_followedBy (hrest : s.rest = c :: rest) (origin : Nat) (symbol : String) :
    (s.followedBy more).scanOperator origin symbol =
      (s.scanOperator origin symbol).map (followedBy more) := by
  unfold scanOperator
  rw [head?_followedBy more hrest, hrest, advance_followedBy more hrest]
  exact ite_followedBy more rfl (endOperator_followedBy more origin symbol)

theorem endText_followedBy (origin : Nat) (content : String) :
    (s.followedBy more).endText origin content =
      (s.endText origin content).map (followedBy more) :=
  ite_followedBy more rfl (ite_followedBy more rfl rfl)

theorem scanText_followedBy (hrest : s.rest = c :: rest) (origin : Nat) (quote : Char)
    (content : String) : (s.followedBy more).scanText origin quote content =
      (s.scanText origin quote content).map (followedBy more) := by
  unfold scanText
  rw [head?_followedBy more hrest, hrest, advance_followedBy more hrest]
  exact ite_followedBy more (endText_followedBy more origin content) rfl

theorem scanReference_followedBy (hrest : s.rest = c :: rest) (origin : Nat) (key : String) :
    (s.followedBy more).scanReference origin key =
      (s.scanReference origin key).map (followedBy more) := by
  unfold scanReference
  rw [head?_followedBy more hrest, hrest, advance_followedBy more hrest]
  exact ite_followedBy more (ite_followedBy more rfl rfl) rfl

theorem scanCallName_followedBy (hrest : s.rest = c :: rest) (origin : Nat) (name : String) :
    (s.followedBy more).scanCallName origin name =
      (s.scanCallName origin name).map (followedBy more) := by
  unfold scanCallName
  rw [head?_followedBy more hrest, hrest, advance_followedBy more hrest]
  refine ite_followedBy more (ite_followedBy more rfl rfl) (ite_followedBy more rfl rfl)

theorem scanClose_followedBy (hrest : s.rest = c :: rest) (unclosed : Fault) :
    (s.followedBy more).scanClose unclosed = (s.scanClose unclosed).map (followedBy more) := by
  unfold scanClose
  rw [head?_followedBy more hrest, hrest, advance_followedBy more hrest, List.head?_cons]
  split <;> rfl

/-- A step that sees a character does the same with more text behind. -/
theorem step_followedBy (hrest : s.rest ≠ []) :
    (s.followedBy more).step = s.step.map (followedBy more) := by
  obtain ⟨c, rest, hrest⟩ := List.exists_cons_of_ne_nil hrest
  unfold step
  rw [mode_followedBy]
  cases s.mode with
  | base =>
    dsimp only
    unfold scanBase
    rw [head?_followedBy more hrest, hrest]
    exact scanToken_followedBy more hrest
  | number scan => exact scanNumber_followedBy more hrest scan
  | operator origin symbol => exact scanOperator_followedBy more hrest origin symbol
  | text origin quote content => exact scanText_followedBy more hrest origin quote content
  | reference origin key => exact scanReference_followedBy more hrest origin key
  | callName origin name => exact scanCallName_followedBy more hrest origin name
  | groupClose => exact scanClose_followedBy more hrest .unclosedGroup
  | callClose method => exact scanClose_followedBy more hrest (.uncalledMethod method)
  | complete => rfl

/-! ## Runs with more text behind -/

section

variable {more} {steps : Nat}

/-- No step puts characters back: a mode is never so much nearer to the next character. -/
theorem length_rest_le_of_step (hstep : s.step = .ok t) : t.rest.length ≤ s.rest.length := by
  by_cases hm : s.mode = .complete
  · have hsame : s.step = .ok s := by rw [step, hm]
    rw [hsame] at hstep
    cases hstep
    exact Nat.le_refl _
  · have hsize := size_step hm hstep
    have hrank := s.mode.rank_le
    unfold size at hsize
    omega

theorem length_rest_le_of_after (hafter : after steps s = .ok t) :
    t.rest.length ≤ s.rest.length := by
  induction steps generalizing s with
  | zero =>
    cases hafter
    exact Nat.le_refl _
  | succ steps ih =>
    obtain ⟨u, hstep, hafter⟩ := after_succ hafter
    exact (ih hafter).trans (length_rest_le_of_step hstep)

/-- As long as a scan with more text behind has not come to that text, it goes as it does
without. -/
theorem after_followedBy_iff (hlength : more.length < t.rest.length) :
    after steps (s.followedBy more) = .ok t ↔
      ∃ u, after steps s = .ok u ∧ u.followedBy more = t := by
  induction steps generalizing s with
  | zero => simp [after]
  | succ steps ih =>
    by_cases hrest : s.rest = []
    · -- Nothing but the text behind is left, so neither scan comes to `t`.
      have hmore : (s.followedBy more).rest = more := congrArg (· ++ more) hrest
      constructor
      · intro hafter
        have hle := length_rest_le_of_after hafter
        rw [hmore] at hle
        omega
      · rintro ⟨u, hafter, rfl⟩
        have hle := length_rest_le_of_after hafter
        rw [rest_followedBy, List.length_append] at hlength
        rw [hrest, List.length_nil] at hle
        omega
    · unfold after
      rw [step_followedBy more hrest]
      cases s.step with
      | error fault => simp [Except.map, bind, Except.bind]
      | ok u => exact ih

end

/-! ## The law -/

/-- The scan of the text comes to this state and fails in the next step, and that step sees a
character of the text. -/
structure RefusedAt (text : String) (s : Scanner) (fault : Fault) : Prop where
  reached : ∃ steps, after steps (start text.toList) = .ok s
  sees : s.rest ≠ []
  fails : s.step = .error fault

namespace RefusedAt

variable {text : String}

theorem tokenize_eq (h : RefusedAt text s fault) : tokenize text = .error fault := by
  obtain ⟨steps, hafter⟩ := h.reached
  have hm : s.mode ≠ .complete := by
    intro hm
    have hfails := h.fails
    rw [step, hm] at hfails
    cases hfails
  rw [tokenize_eq_result, result_of_after hafter, result_of_fault hm h.fails]

/-- The text is what has been seen, and what stands behind that. -/
theorem toList_eq (h : RefusedAt text s fault) : text.toList = s.seen ++ s.rest.drop 1 := by
  obtain ⟨steps, hafter⟩ := h.reached
  rw [seen, List.append_assoc, List.take_append_drop]
  exact ((tidy_start text.toList).after hafter).reads.whole

/-- More text behind makes no difference. -/
theorem append (h : RefusedAt text s fault) (more : String) :
    RefusedAt (text ++ more) (s.followedBy more.toList) fault := by
  have hsees := List.length_pos_of_ne_nil h.sees
  constructor
  · obtain ⟨steps, hafter⟩ := h.reached
    refine ⟨steps, ?_⟩
    rw [String.toList_append, ← start_followedBy, after_followedBy_iff]
    · exact ⟨s, hafter, rfl⟩
    · rw [rest_followedBy, List.length_append]
      omega
  · exact List.append_ne_nil_of_left_ne_nil h.sees _
  · rw [step_followedBy more.toList h.sees, h.fails]
    rfl

/-- What has been seen is refused without what stands behind it. -/
theorem exists_seen (h : RefusedAt text s fault) :
    ∃ u, RefusedAt (String.ofList s.seen) u fault := by
  obtain ⟨steps, hafter⟩ := h.reached
  have hsees := List.length_pos_of_ne_nil h.sees
  rw [h.toList_eq, ← start_followedBy, after_followedBy_iff (by rw [List.length_drop]; omega)]
    at hafter
  obtain ⟨u, hafter, hu⟩ := hafter
  have hrest : u.rest ≠ [] := by
    intro hnil
    have hlength := congrArg (·.rest.length) hu
    simp only [rest_followedBy, hnil, List.nil_append, List.length_drop] at hlength
    omega
  refine ⟨u, ⟨steps, ?_⟩, hrest, ?_⟩
  · rw [String.toList_ofList]
    exact hafter
  · have hfails := h.fails
    rw [← hu, step_followedBy _ hrest] at hfails
    cases hstep : u.step with
    | error fault' =>
      rw [hstep] at hfails
      cases hfails
      rfl
    | ok v =>
      rw [hstep] at hfails
      cases hfails

end RefusedAt

/-- The law of early faults. A text that is refused at one of its characters is refused with any
text behind it, in the same step and with the same fault; and so is every other text that begins
with the characters that were seen. -/
theorem tokenize_of_refusedAt {text : String} (h : RefusedAt text s fault) :
    (∀ more, RefusedAt (text ++ more) (s.followedBy more.toList) fault ∧
      tokenize (text ++ more) = .error fault) ∧
    ∀ other : String, s.seen <+: other.toList → tokenize other = .error fault := by
  refine ⟨fun more => ⟨h.append more, (h.append more).tokenize_eq⟩, ?_⟩
  rintro other ⟨behind, hother⟩
  obtain ⟨u, hu⟩ := h.exists_seen
  have heq : other = String.ofList s.seen ++ String.ofList behind := by
    rw [← String.toList_inj, String.toList_append, String.toList_ofList, String.toList_ofList,
      hother]
  rw [heq]
  exact (hu.append _).tokenize_eq

/-- A comma without an argument, found at the parenthesis that ends the arguments. -/
theorem tokenize_of_refusedAt_comma : ∃ s, RefusedAt "$f(1,,2)*3" s (.unexpectedToken ",") ∧
    String.ofList s.seen = "$f(1,,2)" ∧
    tokenize ("$f(1,,2)*3" ++ "-$g(4)") = .error (.unexpectedToken ",") ∧
    tokenize "$f(1,,2)\x7d" = .error (.unexpectedToken ",") := by
  have hrefused : RefusedAt "$f(1,,2)*3"
      ⟨['2', ',', ',', '1', '(', 'f', '$'], [')', '*', '3'], 7,
        [.value ⟨6, "2"⟩ (.number ⟨2, 0⟩), .comma ⟨5, ","⟩, .comma ⟨4, ","⟩,
          .value ⟨3, "1"⟩ (.number ⟨1, 0⟩)],
        [⟨.call "f", 0, []⟩], .base⟩ (.unexpectedToken ",") :=
    ⟨⟨11, rfl⟩, List.cons_ne_nil _ _, rfl⟩
  obtain ⟨hbehind, hother⟩ := tokenize_of_refusedAt hrefused
  exact ⟨_, hrefused, rfl, (hbehind "-$g(4)").2, hother "$f(1,,2)\x7d" ⟨['\x7d'], rfl⟩⟩

end Formulary.Scanner
