-- Formulas that end inside parentheses. Where the text ends between tokens, the innermost level
-- that is still open gives the fault: a group is not closed, or a method is not called. What
-- stands inside makes no difference, with one exception: the arguments are told apart before the
-- missing parenthesis is noticed, so a comma that lacks an argument comes first.
import Formulary.Proofs.RoundTrip
import Formulary.Proofs.ScanInvariant

namespace Formulary

/-! ## Commas that lack an argument -/

/-- A comma stands last, or right before another one. -/
inductive CommaBehind : List Node → Prop
  | last (before : List Node) (span : Span) : CommaBehind (before ++ [.comma span])
  | pair (before : List Node) (span next : Span) (after : List Node) :
      CommaBehind (before ++ .comma span :: .comma next :: after)

/-- A comma stands first, or last, or right before another one. -/
inductive StrayComma : List Node → Prop
  | first (span : Span) (after : List Node) : StrayComma (.comma span :: after)
  | behind {nodes : List Node} : CommaBehind nodes → StrayComma nodes

theorem CommaBehind.cons {nodes : List Node} (h : CommaBehind nodes) (node : Node) :
    CommaBehind (node :: nodes) := by
  cases h with
  | last before span => exact .last (node :: before) span
  | pair before span next after => exact .pair (node :: before) span next after

theorem CommaBehind.ne_nil {nodes : List Node} (h : CommaBehind nodes) : nodes ≠ [] := by
  cases h <;> simp

theorem StrayComma.ne_nil {nodes : List Node} (h : StrayComma nodes) : nodes ≠ [] := by
  cases h with
  | first span after => exact List.cons_ne_nil _ _
  | behind h => exact h.ne_nil

namespace Scanner

variable {nodes run : List Node} {runs : List (List Node)}

theorem exists_splitCommas (nodes : List Node) : ∃ run runs, splitCommas nodes = run :: runs :=
  ⟨_, _, rfl⟩

theorem splitCommas_comma (span : Span) (more : List Node) :
    splitCommas (.comma span :: more) = [] :: splitCommas more := rfl

theorem splitCommas_cons_cases (node : Node) (more : List Node) :
    (∃ span, node = .comma span ∧ splitCommas (node :: more) = [] :: splitCommas more) ∨
      ∃ run runs, splitCommas more = run :: runs ∧
        splitCommas (node :: more) = (node :: run) :: runs := by
  obtain ⟨run, runs, hmore⟩ := exists_splitCommas more
  cases hcomma : node.isComma with
  | false => exact .inr ⟨run, runs, hmore, splitCommas_cons hcomma hmore⟩
  | true =>
    cases node with
    | comma span => exact .inl ⟨span, rfl, splitCommas_comma span more⟩
    | _ => cases hcomma

/-- Behind the first run there are the runs that stand behind any of the commas. -/
theorem mem_tail_splitCommas {more : List Node} (span : Span) (h : run ∈ splitCommas more)
    (before : List Node) : run ∈ (splitCommas (before ++ .comma span :: more)).tail := by
  induction before with
  | nil =>
    rw [List.nil_append, splitCommas_comma]
    exact h
  | cons node before ih =>
    rcases splitCommas_cons_cases node (before ++ .comma span :: more) with
      ⟨-, -, hsplit⟩ | ⟨first, runs, hmore, hsplit⟩
    · rw [List.cons_append, hsplit]
      exact List.mem_of_mem_tail ih
    · rw [List.cons_append, hsplit]
      rwa [hmore] at ih

/-- An empty run behind the first one begins behind a comma, and ends there. -/
theorem commaBehind_of_mem_tail : ∀ {nodes : List Node}, [] ∈ (splitCommas nodes).tail →
    CommaBehind nodes
  | [], h => nomatch h
  | node :: more, h => by
    rcases splitCommas_cons_cases node more with ⟨span, rfl, hsplit⟩ | ⟨run, runs, hmore, hsplit⟩
    · rw [hsplit, List.tail_cons] at h
      cases more with
      | nil => exact .last [] span
      | cons next more =>
        rcases splitCommas_cons_cases next more with
          ⟨second, rfl, -⟩ | ⟨run, runs, -, hnext⟩
        · exact .pair [] span second more
        · refine (commaBehind_of_mem_tail ?_).cons _
          rw [hnext] at h ⊢
          exact List.mem_of_ne_of_mem (by simp) h
    · refine (commaBehind_of_mem_tail ?_).cons node
      rw [hsplit] at h
      rwa [hmore]

/-- The arguments lack one exactly where a comma is stray. -/
theorem nil_mem_splitCommas_iff (hne : nodes ≠ []) : [] ∈ splitCommas nodes ↔ StrayComma nodes := by
  constructor
  · intro h
    obtain ⟨node, more, rfl⟩ := List.exists_cons_of_ne_nil hne
    rcases splitCommas_cons_cases node more with ⟨span, rfl, -⟩ | ⟨run, runs, -, hsplit⟩
    · exact .first span more
    · refine .behind (commaBehind_of_mem_tail ?_)
      rw [hsplit] at h ⊢
      exact List.mem_of_ne_of_mem (by simp) h
  · intro h
    cases h with
    | first span after =>
      rw [splitCommas_comma]
      exact List.mem_cons_self
    | behind h =>
      refine List.mem_of_mem_tail ?_
      cases h with
      | last before span => exact mem_tail_splitCommas span (List.mem_singleton_self _) before
      | pair before span next after =>
        refine mem_tail_splitCommas span ?_ before
        rw [splitCommas_comma]
        exact List.mem_cons_self

/-! ## Arguments -/

variable (s : Scanner)

theorem mapM_argument_of_nil_mem (h : [] ∈ runs) :
    runs.mapM s.argument = .error (.unexpectedToken ",") := by
  induction runs with
  | nil => cases h
  | cons run runs ih =>
    rw [List.mapM_cons]
    match run with
    | [] => rfl
    | [node] =>
      have hmem : [] ∈ runs := List.mem_of_ne_of_mem (List.cons_ne_nil node []).symm h
      rw [argument, ok_bind, ih hmem]
      rfl
    | first :: second :: more =>
      have hmem : [] ∈ runs := List.mem_of_ne_of_mem (List.cons_ne_nil first _).symm h
      rw [argument, ok_bind, ih hmem]
      rfl

theorem exists_mapM_argument (h : [] ∉ runs) : ∃ params, runs.mapM s.argument = .ok params := by
  induction runs with
  | nil => exact ⟨[], rfl⟩
  | cons run runs ih =>
    obtain ⟨hrun, hruns⟩ := not_or.mp (mt List.mem_cons.mpr h)
    obtain ⟨params, hparams⟩ := ih hruns
    rw [List.mapM_cons, hparams]
    match run with
    | [] => exact absurd rfl hrun
    | [node] => exact ⟨node :: params, rfl⟩
    | first :: second :: more => exact ⟨_, rfl⟩

/-- A stray comma is a fault, wherever it stands. -/
theorem arguments_of_strayComma (h : StrayComma nodes) :
    s.arguments nodes = .error (.unexpectedToken ",") := by
  have hne : nodes ≠ [] := by
    rintro rfl
    exact h.ne_nil rfl
  have hempty : ¬ nodes.isEmpty = true := by simpa using hne
  exact (if_neg hempty).trans (mapM_argument_of_nil_mem s ((nil_mem_splitCommas_iff hne).mpr h))

/-- Without one there are arguments, or none at all. -/
theorem exists_arguments (h : ¬ StrayComma nodes) : ∃ params, s.arguments nodes = .ok params := by
  unfold arguments
  split
  · exact ⟨[], rfl⟩
  · rename_i hempty
    rw [List.isEmpty_iff] at hempty
    exact exists_mapM_argument s (mt (nil_mem_splitCommas_iff hempty).mp h)

/-! ## Scans under way -/

/-- The state after so many more steps, unless one of them fails. -/
def after : Nat → Scanner → Except Fault Scanner
  | 0, s => .ok s
  | steps + 1, s => do after steps (← s.step)

variable {s} {t : Scanner} {steps : Nat}

theorem after_succ (h : after (steps + 1) s = .ok t) :
    ∃ u, s.step = .ok u ∧ after steps u = .ok t := exists_of_bind_eq_ok h

theorem result_of_after (h : after steps s = .ok t) : s.result = t.result := by
  induction steps generalizing s with
  | zero =>
    cases h
    rfl
  | succ steps ih =>
    obtain ⟨u, hstep, hrest⟩ := after_succ h
    rw [← ih hrest]
    by_cases hm : s.mode = .complete
    · have hsame : s.step = .ok s := by rw [step, hm]
      rw [hsame] at hstep
      cases hstep
      rfl
    · exact result_of_step hm hstep

theorem Tidy.after {text : List Char} (h : Tidy text s) (hafter : after steps s = .ok t) :
    Tidy text t := by
  induction steps generalizing s with
  | zero =>
    cases hafter
    exact h
  | succ steps ih =>
    obtain ⟨u, hstep, hrest⟩ := after_succ hafter
    exact ih (h.step hstep) hrest

/-! ## The end of the text inside parentheses -/

/-- The scan of the text comes to its end between tokens, where these levels are open. -/
structure LeftOpen (text : String) (s : Scanner) (innermost : Frame) (around : List Frame) :
    Prop where
  reached : ∃ steps, after steps (start text.toList) = .ok s
  rest : s.rest = []
  mode : s.mode = .base
  frames : s.frames = innermost :: around

namespace LeftOpen

variable {text method : String} {innermost : Frame} {around : List Frame}

theorem tidy (h : LeftOpen text s innermost around) : Tidy text.toList s := by
  obtain ⟨steps, hafter⟩ := h.reached
  exact (tidy_start text.toList).after hafter

theorem mode_ne (h : LeftOpen text s innermost around) : s.mode ≠ .complete := by
  simp [h.mode]

/-- At the end of the text the innermost level is left. -/
theorem step_eq (h : LeftOpen text s innermost around) : s.step = s.leave := by
  rw [step, h.mode]
  change s.scanBase = s.leave
  rw [scanBase, h.rest]
  change s.scanEnd = s.leave
  rw [scanEnd, h.frames]
  rfl

theorem tokenize_eq (h : LeftOpen text s innermost around) : tokenize text = s.result := by
  obtain ⟨steps, hafter⟩ := h.reached
  rw [tokenize_eq_result, result_of_after hafter]

/-- A level that is left cannot be closed any more. -/
theorem tokenize_of_leave (h : LeftOpen text s innermost around) {t : Scanner} {fault : Fault}
    (hleave : s.leave = .ok t) (hm : t.mode ≠ .complete) (hstep : t.step = .error fault) :
    tokenize text = .error fault := by
  rw [h.tokenize_eq, result_of_step h.mode_ne (h.step_eq.trans hleave), result_of_fault hm hstep]

theorem tokenize_group (h : LeftOpen text s innermost around)
    (howner : innermost.owner = .group) : tokenize text = .error .unclosedGroup := by
  obtain ⟨owner, origin, before⟩ := innermost
  cases howner
  have hleave := leave_eq_ok_iff.mpr (Leaves.group h.frames)
  refine h.tokenize_of_leave hleave nofun ?_
  change scanClose _ _ = _
  unfold scanClose
  dsimp only
  rw [h.rest]
  rfl

theorem tokenize_call (h : LeftOpen text s innermost around)
    (howner : innermost.owner = .call method) (hcommas : ¬ StrayComma s.nodes.reverse) :
    tokenize text = .error (.uncalledMethod method) := by
  obtain ⟨owner, origin, before⟩ := innermost
  cases howner
  obtain ⟨params, hparams⟩ := exists_arguments s hcommas
  have hleave := leave_eq_ok_iff.mpr (Leaves.call h.frames hparams)
  refine h.tokenize_of_leave hleave nofun ?_
  change scanClose _ _ = _
  unfold scanClose
  dsimp only
  rw [h.rest]
  rfl

theorem tokenize_comma (h : LeftOpen text s innermost around)
    (howner : innermost.owner = .call method) (hcommas : StrayComma s.nodes.reverse) :
    tokenize text = .error (.unexpectedToken ",") := by
  have hleave : s.leave = .error (.unexpectedToken ",") := by
    obtain ⟨owner, origin, before⟩ := innermost
    cases howner
    unfold leave
    rw [h.frames]
    dsimp only
    rw [arguments_of_strayComma s hcommas]
    rfl
  rw [h.tokenize_eq, result_of_fault h.mode_ne (h.step_eq.trans hleave)]

end LeftOpen

/-- The law of open levels. The owner of the innermost one stands in the text, and is what the
fault is about: a group is not closed, and a method is not called, unless a comma of its arguments
is stray. -/
theorem tokenize_leftOpen {text : String} {innermost : Frame} {around : List Frame}
    (h : LeftOpen text s innermost around) :
    PieceAt text.toList innermost.origin innermost.owner.opening ∧
      (innermost.owner = .group → tokenize text = .error .unclosedGroup) ∧
      ∀ method, innermost.owner = .call method →
        (¬ StrayComma s.nodes.reverse → tokenize text = .error (.uncalledMethod method)) ∧
          (StrayComma s.nodes.reverse → tokenize text = .error (.unexpectedToken ",")) := by
  obtain ⟨hopening, -⟩ : Nested text.toList (innermost :: around) := h.frames ▸ h.tidy.nested
  exact ⟨hopening, h.tokenize_group, fun method howner =>
    ⟨h.tokenize_call howner, h.tokenize_comma howner⟩⟩

/-- An open argument list inside an open group. -/
theorem tokenize_leftOpen_nested : ∃ s innermost around,
    LeftOpen "(1-$f((2),3" s innermost around ∧ innermost.owner = .call "f" ∧
      ¬ StrayComma s.nodes.reverse ∧
      tokenize "(1-$f((2),3" = .error (.uncalledMethod "f") := by
  have hopen : LeftOpen "(1-$f((2),3"
      ⟨['3', ',', ')', '2', '(', '(', 'f', '$', '-', '1', '('], [], 11,
        [.value ⟨10, "3"⟩ (.number ⟨3, 0⟩), .comma ⟨9, ","⟩,
          .group ⟨6, "(2)"⟩ [.value ⟨7, "2"⟩ (.number ⟨2, 0⟩)]],
        [⟨.call "f", 3, [.operator ⟨2, "-"⟩ .subtract, .value ⟨1, "1"⟩ (.number ⟨1, 0⟩)]⟩,
          ⟨.group, 0, []⟩], .base⟩
      ⟨.call "f", 3, [.operator ⟨2, "-"⟩ .subtract, .value ⟨1, "1"⟩ (.number ⟨1, 0⟩)]⟩
      [⟨.group, 0, []⟩] := ⟨⟨20, rfl⟩, rfl, rfl, rfl⟩
  have hcommas : ¬ StrayComma [.group ⟨6, "(2)"⟩ [.value ⟨7, "2"⟩ (.number ⟨2, 0⟩)],
      .comma ⟨9, ","⟩, .value ⟨10, "3"⟩ (.number ⟨3, 0⟩)] := by
    rw [← nil_mem_splitCommas_iff (List.cons_ne_nil _ _)]
    simp [splitCommas, Node.isComma]
  exact ⟨_, _, _, hopen, rfl, hcommas, ((tokenize_leftOpen hopen).2.2 "f" rfl).1 hcommas⟩

/-- Not every open argument list is blamed on its method: the comma that waits for the next
argument is. -/
theorem not_every_list_named : tokenize "$add(1," = .error (.unexpectedToken ",") ∧
    ¬ ∀ (text method : String) (s : Scanner) (innermost : Frame) (around : List Frame),
      LeftOpen text s innermost around → innermost.owner = .call method →
        tokenize text = .error (.uncalledMethod method) := by
  have hcomma : tokenize "$add(1," = .error (.unexpectedToken ",") := rfl
  have hopen : LeftOpen "$add(1," ⟨[',', '1', '(', 'd', 'd', 'a', '$'], [], 7,
      [.comma ⟨6, ","⟩, .value ⟨5, "1"⟩ (.number ⟨1, 0⟩)], [⟨.call "add", 0, []⟩], .base⟩
      ⟨.call "add", 0, []⟩ [] := ⟨⟨9, rfl⟩, rfl, rfl, rfl⟩
  refine ⟨hcomma, fun hall => ?_⟩
  have hnamed := hall _ _ _ _ _ hopen rfl
  rw [hcomma] at hnamed
  cases hnamed

end Scanner

end Formulary
