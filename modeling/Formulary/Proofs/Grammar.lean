-- The scan reads the formulas of the syntax and no others: every text that it accepts is
-- written by the syntax.
import Formulary.Proofs.RoundTrip

namespace Formulary

open String (utf8Len)
open Scanner

namespace Written

/-! ## Slots -/

/-- What stands between two commas of a call, or before or behind the only one. The scan sees
that a level is missing there when the call closes, and not before. -/
inductive Slot
  | empty (blanks : Blanks)
  | level (p : Padded)

/-- Slots with commas between them. -/
inductive Slots
  | last (slot : Slot)
  | more (slot : Slot) (rest : Slots)

def Slot.chars : Slot → List Char
  | .empty blanks => blanks.chars
  | .level p => p.chars

def Slots.chars : Slots → List Char
  | .last slot => slot.chars
  | .more slot rest => slot.chars ++ ',' :: rest.chars

def Slot.nodes (start : Nat) : Slot → List Node
  | .empty _ => []
  | .level p => p.nodes start

def Slots.joined (start : Nat) : Slots → List Node
  | .last slot => slot.nodes start
  | .more slot rest =>
    slot.nodes start ++ .comma (start + utf8Len slot.chars) ::
      rest.joined (start + utf8Len slot.chars + 1)

theorem Padded.isComma_nodes (p : Padded) (start : Nat) : ∀ node ∈ p.nodes start,
    node.isComma = false := by
  cases p
  exact Level.isComma_nodes _ _

theorem Slot.isComma_nodes (s : Slot) (start : Nat) : ∀ node ∈ s.nodes start,
    node.isComma = false := by
  cases s with
  | empty _ => nofun
  | level p => exact p.isComma_nodes start

end Written

namespace Scanner

open Written

variable {read rest : List Char} {nodes : List Node} {frames : List Frame}

/-- A run that makes an argument is not empty. -/
theorem ne_nil_of_argument {s : Scanner} {run : List Node} {node : Node}
    (h : s.argument run = .ok node) : run ≠ [] := by
  rintro rfl
  cases h

theorem mapM_cons_eq_ok {s : Scanner} {run : List Node} {runs : List (List Node)}
    {params : List Node} (h : (run :: runs).mapM s.argument = .ok params) :
    run ≠ [] ∧ ∃ params', runs.mapM s.argument = .ok params' := by
  rw [List.mapM_cons] at h
  cases hrun : s.argument run with
  | error fault =>
    rw [hrun] at h
    cases h
  | ok node =>
    rw [hrun] at h
    refine ⟨ne_nil_of_argument hrun, ?_⟩
    cases hruns : runs.mapM s.argument with
    | error fault =>
      rw [hruns] at h
      cases h
    | ok params' => exact ⟨params', rfl⟩

/-- Slots that all make arguments are levels. -/
theorem exists_levels_of_mapM {s : Scanner} : ∀ (slots : Slots) {start : Nat} {params : List Node},
    (splitCommas (slots.joined start)).mapM s.argument = .ok params →
    ∃ levels : Levels, levels.chars = slots.chars
  | .last slot, start, params, h => by
    simp only [Slots.joined] at h
    rw [splitCommas_run (slot.isComma_nodes start)] at h
    cases slot with
    | empty blanks => exact absurd rfl (mapM_cons_eq_ok h).1
    | level p => exact ⟨.last p, rfl⟩
  | .more slot rest, start, params, h => by
    simp only [Slots.joined] at h
    rw [splitCommas_append (slot.isComma_nodes start)] at h
    obtain ⟨hne, params', hrest⟩ := mapM_cons_eq_ok h
    obtain ⟨levels, hlevels⟩ := exists_levels_of_mapM rest hrest
    cases slot with
    | empty blanks => exact absurd rfl hne
    | level p => exact ⟨.more p levels, by rw [Levels.chars, hlevels]; rfl⟩

/-- Slots that make the arguments of a call are its arguments: levels, or nothing at all. -/
theorem exists_arguments_of_slots {s : Scanner} (slots : Slots) {start : Nat}
    {params : List Node} (h : s.arguments (slots.joined start) = .ok params) :
    ∃ args : Arguments, args.chars = slots.chars := by
  unfold Scanner.arguments at h
  cases hempty : (slots.joined start).isEmpty with
  | true =>
    rw [List.isEmpty_iff] at hempty
    cases slots with
    | last slot =>
      cases slot with
      | empty blanks => exact ⟨.none blanks, rfl⟩
      | level p => exact ⟨.some (.last p), rfl⟩
    | more slot rest => exact absurd hempty (by simp [Slots.joined])
  | false =>
    rw [hempty, if_neg Bool.false_ne_true] at h
    obtain ⟨levels, hlevels⟩ := exists_levels_of_mapM slots h
    exact ⟨.some levels, hlevels⟩

/-- The scan goes over a slot, whether there is a level in it or not. -/
theorem result_slot (slot : Slot) (hopens : (place nodes frames).opens = true)
    (hcloses : Closes rest) :
    (between read (slot.chars ++ rest) nodes frames).result =
      (between (slot.chars.reverse ++ read) rest ((slot.nodes (utf8Len read)).reverse ++ nodes)
        frames).result := by
  cases slot with
  | empty blanks => exact result_blanks blanks.blank
  | level p => exact result_padded p hopens hcloses

/-! ## The ends of a level -/

theorem exists_begins_of_result {c : Char} {r : List Node}
    (h : (between read (c :: rest) nodes frames).result = .ok r) :
    ∃ t, Begins (between read (c :: rest) nodes frames) c t := by
  obtain ⟨t, hstep, -⟩ := exists_step_of_result (fun h => by cases h) h
  exact ⟨t, begins_of_scanToken hstep⟩

/-- Neither a parenthesis that closes nor a comma begins a token of another kind. -/
theorem leave_or_comma_of_begins {s t : Scanner} {c : Char} (h : Begins s c t)
    (hc : c = ')' ∨ c = ',') :
    c = ')' ∧ s.frames ≠ [] ∧ s.isBehind .operator = false ∧
        (s.inGroup = true → s.isFirst = false) ∧ s.leave = .ok t ∨
      c = ',' ∧ s.inCall = true ∧ s.isBehind .operator = false := by
  cases h with
  | leave hclose hframes hbehind hgroup hleave =>
    exact .inl ⟨hclose, hframes, hbehind, hgroup, hleave⟩
  | comma hcomma hcall hbehind => exact .inr ⟨hcomma, hcall, hbehind⟩
  | space h => rcases hc with rfl | rfl <;> exact absurd h (by decide)
  | group h => rcases hc with rfl | rfl <;> exact absurd h (by decide)
  | number h => rcases hc with rfl | rfl <;> exact absurd h (by decide)
  | operator h => rcases hc with rfl | rfl <;> exact absurd h (by decide)
  | text h => rcases hc with rfl | rfl <;> exact absurd h (by decide)
  | reference h => rcases hc with rfl | rfl <;> exact absurd h (by decide)
  | callName h => rcases hc with rfl | rfl <;> exact absurd h (by decide)

/-- A parenthesis that closes stands inside an owner, and never behind an operator. -/
theorem leave_of_result {r : List Node}
    (h : (between read (')' :: rest) nodes frames).result = .ok r) :
    frames ≠ [] ∧ (place nodes frames).isBehind .operator = false ∧
      ((place nodes frames).inGroup = true → nodes ≠ []) ∧
      ∃ t, Leaves (between read (')' :: rest) nodes frames) t := by
  obtain ⟨t, hbegins⟩ := exists_begins_of_result h
  rcases leave_or_comma_of_begins hbegins (.inl rfl) with
    ⟨-, hframes, hbehind, hgroup, hleave⟩ | ⟨hcomma, -⟩
  · refine ⟨hframes, hbehind, ?_, t, leave_eq_ok_iff.mp hleave⟩
    intro hin
    have := hgroup hin
    simpa [isFirst, amid] using this
  · exact absurd hcomma (by decide)

/-- A comma stands inside a call, and never behind an operator. -/
theorem comma_of_result {r : List Node}
    (h : (between read (',' :: rest) nodes frames).result = .ok r) :
    (place [] frames).inCall = true ∧ (place nodes frames).isBehind .operator = false := by
  obtain ⟨t, hbegins⟩ := exists_begins_of_result h
  rcases leave_or_comma_of_begins hbegins (.inr rfl) with ⟨hclose, -⟩ | ⟨-, hcall, hbehind⟩
  · exact absurd hclose (by decide)
  · exact ⟨hcall, hbehind⟩

/-- The level inside a group is not empty and ends with the parenthesis of the group. -/
theorem exists_level_of_group {slot : Slot} {origin : Nat} {outer r : List Node}
    (hcloses : Closes rest)
    (h : (between read (slot.chars ++ rest) [] (⟨.group, origin, outer⟩ :: frames)).result =
      .ok r) : ∃ p more, slot = .level p ∧ rest = ')' :: more := by
  rw [result_slot slot rfl hcloses] at h
  cases rest with
  | nil => exact absurd (end_of_result h).1 (List.cons_ne_nil _ _)
  | cons c more =>
    rcases hcloses c rfl with rfl | rfl
    · have hne := (leave_of_result h).2.2.1 rfl
      cases slot with
      | empty blanks => exact absurd rfl hne
      | level p => exact ⟨p, more, rfl, rfl⟩
    · cases (comma_of_result h).1

/-- The level of a whole text is not empty and ends with the text. -/
theorem exists_level_of_top {slot : Slot} {r : List Node} (hcloses : Closes rest)
    (h : (between read (slot.chars ++ rest) [] []).result = .ok r) :
    ∃ p, slot = .level p ∧ rest = [] := by
  rw [result_slot slot rfl hcloses] at h
  cases rest with
  | nil =>
    have hne := (end_of_result h).2.1
    cases slot with
    | empty blanks => exact absurd rfl hne
    | level p => exact ⟨p, rfl, rfl⟩
  | cons c more =>
    rcases hcloses c rfl with rfl | rfl
    · exact absurd rfl (leave_of_result h).1
    · cases (comma_of_result h).1

/-! ## What stands where an operand may stand -/

/-- Where an operand may stand, no operator may. -/
theorem isBehind_operandTypes_of_expects (h : (place nodes frames).expectsOperand = true) :
    (place nodes frames).isBehind operandTypes = false := by
  cases nodes with
  | nil => rfl
  | cons node more =>
    have hnode : node.isOperator = true ∨ node.isComma = true := by
      by_contra hnot
      simp only [not_or, Bool.not_eq_true] at hnot
      rw [expectsOperand_cons hnot.1 hnot.2] at h
      cases h
    rw [isBehind_cons]
    cases node with
    | operator _ _ => simp only [Node.type]; decide
    | comma _ => simp only [Node.type]; decide
    | _ => rcases hnode with h | h <;> cases h

/-- What the scan may find where an operand may stand: an operand, a text where a level begins,
or the end of a level. -/
inductive Found (nodes : List Node) (frames : List Frame) (rest : List Char) : Prop
  | operand {signed : Bool} (o : Operand signed) (more : List Char) :
      rest = o.chars ++ more → EndsOperand more o → Found nodes frames rest
  | text (t : Quoted) (more : List Char) :
      rest = t.chars ++ more → (place nodes frames).opens = true → Found nodes frames rest
  | close : Closes rest → (place nodes frames).isBehind .operator = false →
      Found nodes frames rest

/-- A number with a sign, or an operator that has no place here. -/
theorem found_of_operator {c : Char} {r : List Node} (hc : isOperatorChar c = true)
    (hexpects : (place nodes frames).expectsOperand = true)
    (h : (between read (c :: rest) nodes frames).result = .ok r) :
    Found nodes frames (c :: rest) := by
  obtain ⟨op, more, hsplit, hmore, hop⟩ := exists_operator_of_result hc h
  rcases hop with ⟨hsign, -⟩ | hbehind
  · rw [hsplit] at h ⊢
    obtain ⟨n, more', -, hn, hends⟩ := exists_signed_of_result hsign hmore hexpects h
    exact .operand (.number n) more' hn hends
  · rw [isBehind_operandTypes_of_expects hexpects] at hbehind
    cases hbehind

/-! ## What stands behind an operand or a text -/

/-- Where no operand may stand, the level ends, or an operator follows an operand. -/
theorem closes_or_operator_of_result {r : List Node}
    (hhead : ∀ c ∈ rest.head?, Text.isBlank c = false)
    (hexpects : (place nodes frames).expectsOperand = false)
    (h : (between read rest nodes frames).result = .ok r) :
    Closes rest ∨ (place nodes frames).isBehind operandTypes = true ∧
      ∃ (op : Operator) (more : List Char), rest = op.symbol.toList ++ more ∧
        EndsOperator more := by
  have hnot : ¬ (place nodes frames).expectsOperand = true := by
    rw [hexpects]
    exact Bool.false_ne_true
  rcases rest with _ | ⟨c, rest⟩
  · exact .inl nofun
  · obtain ⟨t, hbegins⟩ := exists_begins_of_result h
    cases hbegins with
    | space hc =>
      rw [hhead c rfl] at hc
      cases hc
    | leave hc _ _ _ _ => exact .inl (closes_cons (.inl hc))
    | comma hc _ _ => exact .inl (closes_cons (.inr hc))
    | operator hc =>
      obtain ⟨op, more, hsplit, hmore, hop⟩ := exists_operator_of_result hc h
      rcases hop with ⟨-, he⟩ | hbehind
      · exact absurd he hnot
      · exact .inr ⟨hbehind, op, more, hsplit, hmore⟩
    | text hc hbehind =>
      obtain ⟨-, -, -, hopens⟩ := exists_text_of_result hc hbehind h
      exact absurd (expectsOperand_iff.mpr (.inl hopens)) hnot
    | group _ he => exact absurd he hnot
    | number _ he => exact absurd he hnot
    | reference _ he => exact absurd he hnot
    | callName _ he => exact absurd he hnot

/-- Blanks are passed over, and what follows them is not one. -/
theorem exists_blanks_of_result {r : List Node}
    (h : (between read rest nodes frames).result = .ok r) :
    ∃ (blanks : Blanks) (more : List Char), rest = blanks.chars ++ more ∧
      (∀ c ∈ more.head?, Text.isBlank c = false) ∧
      (between (blanks.chars.reverse ++ read) more nodes frames).result = .ok r := by
  obtain ⟨run, more, rfl, hrun, hmore⟩ := exists_run Text.isBlank rest
  exact ⟨⟨run, hrun⟩, more, rfl, hmore, result_blanks hrun ▸ h⟩

/-- Behind a text the level ends. -/
theorem closes_of_text {span : Span} {text : String} {r : List Node}
    (h : (between read rest (.value span (.text text) :: nodes) frames).result = .ok r) :
    ∃ (after : Blanks) (more : List Char), rest = after.chars ++ more ∧ Closes more := by
  obtain ⟨after, more, rfl, hhead, hmore⟩ := exists_blanks_of_result h
  refine ⟨after, more, rfl, ?_⟩
  rcases closes_or_operator_of_result hhead (expectsOperand_cons rfl rfl) hmore with
    hcloses | ⟨hbehind, -⟩
  · exact hcloses
  · rw [isBehind_cons] at hbehind
    exact absurd hbehind (by simp only [Node.type, Value.type]; decide)

/-- The blanks between an operator and a number with a sign. -/
theorem apart_of_endsOperator {signed : Bool} {after : Blanks} {operand : Operand signed}
    (h : EndsOperator (after.chars ++ (operand.chars ++ rest))) :
    signed = true → after.chars ≠ [] := by
  intro hsigned hnil
  rw [hnil, List.nil_append] at h
  cases operand with
  | number n =>
    obtain ⟨op, hop⟩ := Option.isSome_iff_exists.mp hsigned
    obtain ⟨hne, hchars⟩ := symbol_chars op
    obtain ⟨c, cs, hsymbol⟩ := List.exists_cons_of_ne_nil hne
    have hc := h c (by simp [Operand.chars, Numeral.chars, hop, signChars, hsymbol])
    rw [hchars c (by rw [hsymbol]; exact List.mem_cons_self)] at hc
    cases hc
  | _ => cases hsigned

theorem operand_chars_pos : ∀ {signed : Bool} (o : Operand signed), 0 < o.chars.length
  | _, .number n => by
    obtain ⟨l, hl⟩ := exists_read?_of_evaluate n.reads
    have := List.length_pos_of_ne_nil (ne_nil_of_read? hl)
    rw [Operand.chars, Numeral.chars, List.length_append]
    omega
  | _, .reference _ => Nat.succ_pos _
  | _, .group _ => Nat.succ_pos _
  | _, .call _ _ => Nat.succ_pos _

/-- What a call makes of its slots when it closes. -/
theorem exists_arguments_of_leaves {slots : Slots} {start origin : Nat} {method : String}
    {outer : List Node} {t : Scanner}
    (h : Leaves (between read rest ((slots.joined start).reverse ++ [])
      (⟨.call method, origin, outer⟩ :: frames)) t) :
    ∃ args : Arguments, args.chars = slots.chars := by
  cases h with
  | group hf => cases hf
  | call hf hparams =>
    rw [between, amid, List.append_nil, List.reverse_reverse] at hparams
    exact exists_arguments_of_slots slots hparams

/-! ## The grammar of the scan -/

mutual

theorem found_of_result : ∀ (rest : List Char) {read : List Char} {nodes r : List Node}
    {frames : List Frame}, (∀ c ∈ rest.head?, Text.isBlank c = false) →
    (place nodes frames).expectsOperand = true →
    (between read rest nodes frames).result = .ok r → Found nodes frames rest
  | [], _, _, _, _, _, _, h => .close nofun (end_of_result h).2.2
  | c :: rest, read, nodes, r, frames, hhead, hexpects, h => by
    obtain ⟨t, hbegins⟩ := exists_begins_of_result h
    cases hbegins with
    | space hc =>
      rw [hhead c rfl] at hc
      cases hc
    | group hc _ =>
      subst hc
      rw [result_group_open hexpects] at h
      obtain ⟨slot, more, hsplit, hcloses⟩ := exists_slot_of_result rest rfl h
      rw [hsplit] at h
      obtain ⟨p, more', rfl, rfl⟩ := exists_level_of_group hcloses h
      exact .operand (.group p) more' (by simp [hsplit, Operand.chars, Slot.chars]) trivial
    | leave hc _ hbehind _ _ => exact .close (closes_cons (.inl hc)) hbehind
    | number hc _ =>
      obtain ⟨n, more, -, hsplit, hends⟩ := exists_numeral_of_result hc hexpects h
      exact .operand (.number n) more hsplit hends
    | operator hc => exact found_of_operator hc hexpects h
    | text hc hbehind =>
      obtain ⟨t, more, hsplit, hopens⟩ := exists_text_of_result hc hbehind h
      exact .text t more hsplit hopens
    | reference hc _ =>
      subst hc
      obtain ⟨key, more, hsplit⟩ := exists_reference_of_result hexpects h
      exact .operand (.reference key) more hsplit trivial
    | callName hc _ =>
      subst hc
      obtain ⟨name, more, hsplit⟩ := exists_call_open_of_result hexpects h
      rw [hsplit, result_call_open name hexpects] at h
      obtain ⟨slots, more', hmore, hslots⟩ := exists_slots_of_result more rfl rfl h
      obtain ⟨-, -, -, u, hleave⟩ := leave_of_result hslots
      obtain ⟨args, hargs⟩ := exists_arguments_of_leaves hleave
      exact .operand (.call name args) more'
        (by simp [hsplit, hmore, hargs, Operand.chars]) trivial
    | comma hc _ hbehind => exact .close (closes_cons (.inr hc)) hbehind
termination_by rest => 3 * rest.length
decreasing_by
  · simp only [List.length_cons]
    omega
  · have hlength := congrArg List.length hsplit
    simp only [List.length_cons, List.length_append] at hlength ⊢
    omega

/-- A level, or nothing but blanks, up to where the level ends. -/
theorem exists_slot_of_result (rest : List Char) {read : List Char} {nodes r : List Node}
    {frames : List Frame} (hopens : (place nodes frames).opens = true)
    (h : (between read rest nodes frames).result = .ok r) :
    ∃ (slot : Slot) (more : List Char), rest = slot.chars ++ more ∧ Closes more := by
  obtain ⟨before, found, hsplit, hhead, hfound⟩ := exists_blanks_of_result h
  have hexpects := expectsOperand_iff.mpr (.inl hopens)
  cases found_of_result found hhead hexpects hfound with
  | operand o more hmore hends =>
    rw [hmore, result_operand o hexpects hends] at hfound
    obtain ⟨tail, after, more', hrest, hcloses⟩ := exists_tail_of_result more
      (expectsOperand_operand o) (o.accepts_node _) hfound
    exact ⟨.level (.mk before (.chain o tail) after), more',
      by simp [hsplit, hmore, hrest, Slot.chars, Padded.chars, Level.chars], hcloses⟩
  | text t more hmore _ =>
    rw [hmore, result_text t hopens] at hfound
    obtain ⟨after, more', hrest, hcloses⟩ := closes_of_text hfound
    exact ⟨.level (.mk before (.text t) after), more',
      by simp [hsplit, hmore, hrest, Slot.chars, Padded.chars, Level.chars], hcloses⟩
  | close hcloses _ => exact ⟨.empty before, found, hsplit, hcloses⟩
termination_by 3 * rest.length + 1
decreasing_by
  · have hlength := congrArg List.length hsplit
    simp only [List.length_append] at hlength
    omega
  · have hlength := congrArg List.length (hsplit.trans (congrArg _ hmore))
    have hpos := operand_chars_pos o
    simp only [List.length_append] at hlength
    omega

/-- The operators of a level up to its end. -/
theorem exists_tail_of_result (rest : List Char) {read : List Char} {nodes r : List Node}
    {frames : List Frame} (hexpects : (place nodes frames).expectsOperand = false)
    (hbehind : (place nodes frames).isBehind operandTypes = true)
    (h : (between read rest nodes frames).result = .ok r) :
    ∃ (tail : Tail) (after : Blanks) (more : List Char),
      rest = tail.chars ++ (after.chars ++ more) ∧ Closes more := by
  obtain ⟨before, found, hsplit, hhead, hfound⟩ := exists_blanks_of_result h
  rcases closes_or_operator_of_result hhead hexpects hfound with
    hcloses | ⟨-, op, more, hop, hmore⟩
  · exact ⟨.nil, before, found, hsplit, hcloses⟩
  · rw [hop, result_operator op hmore hexpects hbehind] at hfound
    obtain ⟨after, right, hafter, hhead', hright⟩ := exists_blanks_of_result hfound
    cases found_of_result right hhead' expectsOperand_operator hright with
    | operand o more' ho hends =>
      rw [ho, result_operand o expectsOperand_operator hends] at hright
      obtain ⟨tail, blanks, more'', hrest, hcloses⟩ := exists_tail_of_result more'
        (expectsOperand_operand o) (o.accepts_node _) hright
      rw [hafter, ho] at hmore
      exact ⟨.more before op after o (apart_of_endsOperator hmore) tail, blanks, more'',
        by simp [hsplit, hop, hafter, ho, hrest, Tail.chars], hcloses⟩
    | text _ _ _ hopens =>
      rw [opens_cons rfl] at hopens
      cases hopens
    | close _ hnot =>
      rw [isBehind_cons, accepts_operator] at hnot
      cases hnot
termination_by 3 * rest.length
decreasing_by
  · have hlength := congrArg List.length
      (hsplit.trans (congrArg _ (hop.trans (congrArg _ hafter))))
    have hpos := List.length_pos_of_ne_nil (symbol_chars op).1
    simp only [List.length_append] at hlength
    omega
  · have hlength := congrArg List.length
      (hsplit.trans (congrArg _ (hop.trans (congrArg _ (hafter.trans (congrArg _ ho))))))
    have hpos := List.length_pos_of_ne_nil (symbol_chars op).1
    simp only [List.length_append] at hlength
    omega

/-- The arguments of a call up to its parenthesis. -/
theorem exists_slots_of_result (rest : List Char) {read : List Char} {nodes r : List Node}
    {frames : List Frame} (hopens : (place nodes frames).opens = true)
    (hcall : (place [] frames).inCall = true)
    (h : (between read rest nodes frames).result = .ok r) :
    ∃ (slots : Slots) (more : List Char), rest = slots.chars ++ ')' :: more ∧
      (between (slots.chars.reverse ++ read) (')' :: more)
        ((slots.joined (utf8Len read)).reverse ++ nodes) frames).result = .ok r := by
  obtain ⟨slot, more, hsplit, hcloses⟩ := exists_slot_of_result rest hopens h
  rw [hsplit, result_slot slot hopens hcloses] at h
  rcases more with _ | ⟨c, more⟩
  · rw [(end_of_result h).1] at hcall
    cases hcall
  · rcases hcloses c rfl with rfl | rfl
    · exact ⟨.last slot, more, hsplit, h⟩
    · rw [result_comma hcall (comma_of_result h).2] at h
      obtain ⟨slots, more', hmore, hslots⟩ := exists_slots_of_result more (opens_comma hcall)
        hcall h
      refine ⟨.more slot slots, more', by simp [hsplit, hmore, Slots.chars], ?_⟩
      have hstart : utf8Len (',' :: (slot.chars.reverse ++ read)) =
          utf8Len read + utf8Len slot.chars + 1 := by
        rw [String.utf8Len_cons, utf8Len_reverse_append]
        rfl
      rw [hstart, utf8Len_reverse_append] at hslots
      simpa only [Slots.chars, Slots.joined, List.reverse_append, List.reverse_cons,
        List.append_assoc, List.cons_append, List.nil_append] using hslots
termination_by 3 * rest.length + 2
decreasing_by
  · omega
  · have hlength := congrArg List.length hsplit
    simp only [List.length_append, List.length_cons] at hlength
    omega

end

end Scanner

/-- A text that is read is written by the syntax. -/
theorem exists_written_of_tokenize {text : String} {nodes : List Node}
    (h : tokenize text = .ok nodes) :
    ∃ p : Written.Padded, text.toList = p.chars ∧ nodes = p.nodes 0 := by
  rw [tokenize_eq_result, start_eq_between] at h
  obtain ⟨slot, more, hsplit, hcloses⟩ := exists_slot_of_result text.toList rfl h
  rw [hsplit] at h
  obtain ⟨p, rfl, rfl⟩ := exists_level_of_top hcloses h
  have hchars : text.toList = p.chars := by rw [hsplit, List.append_nil, Written.Slot.chars]
  rw [← hsplit, hchars, ← start_eq_between, result_start] at h
  exact ⟨p, hchars, (Except.ok.inj h).symm⟩

/-- The law of the grammar: the texts that are read are those that the syntax writes, and the
syntax says what they are read as. -/
theorem tokenize_eq_ok_iff {text : String} {nodes : List Node} :
    tokenize text = .ok nodes ↔
      ∃ p : Written.Padded, text.toList = p.chars ∧ nodes = p.nodes 0 := by
  constructor
  · exact exists_written_of_tokenize
  · rintro ⟨p, hchars, rfl⟩
    rw [tokenize_eq_result, hchars, result_start]

end Formulary
