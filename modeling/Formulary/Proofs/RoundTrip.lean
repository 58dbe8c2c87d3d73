-- What is written is read again: the scan of a formula gives its nodes, whatever blanks
-- stand between its tokens.
import Formulary.Proofs.Numerals

namespace Formulary

open String (utf8Len)
open Scanner

/-! ## Positions -/

/-- Reading goes on behind what has been read. -/
@[simp] theorem utf8Len_reverse_append (piece read : List Char) :
    utf8Len (piece.reverse ++ read) = utf8Len read + utf8Len piece := by
  rw [String.utf8Len_append, String.utf8Len_reverse, Nat.add_comm]

namespace Written

variable {signed : Bool} {start : Nat}

theorem Operand.node_span : ∀ {signed : Bool} (o : Operand signed) (start : Nat),
    (o.node start).span = ⟨start, String.ofList o.chars⟩
  | _, .number _, _ => rfl
  | _, .reference _, _ => rfl
  | _, .group _, _ => rfl
  | _, .call _ _, _ => rfl

theorem Operand.node_stop (o : Operand signed) (start : Nat) :
    (o.node start).span.stop = start + utf8Len o.chars := by
  rw [Span.stop, Operand.node_span, String.utf8ByteSize_ofList]

/-- An operand is an operand to the operators behind it. -/
theorem Operand.accepts_node : ∀ {signed : Bool} (o : Operand signed) (start : Nat),
    operandTypes.accepts (o.node start).type = true
  | _, .number _, _ => by simp only [Operand.node, Node.type, Value.type]; decide
  | _, .reference _, _ => by simp only [Operand.node, Node.type]; decide
  | _, .group _, _ => by simp only [Operand.node, Node.type]; decide
  | _, .call _ _, _ => by simp only [Operand.node, Node.type]; decide

theorem Operand.isOperator_node : ∀ {signed : Bool} (o : Operand signed) (start : Nat),
    (o.node start).isOperator = false
  | _, .number _, _ => rfl
  | _, .reference _, _ => rfl
  | _, .group _, _ => rfl
  | _, .call _ _, _ => rfl

theorem Operand.isComma_node : ∀ {signed : Bool} (o : Operand signed) (start : Nat),
    (o.node start).isComma = false
  | _, .number _, _ => rfl
  | _, .reference _, _ => rfl
  | _, .group _, _ => rfl
  | _, .call _ _, _ => rfl

theorem Tail.isComma_nodes : ∀ (t : Tail) (start : Nat), ∀ node ∈ t.nodes start,
    node.isComma = false
  | .nil, _, _, h => by simp [Tail.nodes] at h
  | .more before op after operand apart rest, start, node, h => by
    simp only [Tail.nodes, List.mem_cons] at h
    rcases h with rfl | rfl | h
    · rfl
    · exact operand.isComma_node _
    · exact Tail.isComma_nodes rest _ node h

theorem Level.isComma_nodes (l : Level) (start : Nat) : ∀ node ∈ l.nodes start,
    node.isComma = false := by
  intro node h
  cases l with
  | text t =>
    simp only [Level.nodes, List.mem_singleton] at h
    exact h ▸ rfl
  | chain first rest =>
    simp only [Level.nodes, List.mem_cons] at h
    rcases h with rfl | h
    · exact first.isComma_node start
    · exact rest.isComma_nodes _ node h

theorem Level.nodes_ne_nil (l : Level) (start : Nat) : l.nodes start ≠ [] := by
  cases l <;> exact List.cons_ne_nil _ _

/-- The operators of a level end where their text ends. -/
theorem Tail.getLast?_stop : ∀ (t : Tail) (start : Nat), t.nodes start ≠ [] →
    (t.nodes start).getLast?.map (·.span.stop) = some (start + utf8Len t.chars)
  | .nil, _, h => absurd rfl h
  | .more before op after operand apart rest, start, _ => by
    have hrest := Tail.getLast?_stop rest
      (start + utf8Len before.chars + utf8Len op.symbol.toList + utf8Len after.chars +
        utf8Len operand.chars)
    simp only [Tail.nodes, Tail.chars, String.utf8Len_append, List.getLast?_cons_cons]
    cases hnodes : rest.nodes (start + utf8Len before.chars + utf8Len op.symbol.toList +
        utf8Len after.chars + utf8Len operand.chars) with
    | nil =>
      have hnil : utf8Len rest.chars = 0 := by
        cases rest with
        | nil => rfl
        | more _ _ _ _ _ _ => cases hnodes
      simp only [List.getLast?_singleton, Option.map_some, Operand.node_stop, hnil]
      congr 1
      omega
    | cons node nodes =>
      rw [hnodes] at hrest
      rw [List.getLast?_cons_cons, hrest (List.cons_ne_nil _ _)]
      congr 1
      omega

/-! ## Arguments -/

/-- The nodes between the parentheses of a call, before they are handed to it. -/
def Levels.joined (start : Nat) : Levels → List Node
  | .last (.mk before level _) => level.nodes (start + utf8Len before.chars)
  | .more (.mk before level after) rest =>
    level.nodes (start + utf8Len before.chars) ++
      .comma (start + utf8Len (Padded.mk before level after).chars) ::
      rest.joined (start + utf8Len (Padded.mk before level after).chars + 1)

end Written

namespace Scanner

open Written

variable {read rest : List Char} {nodes : List Node} {frames : List Frame} {mode : Mode}

theorem splitCommas_cons {node : Node} {more run : List Node} {runs : List (List Node)}
    (h : node.isComma = false) (hmore : splitCommas more = run :: runs) :
    splitCommas (node :: more) = (node :: run) :: runs := by
  unfold splitCommas at hmore ⊢
  simp only [List.cons.injEq] at hmore
  simp [List.foldr_cons, h, hmore.1, hmore.2]

/-- A run without commas is one run. -/
theorem splitCommas_run {run : List Node} (h : ∀ node ∈ run, node.isComma = false) :
    splitCommas run = [run] := by
  induction run with
  | nil => rfl
  | cons node run ih =>
    exact splitCommas_cons (h node List.mem_cons_self)
      (ih fun n hn => h n (List.mem_cons_of_mem _ hn))

/-- A comma ends the run before it. -/
theorem splitCommas_append {run more : List Node} {span : Span}
    (h : ∀ node ∈ run, node.isComma = false) :
    splitCommas (run ++ .comma span :: more) = run :: splitCommas more := by
  induction run with
  | nil => rfl
  | cons node run ih =>
    exact splitCommas_cons (h node List.mem_cons_self)
      (ih fun n hn => h n (List.mem_cons_of_mem _ hn))

/-- The nodes of a level become one argument, which spans the level. -/
theorem argument_level (l : Level) {before after : List Char}
    (h : read = after.reverse ++ (l.chars.reverse ++ before)) :
    (amid read rest nodes frames mode).argument (l.nodes (utf8Len before)) =
      .ok (argumentOf (utf8Len before) l.chars (l.nodes (utf8Len before))) := by
  cases l with
  | text t => rfl
  | chain first tail =>
    simp only [Level.nodes]
    cases hnodes : tail.nodes (utf8Len before + utf8Len first.chars) with
    | nil => rfl
    | cons second more =>
      have hstop := tail.getLast?_stop (utf8Len before + utf8Len first.chars)
        (by rw [hnodes]; exact List.cons_ne_nil _ _)
      rw [hnodes] at hstop
      unfold argument argumentOf
      dsimp only
      rw [hstop, Option.getD_some, first.node_span, Nat.add_assoc, ← String.utf8Len_append]
      exact congrArg (fun text => Except.ok (Node.group ⟨_, text⟩ _)) (textBetween_amid after h)

/-- The arguments of a call, wherever they stand in the text that has been read. -/
theorem mapM_argument_levels : ∀ (levels : Levels) {before after : List Char},
    read = after.reverse ++ (levels.chars.reverse ++ before) →
    (splitCommas (levels.joined (utf8Len before))).mapM
      (amid read rest nodes frames mode).argument = .ok (levels.params (utf8Len before))
  | .last (.mk blanks level blanks'), before, after, h => by
    have hlevel : read = (blanks'.chars ++ after).reverse ++
        (level.chars.reverse ++ (blanks.chars.reverse ++ before)) := by
      simpa [Levels.chars, Padded.chars] using h
    simp only [Levels.joined, Levels.params]
    rw [splitCommas_run (level.isComma_nodes _), List.mapM_cons, ← utf8Len_reverse_append,
      argument_level level hlevel]
    rfl
  | .more (.mk blanks level blanks') levels, before, after, h => by
    have hlevel : read = (blanks'.chars ++ ',' :: levels.chars ++ after).reverse ++
        (level.chars.reverse ++ (blanks.chars.reverse ++ before)) := by
      simpa [Levels.chars, Padded.chars] using h
    have hlevels : read = after.reverse ++ (levels.chars.reverse ++
        (',' :: ((Padded.mk blanks level blanks').chars.reverse ++ before))) := by
      simpa [Levels.chars, Padded.chars] using h
    have hrest := mapM_argument_levels levels hlevels
    have hstart : utf8Len (',' :: ((Padded.mk blanks level blanks').chars.reverse ++ before)) =
        utf8Len before + utf8Len (Padded.mk blanks level blanks').chars + 1 := by
      rw [String.utf8Len_cons, utf8Len_reverse_append]
      rfl
    rw [hstart] at hrest
    simp only [Levels.joined, Levels.params]
    rw [splitCommas_append (level.isComma_nodes _), List.mapM_cons, ← utf8Len_reverse_append,
      argument_level level hlevel, hrest]
    rfl

theorem joined_ne_nil (levels : Levels) (start : Nat) : levels.joined start ≠ [] := by
  cases levels with
  | last level =>
    cases level
    exact Level.nodes_ne_nil _ _
  | more level rest =>
    cases level
    exact List.append_ne_nil_of_left_ne_nil (Level.nodes_ne_nil _ _) _

theorem arguments_levels (levels : Levels) {before : List Char} (after : List Char)
    (h : read = after.reverse ++ (levels.chars.reverse ++ before)) :
    (amid read rest nodes frames mode).arguments (levels.joined (utf8Len before)) =
      .ok (levels.params (utf8Len before)) := by
  have hne : ¬ (levels.joined (utf8Len before)).isEmpty = true := by
    simpa using joined_ne_nil levels _
  exact (if_neg hne).trans (mapM_argument_levels levels h)

/-! ## What may follow -/

/-- A level ends here. -/
def Closes (rest : List Char) : Prop := ∀ c ∈ rest.head?, c = ')' ∨ c = ','

/-- An operand or a text ends here: blanks follow, or the level ends. -/
def EndsToken (rest : List Char) : Prop :=
  ∀ c ∈ rest.head?, Text.isBlank c = true ∨ c = ')' ∨ c = ','

theorem endsToken_blanks (b : Blanks) (h : Closes rest) : EndsToken (b.chars ++ rest) := by
  intro c hc
  cases hb : b.chars with
  | nil =>
    rw [hb] at hc
    exact .inr (h c hc)
  | cons d cs =>
    rw [hb] at hc
    cases hc
    exact .inl (b.blank c (by rw [hb]; exact List.mem_cons_self))

theorem ofChar_ne_of_blank {c d : Char} (h : Text.isBlank c = true)
    (hd : CharClass.ofChar d ≠ .space) : c ≠ d := by
  rintro rfl
  exact hd (CharClass.ofChar_blank h)

theorem EndsToken.endsNumber (h : EndsToken rest) : EndsNumber rest := by
  intro c hc
  rcases h c hc with hb | rfl | rfl
  · refine ⟨?_, ofChar_ne_of_blank hb (by decide), ofChar_ne_of_blank hb (by decide)⟩
    apply CharClass.isDigit_eq_false
    rw [CharClass.ofChar_blank hb]
    decide
  · decide
  · decide

/-- Blanks end an operator. -/
theorem endsOperator_of_blank {c : Char} (h : Text.isBlank c = true) :
    EndsOperator (c :: rest) := by
  intro d hd
  cases hd
  apply CharClass.isOperatorChar_eq_false
  rw [CharClass.ofChar_blank h]
  decide

theorem endsNumber_of_blank {c : Char} (h : Text.isBlank c = true) : EndsNumber (c :: rest) := by
  apply EndsToken.endsNumber
  intro d hd
  cases hd
  exact .inl h

theorem endsNumber_of_operator {c : Char} (h : isOperatorChar c = true) :
    EndsNumber (c :: rest) := by
  intro d hd
  cases hd
  refine ⟨?_, ?_, ?_⟩
  · apply CharClass.isDigit_eq_false
    rw [CharClass.ofChar_operator h]
    decide
  · rintro rfl
    exact absurd h (by decide)
  · rintro rfl
    exact absurd h (by decide)

/-- A number ends before the operators of its level. -/
theorem endsNumber_tail (t : Tail) (h : EndsToken rest) : EndsNumber (t.chars ++ rest) := by
  cases t with
  | nil => exact h.endsNumber
  | more before op after operand apart more =>
    cases hb : before.chars with
    | cons c cs =>
      simp only [Tail.chars, hb, List.cons_append]
      exact endsNumber_of_blank (before.blank c (by rw [hb]; exact List.mem_cons_self))
    | nil =>
      obtain ⟨hne, hop⟩ := symbol_chars op
      obtain ⟨c, cs, hsymbol⟩ := List.exists_cons_of_ne_nil hne
      simp only [Tail.chars, hb, hsymbol, List.nil_append, List.cons_append]
      exact endsNumber_of_operator (hop c (by rw [hsymbol]; exact List.mem_cons_self))

/-- An operator ends before an operand that has no sign. -/
theorem endsOperator_operand : ∀ (o : Operand false), EndsOperator (o.chars ++ rest) := by
  suffices h : ∀ {signed : Bool} (o : Operand signed), signed = false →
      EndsOperator (o.chars ++ rest) from fun o => h o rfl
  intro signed o hsigned
  cases o with
  | number n =>
    have hchars : n.chars = n.literal := by
      rw [Option.isSome_eq_false_iff, Option.isNone_iff_eq_none] at hsigned
      rw [Numeral.chars, hsigned]
      rfl
    rw [Operand.chars, hchars]
    exact endsOperator_literal (exists_read?_of_evaluate n.reads).choose_spec
  | _ =>
    rintro c hc
    cases hc
    decide

/-- An operator ends before its right operand, with blanks between them if there is a sign. -/
theorem endsOperator_after {signed : Bool} (after : Blanks) (operand : Operand signed)
    (apart : signed = true → after.chars ≠ []) :
    EndsOperator (after.chars ++ (operand.chars ++ rest)) := by
  cases hb : after.chars with
  | cons c cs => exact endsOperator_of_blank (after.blank c (by rw [hb]; exact List.mem_cons_self))
  | nil =>
    cases signed with
    | false => exact endsOperator_operand operand
    | true => exact absurd hb (apart rfl)

/-! ## The scan of what is written -/

/-- What an operand asks of the text behind it. -/
def EndsOperand (rest : List Char) : {signed : Bool} → Operand signed → Prop
  | _, .number _ => EndsNumber rest
  | _, .reference _ => True
  | _, .group _ => True
  | _, .call _ _ => True

theorem endsOperand_of_endsNumber (h : EndsNumber rest) :
    ∀ {signed : Bool} (o : Operand signed), EndsOperand rest o
  | _, .number _ => h
  | _, .reference _ => trivial
  | _, .group _ => trivial
  | _, .call _ _ => trivial

/-- What stands behind an operand is not another one. -/
theorem expectsOperand_operand {signed : Bool} (o : Operand signed) {start : Nat} :
    (place (o.node start :: nodes) frames).expectsOperand = false :=
  expectsOperand_cons (o.isOperator_node start) (o.isComma_node start)

theorem expectsOperand_operator {span : Span} {op : Operator} :
    (place (.operator span op :: nodes) frames).expectsOperand = true :=
  expectsOperand_iff.mpr (.inr (accepts_operator _))

/-- A level does not end with an operator. -/
theorem isBehind_operator_tail : ∀ (t : Tail) (start : Nat) {nodes : List Node},
    (place nodes frames).isBehind .operator = false →
    (place ((t.nodes start).reverse ++ nodes) frames).isBehind .operator = false
  | .nil, _, _, h => h
  | .more before op after operand apart more, start, nodes, h => by
    simp only [Tail.nodes, List.reverse_cons, List.append_assoc, List.cons_append,
      List.nil_append]
    refine isBehind_operator_tail more _ ?_
    rw [isBehind_cons, accepts_operator, operand.isOperator_node]

theorem isBehind_operator_level (l : Level) (start : Nat) :
    (place ((l.nodes start).reverse ++ nodes) frames).isBehind .operator = false := by
  cases l with
  | text t => exact accepts_operator _
  | chain first tail =>
    simp only [Level.nodes, List.reverse_cons, List.append_assoc, List.singleton_append]
    refine isBehind_operator_tail tail _ ?_
    rw [isBehind_cons, accepts_operator, first.isOperator_node]

theorem isBehind_operator_padded (p : Padded) (start : Nat) :
    (place ((p.nodes start).reverse ++ nodes) frames).isBehind .operator = false := by
  cases p
  exact isBehind_operator_level _ _

theorem isBehind_operator_levels : ∀ (l : Levels) (start : Nat) {nodes : List Node},
    (place ((l.joined start).reverse ++ nodes) frames).isBehind .operator = false
  | .last (.mk _ level _), start, _ => isBehind_operator_level level _
  | .more (.mk _ level _) more, start, nodes => by
    simp only [Levels.joined, List.reverse_append, List.reverse_cons, List.append_assoc]
    exact isBehind_operator_levels more _

/-- An argument begins behind a comma. -/
theorem opens_comma {start : Nat} (h : (place [] frames).inCall = true) :
    (place (.comma start :: nodes) frames).opens = true := by
  replace h : (place (.comma start :: nodes) frames).inCall = true := h
  rw [opens, h, isBehind_cons, accepts_comma]
  rfl

theorem closes_cons {c : Char} (h : c = ')' ∨ c = ',') : Closes (c :: rest) := by
  rintro d hd
  cases hd
  exact h

mutual

/-- The scan reads an operand where one may stand. -/
theorem result_operand : ∀ {signed : Bool} (o : Operand signed) {read rest : List Char}
    {nodes : List Node} {frames : List Frame},
    (place nodes frames).expectsOperand = true → EndsOperand rest o →
    (between read (o.chars ++ rest) nodes frames).result =
      (between (o.chars.reverse ++ read) rest (o.node (utf8Len read) :: nodes) frames).result
  | _, .number n, _, _, _, _, hexpects, hends => result_numeral n hends hexpects
  | _, .reference key, _, _, _, _, hexpects, _ => result_reference key hexpects
  | _, .group body, read, rest, nodes, frames, hexpects, _ => by
    have hread : body.chars.reverse ++ '(' :: read = ('(' :: body.chars).reverse ++ read := by
      simp
    have hne : (body.nodes (utf8Len ('(' :: read))).reverse ++ [] ≠ [] := by
      cases body
      simpa [Padded.nodes] using Level.nodes_ne_nil _ _
    simp only [Operand.chars, List.cons_append, List.append_assoc]
    rw [result_group_open hexpects, result_padded body rfl (closes_cons (.inl rfl)),
      result_group_close hread hne (isBehind_operator_padded body _), List.append_nil,
      List.reverse_reverse]
    simp [Operand.node, Operand.chars, String.utf8Len_cons, Char.utf8Size]
  | _, .call name args, read, rest, nodes, frames, hexpects, _ => by
    have hread : args.chars.reverse ++ '(' :: (name.chars.reverse ++ '$' :: read) =
        ('$' :: name.chars ++ '(' :: args.chars).reverse ++ read := by
      simp
    have hstart : utf8Len ('(' :: (name.chars.reverse ++ '$' :: read)) =
        utf8Len read + utf8Len ('$' :: name.chars ++ ['(']) := by
      simp only [String.utf8Len_cons, String.utf8Len_append, String.utf8Len_reverse,
        String.utf8Len_nil]
      omega
    simp only [Operand.chars, List.cons_append, List.append_assoc]
    rw [result_call_open name hexpects]
    cases args with
    | none blanks =>
      simp only [Arguments.chars] at hread ⊢
      rw [result_blanks blanks.blank, result_call_close hread rfl rfl]
      simp [Operand.node, Operand.chars, Arguments.chars, Arguments.params]
    | some levels =>
      simp only [Arguments.chars] at hread ⊢
      rw [result_levels levels rfl rfl (closes_cons (.inl rfl)), List.append_nil,
        result_call_close hread
          (List.append_nil (Levels.joined _ levels).reverse ▸ isBehind_operator_levels levels _)
          (by rw [List.reverse_reverse]; exact arguments_levels levels []  rfl),
        hstart]
      simp [Operand.node, Operand.chars, Arguments.chars, Arguments.params]

/-- The scan reads the operators of a level with their right operands. -/
theorem result_tail : ∀ (t : Tail) {read rest : List Char} {nodes : List Node}
    {frames : List Frame}, (place nodes frames).expectsOperand = false →
    (place nodes frames).isBehind operandTypes = true → EndsToken rest →
    (between read (t.chars ++ rest) nodes frames).result =
      (between (t.chars.reverse ++ read) rest ((t.nodes (utf8Len read)).reverse ++ nodes)
        frames).result
  | .nil, _, _, _, _, _, _, _ => rfl
  | .more before op after operand apart more, read, rest, nodes, frames, hexpects, hbehind,
      hends => by
    simp only [Tail.chars, List.append_assoc]
    rw [result_blanks before.blank,
      result_operator op (endsOperator_after after operand apart) hexpects hbehind,
      result_blanks after.blank,
      result_operand operand expectsOperand_operator
        (endsOperand_of_endsNumber (endsNumber_tail more hends) operand),
      result_tail more (expectsOperand_operand operand) (operand.accepts_node _) hends]
    simp only [Tail.nodes, utf8Len_reverse_append, List.reverse_cons, List.reverse_append,
      List.append_assoc, List.cons_append, List.nil_append]

theorem result_level : ∀ (l : Level) {read rest : List Char} {nodes : List Node}
    {frames : List Frame}, (place nodes frames).opens = true → EndsToken rest →
    (between read (l.chars ++ rest) nodes frames).result =
      (between (l.chars.reverse ++ read) rest ((l.nodes (utf8Len read)).reverse ++ nodes)
        frames).result
  | .text t, _, _, _, _, hopens, _ => result_text t hopens
  | .chain first tail, read, rest, nodes, frames, hopens, hends => by
    simp only [Level.chars, List.append_assoc]
    rw [result_operand first (expectsOperand_iff.mpr (.inl hopens))
        (endsOperand_of_endsNumber (endsNumber_tail tail hends) first),
      result_tail tail (expectsOperand_operand first) (first.accepts_node _) hends]
    simp only [Level.nodes, utf8Len_reverse_append, List.reverse_cons, List.reverse_append,
      List.append_assoc, List.cons_append, List.nil_append]

/-- The scan reads a level with the blanks around it. -/
theorem result_padded : ∀ (p : Padded) {read rest : List Char} {nodes : List Node}
    {frames : List Frame}, (place nodes frames).opens = true → Closes rest →
    (between read (p.chars ++ rest) nodes frames).result =
      (between (p.chars.reverse ++ read) rest ((p.nodes (utf8Len read)).reverse ++ nodes)
        frames).result
  | .mk before level after, read, rest, nodes, frames, hopens, hends => by
    simp only [Padded.chars, List.append_assoc]
    rw [result_blanks before.blank, result_level level hopens (endsToken_blanks after hends),
      result_blanks after.blank]
    simp only [Padded.nodes, utf8Len_reverse_append, List.reverse_append, List.append_assoc]

/-- The scan reads levels between commas. -/
theorem result_levels : ∀ (l : Levels) {read rest : List Char} {nodes : List Node}
    {frames : List Frame}, (place nodes frames).opens = true →
    (place [] frames).inCall = true → Closes rest →
    (between read (l.chars ++ rest) nodes frames).result =
      (between (l.chars.reverse ++ read) rest ((l.joined (utf8Len read)).reverse ++ nodes)
        frames).result
  | .last (.mk before level after), read, rest, nodes, frames, hopens, _, hends =>
    result_padded (.mk before level after) hopens hends
  | .more (.mk before level after) more, read, rest, nodes, frames, hopens, hcall, hends => by
    simp only [Levels.chars, List.append_assoc, List.cons_append]
    rw [result_padded (.mk before level after) hopens (closes_cons (.inr rfl)),
      result_comma hcall (isBehind_operator_padded _ _),
      result_levels more (opens_comma hcall) hcall hends]
    simp only [Levels.joined, Padded.nodes, String.utf8Len_cons, utf8Len_reverse_append,
      List.reverse_append, List.reverse_cons, List.append_assoc, List.cons_append,
      List.nil_append]
    rfl

end

/-! ## Whole texts -/

/-- The scan of a whole formula comes to its nodes. -/
theorem result_start (p : Padded) : (start p.chars).result = .ok (p.nodes 0) := by
  have hne : (p.nodes 0).reverse ++ [] ≠ [] := by
    cases p
    simpa [Padded.nodes] using Level.nodes_ne_nil _ _
  have hscan : (between [] (p.chars ++ []) [] []).result =
      (between (p.chars.reverse ++ []) [] ((p.nodes 0).reverse ++ []) []).result :=
    result_padded p rfl nofun
  rw [List.append_nil] at hscan
  rw [start_eq_between, hscan, result_end hne (isBehind_operator_padded p 0), List.append_nil,
    List.reverse_reverse]

end Scanner

/-- The law of the round trip: a formula that is written by the syntax, with any blanks between
its tokens, is read as its nodes. -/
theorem tokenize_written (p : Written.Padded) :
    tokenize (String.ofList p.chars) = .ok (p.nodes 0) := by
  rw [tokenize_eq_result, String.toList_ofList, result_start]

end Formulary
