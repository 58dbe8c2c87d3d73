-- How the scan reads one token: what it has read when the token ends, the node that it
-- adds, and the shapes of text on which a token does end.
import Formulary.Proofs.ScanResult
import Formulary.Proofs.Written
import Mathlib.Data.List.TakeWhile

namespace Formulary.Scanner

open String (utf8Len)

variable {read rest : List Char} {nodes : List Node} {frames : List Frame} {mode : Mode}

/-! ## States by what has been read -/

/-- A scan that has read `read`, latest first. -/
def amid (read rest : List Char) (nodes : List Node) (frames : List Frame) (mode : Mode) :
    Scanner := ⟨read, rest, utf8Len read, nodes, frames, mode⟩

/-- A scan between two tokens. -/
abbrev between (read rest : List Char) (nodes : List Node) (frames : List Frame) : Scanner :=
  amid read rest nodes frames .base

theorem start_eq_between (cs : List Char) : start cs = between [] cs [] [] := rfl

@[simp] theorem amid_advance {c : Char} : (amid read (c :: rest) nodes frames mode).advance =
    amid (c :: read) rest nodes frames mode := rfl

theorem result_of_begins {c : Char} {t : Scanner}
    (h : Begins (between read (c :: rest) nodes frames) c t) :
    (between read (c :: rest) nodes frames).result = t.result :=
  result_of_step (fun h => by cases h) (scanToken_of_begins h)

/-! ## The text that has been read -/

theorem dropBytes_append : ∀ (a b : List Char), dropBytes (utf8Len a) (a ++ b) = b
  | [], [] => rfl
  | [], _ :: _ => rfl
  | c :: a, b => by
    have hpos := c.utf8Size_pos
    have hdrop : utf8Len a + c.utf8Size - c.utf8Size = utf8Len a := by omega
    rw [List.cons_append, dropBytes, String.utf8Len_cons, if_neg (by omega), hdrop,
      dropBytes_append a b]

theorem unread_append : ∀ (a after b : List Char),
    unread (utf8Len a) after (a ++ b) = a.reverse ++ after
  | [], _, [] => rfl
  | [], _, _ :: _ => rfl
  | c :: a, after, b => by
    have hpos := c.utf8Size_pos
    have hdrop : utf8Len a + c.utf8Size - c.utf8Size = utf8Len a := by omega
    rw [List.cons_append, unread, String.utf8Len_cons, if_neg (by omega), hdrop,
      unread_append a (c :: after) b, List.reverse_cons, List.append_assoc]
    rfl

/-- A piece of the text that has been read is found again by the bytes before it and in it. -/
theorem textBetween_amid {before piece : List Char} (after : List Char)
    (h : read = after.reverse ++ (piece.reverse ++ before)) :
    (amid read rest nodes frames mode).textBetween (utf8Len before)
      (utf8Len before + utf8Len piece) = String.ofList piece := by
  have hafter : utf8Len read - (utf8Len before + utf8Len piece) = utf8Len after.reverse := by
    simp only [h, String.utf8Len_append, String.utf8Len_reverse]
    omega
  have hpiece : utf8Len before + utf8Len piece - utf8Len before = utf8Len piece.reverse := by
    rw [String.utf8Len_reverse]
    omega
  unfold textBetween
  rw [hpiece]
  change String.ofList (unread _ [] (dropBytes (utf8Len read - _) read)) = _
  rw [hafter, h, dropBytes_append, unread_append, List.reverse_reverse, List.append_nil]

theorem textFrom_amid {before piece : List Char} (h : read = piece.reverse ++ before) :
    (amid read rest nodes frames mode).textFrom (utf8Len before) = String.ofList piece := by
  have hindex : (amid read rest nodes frames mode).index = utf8Len before + utf8Len piece := by
    change utf8Len read = _
    rw [h, String.utf8Len_append, String.utf8Len_reverse, Nat.add_comm]
  unfold textFrom
  rw [hindex]
  exact textBetween_amid [] h

/-! ## Runs of characters -/

/-- A mode that takes in one character takes in a run of them. -/
theorem result_run (p : Char → Prop) (within : List Char → Mode)
    (hm : ∀ taken, within taken ≠ .complete)
    (hstep : ∀ read c rest taken, p c →
      (amid read (c :: rest) nodes frames (within taken)).step =
        .ok (amid (c :: read) rest nodes frames (within (c :: taken)))) :
    ∀ (run read rest taken : List Char), (∀ c ∈ run, p c) →
      (amid read (run ++ rest) nodes frames (within taken)).result =
        (amid (run.reverse ++ read) rest nodes frames (within (run.reverse ++ taken))).result
  | [], _, _, _, _ => rfl
  | c :: run, read, rest, taken, hp => by
    have hc := hstep read c (run ++ rest) taken (hp c List.mem_cons_self)
    have hrun := result_run p within hm hstep run (c :: read) rest (c :: taken)
      fun d hd => hp d (List.mem_cons_of_mem _ hd)
    rw [List.cons_append, result_of_step (hm taken) hc, hrun]
    simp only [List.reverse_cons, List.append_assoc, List.singleton_append]

/-- A symbol, a text or a name is put together from a run of characters. -/
theorem result_collect (p : Char → Prop) (within : String → Mode)
    (hm : ∀ taken, within taken ≠ .complete)
    (hstep : ∀ read c rest taken, p c →
      (amid read (c :: rest) nodes frames (within taken)).step =
        .ok (amid (c :: read) rest nodes frames (within (taken.push c))))
    {run : List Char} (h : ∀ c ∈ run, p c) :
    (amid read (run ++ rest) nodes frames (within "")).result =
      (amid (run.reverse ++ read) rest nodes frames (within (String.ofList run))).result := by
  have hpush : ∀ (taken : List Char) (c : Char),
      (String.ofList taken.reverse).push c = String.ofList (c :: taken).reverse := by
    intro taken c
    rw [← String.toList_inj]
    simp
  have := result_run p (fun taken => within (String.ofList taken.reverse)) (fun _ => hm _)
    (fun read c rest taken hc => hpush taken c ▸ hstep read c rest _ hc) run read rest [] h
  simpa using this

/-- Every text is a longest run of characters of one sort and what follows it. -/
theorem exists_run (p : Char → Bool) (cs : List Char) :
    ∃ run rest, cs = run ++ rest ∧ (∀ c ∈ run, p c = true) ∧ ∀ c ∈ rest.head?, p c = false := by
  refine ⟨cs.takeWhile p, cs.dropWhile p, List.takeWhile_append_dropWhile.symm,
    fun c hc => List.mem_takeWhile_imp hc, fun c hc => ?_⟩
  have := List.head?_dropWhile_not p cs
  simp only [Option.mem_def] at hc
  rw [hc] at this
  simpa using this

theorem result_blanks {blanks : List Char} (h : ∀ c ∈ blanks, Text.isBlank c = true) :
    (between read (blanks ++ rest) nodes frames).result =
      (between (blanks.reverse ++ read) rest nodes frames).result :=
  result_run (Text.isBlank · = true) (fun _ => .base) (fun _ h => by cases h)
    (fun _ _ _ _ hc => scanToken_of_begins (.space hc)) blanks read rest [] h

/-! ## Places -/

/-- A level or an argument begins here. -/
def opens (s : Scanner) : Bool := s.isFirst || (s.inCall && s.isBehind .comma)

theorem expectsOperand_iff {s : Scanner} :
    s.expectsOperand = true ↔ s.opens = true ∨ s.isBehind .operator = true := by
  simp only [expectsOperand, opens, Bool.or_eq_true, Bool.and_eq_true]
  tauto

/-- A place between tokens, apart from the text around it. What may stand there depends on
nothing else. -/
abbrev place (nodes : List Node) (frames : List Frame) : Scanner := between [] [] nodes frames

theorem isBehind_cons {node : Node} {types : TypeMask} :
    (place (node :: nodes) frames).isBehind types = types.accepts node.type := rfl

theorem accepts_operator (node : Node) :
    TypeMask.operator.accepts node.type = node.isOperator := by
  unfold Node.isOperator
  cases node with
  | value _ v => cases v <;> simp only [Node.type, Value.type, Node.asOperator?] <;> decide
  | operator _ _ => simp only [Node.type, Node.asOperator?, Option.isSome_some]; decide
  | _ => simp only [Node.type, Node.asOperator?]; decide

theorem accepts_comma (node : Node) : TypeMask.comma.accepts node.type = node.isComma := by
  cases node with
  | value _ v => cases v <;> simp only [Node.type, Value.type, Node.isComma] <;> decide
  | _ => simp only [Node.type, Node.isComma]; decide

theorem isBehind_operator_of_opens (h : (place nodes frames).opens = true) :
    (place nodes frames).isBehind .operator = false := by
  cases nodes with
  | nil => rfl
  | cons node more =>
    have hcomma : (place (node :: more) frames).isBehind .comma = true := by
      simp only [opens, isFirst, amid, List.isEmpty_cons, Bool.false_or, Bool.and_eq_true] at h
      exact h.2
    rw [isBehind_cons, accepts_comma] at hcomma
    rw [isBehind_cons, accepts_operator]
    cases node <;> first | rfl | cases hcomma

theorem opens_cons {node : Node} (h : node.isComma = false) :
    (place (node :: nodes) frames).opens = false := by
  have hcomma : (place (node :: nodes) frames).isBehind .comma = false := by
    rw [isBehind_cons, accepts_comma, h]
  simp only [opens, hcomma, Bool.and_false, Bool.or_false]
  rfl

/-- Behind an operand, no operand may stand. -/
theorem expectsOperand_cons {node : Node} (ho : node.isOperator = false)
    (hc : node.isComma = false) :
    (place (node :: nodes) frames).expectsOperand = false := by
  rw [Bool.eq_false_iff, Ne, expectsOperand_iff, opens_cons hc, isBehind_cons,
    accepts_operator, ho]
  simp

/-! ## Operators -/

/-- No operator goes on here. -/
def EndsOperator (rest : List Char) : Prop := ∀ c ∈ rest.head?, isOperatorChar c = false

theorem step_operator_end {origin : Nat} {symbol : String} (hrest : EndsOperator rest) :
    (amid read rest nodes frames (.operator origin symbol)).step =
      (amid read rest nodes frames (.operator origin symbol)).endOperator origin symbol := by
  cases rest with
  | nil => rfl
  | cons c rest => exact if_neg (by simp [hrest c rfl])

/-- A run of operator characters is read as one symbol. -/
theorem result_operator_run {run : List Char} (hne : run ≠ [])
    (hrun : ∀ c ∈ run, isOperatorChar c = true) :
    (between read (run ++ rest) nodes frames).result =
      (amid (run.reverse ++ read) rest nodes frames
        (.operator (utf8Len read) (String.ofList run))).result := by
  obtain ⟨c, cs, rfl⟩ := List.exists_cons_of_ne_nil hne
  have hbegin : Begins (between read (c :: cs ++ rest) nodes frames) c
      (amid read (c :: cs ++ rest) nodes frames (.operator (utf8Len read) "")) :=
    .operator (hrun c List.mem_cons_self)
  exact (result_of_begins hbegin).trans
    (result_collect (isOperatorChar · = true) (.operator (utf8Len read)) (fun _ h => by cases h)
      (fun _ _ _ _ hc => if_pos hc) hrun)

theorem ofSymbol?_eq_some_iff {symbol : String} {op : Operator} :
    Operator.ofSymbol? symbol = some op ↔ symbol = op.symbol := by
  constructor
  · intro h
    have := List.find?_some h
    exact (beq_iff_eq.mp this).symm
  · rintro rfl
    cases op <;> decide

theorem symbol_chars (op : Operator) :
    op.symbol.toList ≠ [] ∧ ∀ c ∈ op.symbol.toList, isOperatorChar c = true := by
  cases op <;> simp [Operator.symbol, isOperatorChar]

/-- Behind an operand, an operator is one. -/
theorem result_operator (op : Operator) (hrest : EndsOperator rest)
    (hexpects : (place nodes frames).expectsOperand = false)
    (hbehind : (place nodes frames).isBehind operandTypes = true) :
    (between read (op.symbol.toList ++ rest) nodes frames).result =
      (between (op.symbol.toList.reverse ++ read) rest
        (.operator ⟨utf8Len read, op.symbol⟩ op :: nodes) frames).result := by
  obtain ⟨hne, hrun⟩ := symbol_chars op
  rw [result_operator_run hne hrun, String.ofList_toList]
  refine result_of_step (fun h => by cases h) ?_
  rw [step_operator_end hrest]
  unfold endOperator
  rw [ofSymbol?_eq_some_iff.mpr rfl]
  change (if op.isSign && (place nodes frames).expectsOperand then _ else _) = _
  rw [hexpects, Bool.and_false, if_neg Bool.false_ne_true]
  exact if_pos hbehind

/-- Where an operand may stand, a plus or a minus begins a number. -/
theorem result_sign {op : Operator} (hsign : op.isSign = true) (hrest : EndsOperator rest)
    (hexpects : (place nodes frames).expectsOperand = true) :
    (between read (op.symbol.toList ++ rest) nodes frames).result =
      (amid (op.symbol.toList.reverse ++ read) rest nodes frames
        (.number ⟨utf8Len read, some op, [], false, false⟩)).result := by
  obtain ⟨hne, hrun⟩ := symbol_chars op
  rw [result_operator_run hne hrun, String.ofList_toList]
  refine result_of_step (fun h => by cases h) ?_
  rw [step_operator_end hrest]
  unfold endOperator
  rw [ofSymbol?_eq_some_iff.mpr rfl]
  exact if_pos (by rw [hsign]; exact hexpects)

theorem exists_operator_of_result {c : Char} {r : List Node} (hc : isOperatorChar c = true)
    (h : (between read (c :: rest) nodes frames).result = .ok r) :
    ∃ (op : Operator) (more : List Char),
      c :: rest = op.symbol.toList ++ more ∧ EndsOperator more ∧
      (op.isSign = true ∧ (place nodes frames).expectsOperand = true ∨
        (place nodes frames).isBehind operandTypes = true) := by
  obtain ⟨run, more, hsplit, hrun, hmore⟩ := exists_run isOperatorChar (c :: rest)
  have hne : run ≠ [] := by
    rintro rfl
    rw [List.nil_append] at hsplit
    subst hsplit
    simp [hmore c rfl] at hc
  rw [hsplit, result_operator_run hne hrun] at h
  obtain ⟨t, hstep, -⟩ := exists_step_of_result (fun h => by cases h) h
  rw [step_operator_end hmore] at hstep
  unfold endOperator at hstep
  split at hstep
  · cases hstep
  · rename_i op hop
    have hsymbol : run = op.symbol.toList := by
      rw [← ofSymbol?_eq_some_iff.mp hop, String.toList_ofList]
    refine ⟨op, more, hsymbol ▸ hsplit, hmore, ?_⟩
    split_ifs at hstep with h1 h2
    · exact .inl (Bool.and_eq_true_iff.mp h1)
    · exact .inr h2

/-! ## Texts -/

/-- What stands behind a quote up to the next one is the content of a text. -/
theorem result_text_run {quote : Char} {content : List Char}
    (hq : quote = '\'' ∨ quote = '"') (hcontent : ∀ c ∈ content, c ≠ quote)
    (hbehind : (place nodes frames).isBehind .operator = false) :
    (between read (quote :: (content ++ rest)) nodes frames).result =
      (amid (content.reverse ++ quote :: read) rest nodes frames
        (.text (utf8Len read) quote (String.ofList content))).result := by
  have hbegin : Begins (between read (quote :: (content ++ rest)) nodes frames) quote
      (amid (quote :: read) (content ++ rest) nodes frames (.text (utf8Len read) quote "")) :=
    .text hq hbehind
  exact (result_of_begins hbegin).trans
    (result_collect (· ≠ quote) (.text (utf8Len read) quote) (fun _ h => by cases h)
      (fun _ _ _ _ hc => if_neg hc) hcontent)

theorem step_text_quote {quote : Char} {origin : Nat} {content : String} :
    (amid read (quote :: rest) nodes frames (.text origin quote content)).step =
      (amid (quote :: read) rest nodes frames (.text origin quote content)).endText
        origin content :=
  if_pos rfl

theorem result_text (t : Written.Quoted)
    (hopens : (place nodes frames).opens = true) :
    (between read (t.chars ++ rest) nodes frames).result =
      (between (t.chars.reverse ++ read) rest
        (.value ⟨utf8Len read, String.ofList t.chars⟩ (.text (String.ofList t.content)) :: nodes)
        frames).result := by
  obtain ⟨quote, content, hq, hfree⟩ := t
  have hcontent : ∀ c ∈ content, c ≠ quote := fun c hc he => hfree (he ▸ hc)
  have hread : quote :: (content.reverse ++ quote :: read) =
      (Written.Quoted.mk quote content hq hfree).chars.reverse ++ read := by
    simp [Written.Quoted.chars]
  have hsplit : (Written.Quoted.mk quote content hq hfree).chars ++ rest =
      quote :: (content ++ quote :: rest) := by
    simp [Written.Quoted.chars]
  rw [hsplit, result_text_run hq hcontent (isBehind_operator_of_opens hopens)]
  refine result_of_step (fun h => by cases h) ?_
  rw [step_text_quote, hread]
  unfold endText
  rw [textFrom_amid rfl]
  exact if_pos hopens

theorem exists_text_of_result {quote : Char} {r : List Node} (hq : quote = '\'' ∨ quote = '"')
    (hbehind : (place nodes frames).isBehind .operator = false)
    (h : (between read (quote :: rest) nodes frames).result = .ok r) :
    ∃ (t : Written.Quoted) (more : List Char), quote :: rest = t.chars ++ more ∧
      (place nodes frames).opens = true := by
  obtain ⟨content, more, rfl, hcontent, hmore⟩ := exists_run (· != quote) rest
  simp only [bne_iff_ne] at hcontent
  rw [result_text_run hq hcontent hbehind] at h
  obtain ⟨t, hstep, -⟩ := exists_step_of_result (fun h => by cases h) h
  cases more with
  | nil => cases hstep
  | cons c more =>
    have hc : c = quote := by simpa using hmore c rfl
    subst hc
    refine ⟨⟨c, content, hq, fun hmem => hcontent c hmem rfl⟩, more, ?_, ?_⟩
    · simp [Written.Quoted.chars]
    · rw [step_text_quote] at hstep
      unfold endText at hstep
      split_ifs at hstep with hopens
      exact hopens

/-! ## References -/

theorem result_reference_run {key : List Char} (hkey : ∀ c ∈ key, c ≠ '\x7d')
    (hexpects : (place nodes frames).expectsOperand = true) :
    (between read ('\x7b' :: (key ++ rest)) nodes frames).result =
      (amid (key.reverse ++ '\x7b' :: read) rest nodes frames
        (.reference (utf8Len read) (String.ofList key))).result := by
  have hbegin : Begins (between read ('\x7b' :: (key ++ rest)) nodes frames) '\x7b'
      (amid ('\x7b' :: read) (key ++ rest) nodes frames (.reference (utf8Len read) "")) :=
    .reference rfl hexpects
  exact (result_of_begins hbegin).trans
    (result_collect (· ≠ '\x7d') (.reference (utf8Len read)) (fun _ h => by cases h)
      (fun _ _ _ _ hc => if_neg hc) hkey)

theorem result_reference (key : Written.Key)
    (hexpects : (place nodes frames).expectsOperand = true) :
    (between read ((Written.Operand.reference key).chars ++ rest) nodes frames).result =
      (between ((Written.Operand.reference key).chars.reverse ++ read) rest
        ((Written.Operand.reference key).node (utf8Len read) :: nodes) frames).result := by
  obtain ⟨key, hne, hfree⟩ := key
  have hkey : ∀ c ∈ key, c ≠ '\x7d' := fun c hc he => hfree (he ▸ hc)
  have hread : '\x7d' :: (key.reverse ++ '\x7b' :: read) =
      (Written.Operand.reference ⟨key, hne, hfree⟩).chars.reverse ++ read := by
    simp [Written.Operand.chars]
  have hsplit : (Written.Operand.reference ⟨key, hne, hfree⟩).chars ++ rest =
      '\x7b' :: (key ++ '\x7d' :: rest) := by
    simp [Written.Operand.chars]
  have hempty : (String.ofList key).isEmpty = false := by
    rw [Bool.eq_false_iff, Ne, String.isEmpty_iff]
    simpa using hne
  rw [hsplit, result_reference_run hkey hexpects]
  refine result_of_step (fun h => by cases h) ?_
  change (if (String.ofList key).isEmpty = true then _ else _) = _
  rw [hempty, if_neg Bool.false_ne_true, amid_advance, hread, textFrom_amid rfl]
  rfl

theorem exists_reference_of_result {r : List Node}
    (hexpects : (place nodes frames).expectsOperand = true)
    (h : (between read ('\x7b' :: rest) nodes frames).result = .ok r) :
    ∃ (key : Written.Key) (more : List Char),
      '\x7b' :: rest = (Written.Operand.reference key).chars ++ more := by
  obtain ⟨key, more, rfl, hkey, hmore⟩ := exists_run (· != '\x7d') rest
  simp only [bne_iff_ne] at hkey
  rw [result_reference_run hkey hexpects] at h
  obtain ⟨t, hstep, -⟩ := exists_step_of_result (fun h => by cases h) h
  cases more with
  | nil => cases hstep
  | cons c more =>
    have hc : c = '\x7d' := by simpa using hmore c rfl
    subst hc
    have hne : key ≠ [] := by
      rintro rfl
      cases hstep
    exact ⟨⟨key, hne, fun hmem => hkey _ hmem rfl⟩, more, by simp [Written.Operand.chars]⟩

/-! ## Parentheses and commas -/

theorem result_callName_run {name : List Char} (hname : ∀ c ∈ name, isNameChar c = true)
    (hexpects : (place nodes frames).expectsOperand = true) :
    (between read ('$' :: (name ++ rest)) nodes frames).result =
      (amid (name.reverse ++ '$' :: read) rest nodes frames
        (.callName (utf8Len read) (String.ofList name))).result := by
  have hbegin : Begins (between read ('$' :: (name ++ rest)) nodes frames) '$'
      (amid ('$' :: read) (name ++ rest) nodes frames (.callName (utf8Len read) "")) :=
    .callName rfl hexpects
  have hopen : ∀ {c : Char}, isNameChar c = true → c ≠ '(' := by
    rintro c hc rfl
    exact absurd hc (by decide)
  exact (result_of_begins hbegin).trans
    (result_collect (isNameChar · = true) (.callName (utf8Len read)) (fun _ h => by cases h)
      (fun _ _ _ _ hc => (if_neg (hopen hc)).trans (if_pos hc)) hname)

/-- The head of a call opens its arguments. -/
theorem result_call_open (name : Written.MethodName)
    (hexpects : (place nodes frames).expectsOperand = true) :
    (between read ('$' :: (name.chars ++ '(' :: rest)) nodes frames).result =
      (between ('(' :: (name.chars.reverse ++ '$' :: read)) rest []
        (⟨.call (String.ofList name.chars), utf8Len read, nodes⟩ :: frames)).result := by
  have hempty : (String.ofList name.chars).isEmpty = false := by
    rw [Bool.eq_false_iff, Ne, String.isEmpty_iff]
    simpa using name.ne_nil
  rw [result_callName_run name.nameChars hexpects]
  refine result_of_step (fun h => by cases h) ?_
  change (if (String.ofList name.chars).isEmpty = true then _ else _) = _
  rw [hempty, if_neg Bool.false_ne_true]
  rfl

theorem exists_call_open_of_result {r : List Node}
    (hexpects : (place nodes frames).expectsOperand = true)
    (h : (between read ('$' :: rest) nodes frames).result = .ok r) :
    ∃ (name : Written.MethodName) (more : List Char),
      '$' :: rest = '$' :: (name.chars ++ '(' :: more) := by
  obtain ⟨name, more, rfl, hname, hmore⟩ := exists_run isNameChar rest
  rw [result_callName_run hname hexpects] at h
  obtain ⟨t, hstep, -⟩ := exists_step_of_result (fun h => by cases h) h
  cases more with
  | nil => cases hstep
  | cons c more =>
    have hc : c = '(' := by
      by_contra hopen
      change (if c = '(' then _ else if isNameChar c = true then _ else _) = _ at hstep
      rw [if_neg hopen, hmore c rfl, if_neg Bool.false_ne_true] at hstep
      cases hstep
    subst hc
    have hne : name ≠ [] := by
      rintro rfl
      cases hstep
    exact ⟨⟨name, hne, hname⟩, more, rfl⟩

theorem result_group_open (hexpects : (place nodes frames).expectsOperand = true) :
    (between read ('(' :: rest) nodes frames).result =
      (between ('(' :: read) rest [] (⟨.group, utf8Len read, nodes⟩ :: frames)).result :=
  result_of_begins (.group rfl hexpects)

/-- The text of an owner ends with its parenthesis. -/
theorem ownerSpan_amid {before piece : List Char} (h : read = piece.reverse ++ before) :
    (amid read (')' :: rest) nodes frames mode).ownerSpan (utf8Len before) =
      ⟨utf8Len before, String.ofList (piece ++ [')'])⟩ := by
  rw [String.ofList_append, ← textFrom_amid h]
  rfl

/-- A parenthesis closes a group that is not empty. -/
theorem result_group_close {before piece : List Char} {outer : List Node}
    (h : read = piece.reverse ++ before) (hne : nodes ≠ [])
    (hbehind : (place nodes frames).isBehind .operator = false) :
    (between read (')' :: rest) nodes (⟨.group, utf8Len before, outer⟩ :: frames)).result =
      (between (')' :: read) rest
        (.group ⟨utf8Len before, String.ofList (piece ++ [')'])⟩ nodes.reverse :: outer)
        frames).result := by
  have hleave : Leaves
      (between read (')' :: rest) nodes (⟨.group, utf8Len before, outer⟩ :: frames))
      (amid read (')' :: rest)
        (.group ⟨utf8Len before, String.ofList (piece ++ [')'])⟩ nodes.reverse :: outer)
        frames .groupClose) := by
    rw [← ownerSpan_amid h]
    exact .group rfl
  have hfirst : nodes.isEmpty = false := by simpa using hne
  rw [result_of_begins
    (.leave rfl (List.cons_ne_nil _ _) hbehind (fun _ => hfirst) (leave_eq_ok_iff.mpr hleave))]
  exact result_of_step (fun h => by cases h) rfl

/-- A parenthesis closes the arguments of a call. -/
theorem result_call_close {before piece : List Char} {outer params : List Node} {method : String}
    (h : read = piece.reverse ++ before)
    (hbehind : (place nodes frames).isBehind .operator = false)
    (hparams : (amid read (')' :: rest) nodes (⟨.call method, utf8Len before, outer⟩ :: frames)
      .base).arguments nodes.reverse = .ok params) :
    (between read (')' :: rest) nodes (⟨.call method, utf8Len before, outer⟩ :: frames)).result =
      (between (')' :: read) rest
        (.call ⟨utf8Len before, String.ofList (piece ++ [')'])⟩ method params :: outer)
        frames).result := by
  have hleave : Leaves
      (between read (')' :: rest) nodes (⟨.call method, utf8Len before, outer⟩ :: frames))
      (amid read (')' :: rest)
        (.call ⟨utf8Len before, String.ofList (piece ++ [')'])⟩ method params :: outer)
        frames (.callClose method)) := by
    rw [← ownerSpan_amid h]
    exact .call rfl hparams
  rw [result_of_begins
    (.leave rfl (List.cons_ne_nil _ _) hbehind (fun hg => by cases hg)
      (leave_eq_ok_iff.mpr hleave))]
  exact result_of_step (fun h => by cases h) rfl

theorem result_comma (hcall : (place [] frames).inCall = true)
    (hbehind : (place nodes frames).isBehind .operator = false) :
    (between read (',' :: rest) nodes frames).result =
      (between (',' :: read) rest (.comma (utf8Len read) :: nodes) frames).result :=
  result_of_begins (.comma rfl hcall hbehind)

/-! ## The end of the text -/

theorem result_end (hne : nodes ≠ []) (hbehind : (place nodes []).isBehind .operator = false) :
    (between read [] nodes []).result = .ok nodes.reverse := by
  have hfirst : nodes.isEmpty = false := by simpa using hne
  have hstep : (between read [] nodes []).step = .ok (amid read [] nodes [] .complete) := by
    change (if (nodes.isEmpty || (place nodes []).isBehind .operator) = true then _ else _) = _
    rw [hfirst, hbehind]
    rfl
  rw [result_of_step (fun h => by cases h) hstep]
  exact result_of_complete rfl

/-- A text that ends between tokens ends on the outermost level, behind something else than an
operator. -/
theorem end_of_result {r : List Node} (h : (between read [] nodes frames).result = .ok r) :
    frames = [] ∧ nodes ≠ [] ∧ (place nodes frames).isBehind .operator = false := by
  obtain ⟨t, hstep, ht⟩ := exists_step_of_result (fun h => by cases h) h
  change scanEnd _ = _ at hstep
  unfold scanEnd at hstep
  cases frames with
  | nil =>
    rw [if_neg (by simp [amid])] at hstep
    split_ifs at hstep with hor
    simp only [Bool.or_eq_true, not_or, Bool.not_eq_true] at hor
    exact ⟨rfl, by simpa [isFirst, amid] using hor.1, hor.2⟩
  | cons frame frames =>
    -- The level is left, but its parenthesis is not there.
    replace hstep : leave (between read [] nodes (frame :: frames)) = .ok t := hstep
    rw [leave_eq_ok_iff] at hstep
    exfalso
    cases hstep with
    | group _ =>
      obtain ⟨u, hclose, -⟩ := exists_step_of_result (fun h => by cases h) ht
      cases hclose
    | call _ _ =>
      obtain ⟨u, hclose, -⟩ := exists_step_of_result (fun h => by cases h) ht
      cases hclose

end Formulary.Scanner
