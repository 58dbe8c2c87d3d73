-- The pieces of text that the nodes come from: each is cut out of the formula byte for
-- byte, and nothing of the formula is left over but blanks and the marks of its owners.
import Formulary.Proofs.WellFormed

namespace Formulary

open String (utf8Len)
open Scanner

/-! ## Pieces of a text -/

/-- The bytes of the text from the start of the piece to its stop are those of the piece. -/
def Span.CutFrom (s : Span) (text : String) : Prop :=
  s.stop ≤ text.utf8ByteSize ∧ text.toUTF8.extract s.start s.stop = s.chars.toUTF8

/-- The piece stands among the characters, which begin at the byte `start`. -/
def Span.CutAt (s : Span) (start : Nat) (chars : List Char) : Prop :=
  ∃ before after, chars = before ++ (s.chars.toList ++ after) ∧
    s.start = start + utf8Len before ∧ s.chars ≠ ""

def Span.Inside (inner outer : Span) : Prop :=
  outer.start ≤ inner.start ∧ inner.stop ≤ outer.stop

/-- Each node starts behind the start of the node before it, and not before its stop. -/
def InOrder (nodes : List Node) : Prop :=
  nodes.Pairwise fun a b => a.span.start < b.span.start ∧ a.span.stop ≤ b.span.start

/-- The characters, which begin at the byte `start`, are the pieces of the nodes, none of them
empty, with nothing but blanks before, between and behind them. -/
inductive Laid : Nat → List Char → List Node → Prop
  | done {start : Nat} {blanks : List Char} :
      (∀ c ∈ blanks, Text.isBlank c = true) → Laid start blanks []
  | next {start : Nat} {blanks piece rest : List Char} {node : Node} {nodes : List Node} :
      (∀ c ∈ blanks, Text.isBlank c = true) → piece ≠ [] →
      node.span = ⟨start + utf8Len blanks, String.ofList piece⟩ →
      Laid (start + utf8Len blanks + utf8Len piece) rest nodes →
      Laid start (blanks ++ (piece ++ rest)) (node :: nodes)

/-- The characters are the arguments of a call, with blanks around each and one comma between
each two. -/
inductive LaidParams : Nat → List Char → List Node → Prop
  | none {start : Nat} {blanks : List Char} :
      (∀ c ∈ blanks, Text.isBlank c = true) → LaidParams start blanks []
  | last {start : Nat} {chars : List Char} {param : Node} :
      Laid start chars [param] → LaidParams start chars [param]
  | more {start : Nat} {chars rest : List Char} {param next : Node} {params : List Node} :
      Laid start chars [param] →
      LaidParams (start + utf8Len chars + 1) rest (next :: params) →
      LaidParams start (chars ++ ',' :: rest) (param :: next :: params)

/-- What the text of an owner holds apart from the nodes inside it: parentheses, or nothing for
a wrapped argument, and the head of a call with the commas between its arguments. -/
def OwnerText : Node → Prop
  | .group span body =>
    (∃ inner, span.chars.toList = '(' :: (inner ++ [')']) ∧ Laid (span.start + 1) inner body) ∨
    (Laid span.start span.chars.toList body ∧
      body.head?.map (·.span.start) = some span.start ∧
      body.getLast?.map (·.span.stop) = some span.stop)
  | .call span method params =>
    ∃ inner, span.chars.toList = '$' :: (method.toList ++ '(' :: (inner ++ [')'])) ∧
      LaidParams (span.start + utf8Len ('$' :: method.toList ++ ['('])) inner params
  | _ => True

/-- The nodes inside a node, one level deeper. -/
def Node.inner : Node → List Node
  | .group _ body => body
  | .call _ _ params => params
  | _ => []

/-- A tree that is cut out of a text: the nodes at every depth are pieces of it byte for byte,
siblings are in order and inside their owner, and they leave nothing over but blanks and the
marks of the owner. -/
structure CutOut (text : String) (nodes : List Node) : Prop where
  cut : ∀ node, Within nodes node → node.span.CutFrom text
  inOrder : InOrder nodes
  laid : Laid 0 text.toList nodes
  innerInOrder : ∀ node, Within nodes node → InOrder node.inner
  innerInside : ∀ node, Within nodes node → ∀ n ∈ node.inner, n.span.Inside node.span
  ownerText : ∀ node, Within nodes node → OwnerText node

/-! ## Cut pieces -/

theorem utf8Len_toList (text : String) : utf8Len text.toList = text.utf8ByteSize := by
  rw [← String.utf8ByteSize_ofList, String.ofList_toList]

namespace Span.CutAt

variable {s : Span} {start : Nat} {chars : List Char}

theorem behind (before : List Char) (h : s.CutAt (start + utf8Len before) chars) :
    s.CutAt start (before ++ chars) := by
  obtain ⟨before', after, rfl, hstart, hne⟩ := h
  refine ⟨before ++ before', after, by rw [List.append_assoc], ?_, hne⟩
  rw [hstart, String.utf8Len_append, Nat.add_assoc]

theorem before (after : List Char) (h : s.CutAt start chars) : s.CutAt start (chars ++ after) := by
  obtain ⟨before, after', rfl, hstart, hne⟩ := h
  exact ⟨before, after' ++ after, by simp only [List.append_assoc], hstart, hne⟩

/-- A piece of a piece is a piece. -/
theorem trans {outer : Span} (h : s.CutAt outer.start outer.chars.toList)
    (houter : outer.CutAt start chars) : s.CutAt start chars := by
  obtain ⟨before, after, rfl, hstart, -⟩ := houter
  rw [hstart] at h
  exact (h.before after).behind before

/-- A piece lies between the ends of the characters. -/
theorem bounds (h : s.CutAt start chars) :
    start ≤ s.start ∧ s.start < s.stop ∧ s.stop ≤ start + utf8Len chars := by
  obtain ⟨before, after, rfl, hstart, hne⟩ := h
  have hpos : s.chars.utf8ByteSize ≠ 0 := fun h0 => hne (String.utf8ByteSize_eq_zero_iff.mp h0)
  simp only [Span.stop, String.utf8Len_append, utf8Len_toList]
  omega

theorem inside {outer : Span} (h : s.CutAt outer.start outer.chars.toList) : s.Inside outer := by
  obtain ⟨hstart, -, hstop⟩ := h.bounds
  rw [utf8Len_toList] at hstop
  exact ⟨hstart, hstop⟩

/-- A piece of the characters is a piece of their bytes. -/
theorem cutFrom {text : String} (h : s.CutAt 0 text.toList) : s.CutFrom text := by
  refine ⟨?_, ?_⟩
  · have := h.bounds.2.2
    rwa [Nat.zero_add, utf8Len_toList] at this
  · obtain ⟨before, after, hsplit, hstart, -⟩ := h
    have htext : text = String.ofList before ++ (s.chars ++ String.ofList after) := by
      rw [← String.toList_inj, hsplit]
      simp
    have hsize : s.start = (String.ofList before).toByteArray.size + 0 := by
      rw [hstart, String.size_toByteArray, String.utf8ByteSize_ofList, Nat.zero_add, Nat.add_zero]
    have hstop : s.stop = (String.ofList before).toByteArray.size + s.chars.toByteArray.size := by
      rw [Span.stop, hsize, Nat.add_zero]
      rfl
    rw [hstop, hsize, htext, String.toUTF8_eq_toByteArray, String.toUTF8_eq_toByteArray,
      String.toByteArray_append, ByteArray.extract_append_size_add, String.toByteArray_append]
    exact ByteArray.extract_append_eq_left rfl

end Span.CutAt

/-! ## Laid out nodes -/

theorem Laid.cut {start : Nat} {chars : List Char} {nodes : List Node}
    (h : Laid start chars nodes) : ∀ node ∈ nodes, node.span.CutAt start chars := by
  induction h with
  | done _ => nofun
  | @next start blanks piece rest node nodes _ hne hspan _ ih =>
    intro n hn
    rcases List.mem_cons.mp hn with rfl | hn
    · refine ⟨blanks, rest, ?_, ?_, ?_⟩
      · rw [hspan, String.toList_ofList]
      · rw [hspan]
      · rw [hspan]
        simpa using hne
    · exact ((ih n hn).behind piece).behind blanks

theorem LaidParams.cut {start : Nat} {chars : List Char} {params : List Node}
    (h : LaidParams start chars params) : ∀ param ∈ params, param.span.CutAt start chars := by
  induction h with
  | none _ => nofun
  | last hlaid => exact hlaid.cut
  | @more start chars rest param next params hlaid _ ih =>
    intro n hn
    rcases List.mem_cons.mp hn with rfl | hn
    · exact (hlaid.cut n List.mem_cons_self).before _
    · exact ((ih n hn).behind [',']).behind chars

theorem Laid.inOrder {start : Nat} {chars : List Char} {nodes : List Node}
    (h : Laid start chars nodes) : InOrder nodes := by
  induction h with
  | done _ => exact List.Pairwise.nil
  | @next start blanks piece rest node nodes _ hne hspan hlaid ih =>
    refine List.Pairwise.cons (fun n hn => ?_) ih
    have hbounds := (hlaid.cut n hn).bounds
    have hpos : 0 < utf8Len piece := by
      cases piece with
      | nil => exact absurd rfl hne
      | cons c cs => exact Nat.lt_of_lt_of_le c.utf8Size_pos (Nat.le_add_left _ _)
    have hstop : node.span.stop = start + utf8Len blanks + utf8Len piece := by
      rw [hspan, Span.stop, String.utf8ByteSize_ofList]
    have hstart : node.span.start = start + utf8Len blanks := by rw [hspan]
    omega

theorem LaidParams.inOrder {start : Nat} {chars : List Char} {params : List Node}
    (h : LaidParams start chars params) : InOrder params := by
  induction h with
  | none _ => exact List.Pairwise.nil
  | last hlaid => exact hlaid.inOrder
  | @more start chars rest param next params hlaid hmore ih =>
    refine List.Pairwise.cons (fun n hn => ?_) ih
    have hbounds := (hmore.cut n hn).bounds
    have hparam := (hlaid.cut param List.mem_cons_self).bounds
    omega

/-- What an owner's text says about the nodes inside it. -/
theorem OwnerText.cut {node : Node} (h : OwnerText node) :
    ∀ n ∈ node.inner, n.span.CutAt node.span.start node.span.chars.toList := by
  cases node with
  | group span body =>
    intro n hn
    rcases h with ⟨inner, hchars, hlaid⟩ | ⟨hlaid, -, -⟩
    · change n.span.CutAt span.start span.chars.toList
      rw [hchars]
      exact ((hlaid.cut n hn).before [')']).behind ['(']
    · exact hlaid.cut n hn
  | call span method params =>
    intro n hn
    obtain ⟨inner, hchars, hlaid⟩ := h
    change n.span.CutAt span.start span.chars.toList
    rw [hchars]
    have := ((hlaid.cut n hn).before [')']).behind ('$' :: method.toList ++ ['('])
    simpa using this
  | _ => nofun

theorem OwnerText.inOrder {node : Node} (h : OwnerText node) : InOrder node.inner := by
  cases node with
  | group span body =>
    rcases h with ⟨inner, -, hlaid⟩ | ⟨hlaid, -, -⟩
    · exact hlaid.inOrder
    · exact hlaid.inOrder
  | call span method params =>
    obtain ⟨inner, -, hlaid⟩ := h
    exact hlaid.inOrder
  | _ => exact List.Pairwise.nil

/-- If the outermost nodes are cut out of a text and each owner's nodes out of the owner, then
all nodes are cut out of the text. -/
theorem cutAt_within {start : Nat} {chars : List Char} {nodes : List Node}
    (hlaid : Laid start chars nodes) (howner : ∀ node, Within nodes node → OwnerText node)
    {node : Node} (h : Within nodes node) : node.span.CutAt start chars := by
  induction h with
  | here hnode => exact hlaid.cut _ hnode
  | body hgroup hnode ih => exact ((howner _ hgroup).cut _ hnode).trans ih
  | param hcall hnode ih => exact ((howner _ hcall).cut _ hnode).trans ih

/-! ## The pieces of the syntax -/

namespace Written

/-- The operators of a level, up to the blanks behind it. -/
theorem Tail.laid : ∀ (t : Tail) (start : Nat) (after : Blanks),
    Laid start (t.chars ++ after.chars) (t.nodes start)
  | .nil, _, after => .done after.blank
  | .more before op after' operand apart rest, start, after => by
    have hrest := Tail.laid rest (start + utf8Len before.chars + utf8Len op.symbol.toList +
      utf8Len after'.chars + utf8Len operand.chars) after
    have hoperand := Laid.next after'.blank (List.ne_nil_of_length_pos (operand_chars_pos operand))
      (operand.node_span _) hrest
    have hop := Laid.next before.blank (symbol_chars op).1
      (show (Node.operator ⟨start + utf8Len before.chars, op.symbol⟩ op).span = _ by
        rw [String.ofList_toList]; rfl) hoperand
    simpa only [Tail.chars, Tail.nodes, List.append_assoc] using hop

theorem Level.laid (l : Level) (start : Nat) (before after : Blanks) :
    Laid start (before.chars ++ (l.chars ++ after.chars))
      (l.nodes (start + utf8Len before.chars)) := by
  cases l with
  | text t => exact .next before.blank (List.cons_ne_nil _ _) rfl (.done after.blank)
  | chain first tail =>
    have hfirst := Laid.next before.blank (List.ne_nil_of_length_pos (operand_chars_pos first))
      (first.node_span _) (tail.laid (start + utf8Len before.chars + utf8Len first.chars) after)
    simpa only [Level.chars, Level.nodes, List.append_assoc] using hfirst

theorem Padded.laid (p : Padded) (start : Nat) : Laid start p.chars (p.nodes start) := by
  obtain ⟨before, level, after⟩ := p
  simpa only [Padded.chars, Padded.nodes, List.append_assoc] using level.laid start before after

/-- An argument spans its level, whether it is wrapped or not. -/
theorem argument_span (l : Level) (start : Nat) :
    (argumentOf start l.chars (l.nodes start)).span = ⟨start, String.ofList l.chars⟩ := by
  cases l with
  | text t => rfl
  | chain first tail =>
    cases tail with
    | nil =>
      simp only [Level.nodes, Tail.nodes, argumentOf, Level.chars, Tail.chars, List.append_nil]
      exact first.node_span start
    | more _ _ _ _ _ _ => rfl

theorem Level.chars_ne_nil (l : Level) : l.chars ≠ [] := by
  cases l with
  | text t => exact List.cons_ne_nil _ _
  | chain first tail =>
    exact List.append_ne_nil_of_left_ne_nil (List.ne_nil_of_length_pos (operand_chars_pos first)) _

theorem laid_argument (level : Level) (start : Nat) (before after : Blanks) :
    Laid start (Padded.mk before level after).chars
      [argumentOf (start + utf8Len before.chars) level.chars
        (level.nodes (start + utf8Len before.chars))] := by
  have hlaid := Laid.next before.blank level.chars_ne_nil
    (argument_span level (start + utf8Len before.chars)) (.done after.blank)
  simpa only [Padded.chars, List.append_assoc] using hlaid

theorem Levels.params_ne_nil (levels : Levels) (start : Nat) : levels.params start ≠ [] := by
  cases levels with
  | last level =>
    cases level
    exact List.cons_ne_nil _ _
  | more level rest =>
    cases level
    exact List.cons_ne_nil _ _

theorem Levels.laidParams : ∀ (levels : Levels) (start : Nat),
    LaidParams start levels.chars (levels.params start)
  | .last (.mk before level after), start => .last (laid_argument level start before after)
  | .more (.mk before level after) rest, start => by
    have hrest := Levels.laidParams rest
      (start + utf8Len (Padded.mk before level after).chars + 1)
    obtain ⟨next, params, hnext⟩ := List.exists_cons_of_ne_nil (rest.params_ne_nil
      (start + utf8Len (Padded.mk before level after).chars + 1))
    simp only [Levels.params, Levels.chars]
    rw [hnext] at hrest ⊢
    exact .more (laid_argument level start before after) hrest

theorem Arguments.laidParams (args : Arguments) (start : Nat) :
    LaidParams start args.chars (args.params start) := by
  cases args with
  | none blanks => exact .none blanks.blank
  | some levels => exact levels.laidParams start

theorem NodeOf.ownerText {node : Node} (h : NodeOf node) : OwnerText node := by
  cases h with
  | operand o start =>
    cases o with
    | number _ => trivial
    | reference _ => trivial
    | group p => exact .inl ⟨p.chars, String.toList_ofList, p.laid _⟩
    | call name args =>
      refine ⟨args.chars, ?_, ?_⟩
      · simp [Operand.chars]
      · simpa using args.laidParams _
  | operator _ _ => trivial
  | text _ _ => trivial
  | wrapped first tail start hne =>
    have hlaid := Level.laid (.chain first tail) start ⟨[], nofun⟩ ⟨[], nofun⟩
    refine .inr ⟨?_, ?_, ?_⟩
    · simpa using hlaid
    · simp only [Level.nodes, List.head?_cons, Option.map_some, first.node_span]
    · obtain ⟨node, more, hnodes⟩ := List.exists_cons_of_ne_nil hne
      have hstop := tail.getLast?_stop _ hne
      simp only [Level.nodes, Level.chars, hnodes, List.getLast?_cons_cons] at hstop ⊢
      rw [hstop, Span.stop, String.utf8ByteSize_ofList, String.utf8Len_append, Nat.add_assoc]

end Written

/-! ## The law -/

/-- The law of the pieces: what the scan builds is cut out of the text that it reads. -/
theorem cutOut_of_tokenize {text : String} {nodes : List Node} (h : tokenize text = .ok nodes) :
    CutOut text nodes := by
  obtain ⟨p, hchars, rfl⟩ := exists_written_of_tokenize h
  have hlaid : Laid 0 text.toList (p.nodes 0) := hchars ▸ p.laid 0
  have howner : ∀ node, Within (p.nodes 0) node → OwnerText node :=
    fun node hnode => (p.nodeOf_within hnode).ownerText
  exact {
    cut := fun node hnode => (cutAt_within hlaid howner hnode).cutFrom
    inOrder := hlaid.inOrder
    laid := hlaid
    innerInOrder := fun node hnode => (howner node hnode).inOrder
    innerInside := fun node hnode n hn => ((howner node hnode).cut n hn).inside
    ownerText := howner }

/-- A call whose text has characters of more than one byte. -/
theorem cutOut_call : ∃ nodes, tokenize " $f({ü} + 1 , 'é')" = .ok nodes ∧
    CutOut " $f({ü} + 1 , 'é')" nodes :=
  have h : tokenize " $f({ü} + 1 , 'é')" = .ok [.call ⟨1, "$f({ü} + 1 , 'é')"⟩ "f"
      [.group ⟨4, "{ü} + 1"⟩ [.reference ⟨4, "{ü}"⟩ "ü", .operator ⟨9, "+"⟩ .add,
        .value ⟨11, "1"⟩ (.number ⟨1, 0⟩)], .value ⟨15, "'é'"⟩ (.text "é")]] := rfl
  ⟨_, h, cutOut_of_tokenize h⟩

end Formulary
