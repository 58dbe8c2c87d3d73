-- The piece of text that a node keeps is a formula of its own. It is read as that node, or as
-- the run of nodes that a wrapped argument spans, and only the places differ: they are as
-- many bytes nearer to the start as the piece is away from it.
import Formulary.Proofs.WellFormed

namespace Formulary

open String (utf8Len)

/-! ## Nodes at another place -/

/-- The piece of text, so many bytes further on. -/
def Span.ahead (bytes : Nat) (s : Span) : Span := ⟨s.start + bytes, s.chars⟩

mutual

/-- The node and all nodes inside it, so many bytes further on. -/
def Node.ahead (bytes : Nat) : Node → Node
  | .value span v => .value (span.ahead bytes) v
  | .group span body => .group (span.ahead bytes) (aheadAll bytes body)
  | .operator span op => .operator (span.ahead bytes) op
  | .comma span => .comma (span.ahead bytes)
  | .reference span key => .reference (span.ahead bytes) key
  | .call span method params => .call (span.ahead bytes) method (aheadAll bytes params)

def aheadAll (bytes : Nat) : List Node → List Node
  | [] => []
  | node :: rest => node.ahead bytes :: aheadAll bytes rest

end

theorem aheadAll_eq_map (bytes : Nat) (nodes : List Node) :
    aheadAll bytes nodes = nodes.map (Node.ahead bytes) := by
  induction nodes with
  | nil => rfl
  | cons node rest ih => rw [aheadAll, ih, List.map_cons]

/-- The nodes that the text of a node holds on its top level: the node alone, or those that a
wrapped argument spans. The first node in parentheses stands behind the place where they
open, and the first one of a wrapped argument where the argument begins. -/
def Node.ownLevel : Node → List Node
  | .group span body =>
    if body.head?.map (·.span.start) = some span.start then body else [.group span body]
  | node => [node]

/-! ## The syntax at another place -/

namespace Written

theorem argumentOf_ahead (start bytes : Nat) (chars : List Char) (nodes : List Node) :
    argumentOf (start + bytes) chars (aheadAll bytes nodes) =
      (argumentOf start chars nodes).ahead bytes := by
  match nodes with
  | [] => rfl
  | [_] => rfl
  | _ :: _ :: _ => rfl

mutual

/-- An operand that is written further on has the same node, further on. -/
theorem Operand.node_ahead : ∀ {signed : Bool} (o : Operand signed) (start bytes : Nat),
    o.node (start + bytes) = (o.node start).ahead bytes
  | _, .number _, _, _ => rfl
  | _, .reference _, _, _ => rfl
  | _, .group body, start, bytes => by
    have hbody := body.nodes_ahead (start + 1) bytes
    simp only [Operand.node, Node.ahead, Span.ahead, Nat.add_right_comm _ bytes, hbody]
  | _, .call name args, start, bytes => by
    have hargs := args.params_ahead (start + utf8Len ('$' :: name.chars ++ ['('])) bytes
    simp only [Operand.node, Node.ahead, Span.ahead, Nat.add_right_comm _ bytes, hargs]

theorem Tail.nodes_ahead : ∀ (t : Tail) (start bytes : Nat),
    t.nodes (start + bytes) = aheadAll bytes (t.nodes start)
  | .nil, _, _ => rfl
  | .more before op after operand _ rest, start, bytes => by
    have hoperand := operand.node_ahead
      (start + utf8Len before.chars + utf8Len op.symbol.toList + utf8Len after.chars) bytes
    have hrest := rest.nodes_ahead (start + utf8Len before.chars + utf8Len op.symbol.toList +
      utf8Len after.chars + utf8Len operand.chars) bytes
    simp only [Tail.nodes, aheadAll, Node.ahead, Span.ahead, Nat.add_right_comm _ bytes, hoperand,
      hrest]

theorem Level.nodes_ahead : ∀ (l : Level) (start bytes : Nat),
    l.nodes (start + bytes) = aheadAll bytes (l.nodes start)
  | .text _, _, _ => rfl
  | .chain first rest, start, bytes => by
    have hrest := rest.nodes_ahead (start + utf8Len first.chars) bytes
    simp only [Level.nodes, aheadAll, Nat.add_right_comm _ bytes,
      first.node_ahead start bytes, hrest]

theorem Padded.nodes_ahead : ∀ (p : Padded) (start bytes : Nat),
    p.nodes (start + bytes) = aheadAll bytes (p.nodes start)
  | .mk before level _, start, bytes => by
    have hlevel := level.nodes_ahead (start + utf8Len before.chars) bytes
    simp only [Padded.nodes, Nat.add_right_comm _ bytes, hlevel]

theorem Arguments.params_ahead : ∀ (args : Arguments) (start bytes : Nat),
    args.params (start + bytes) = aheadAll bytes (args.params start)
  | .none _, _, _ => rfl
  | .some levels, start, bytes => levels.params_ahead start bytes

theorem Levels.params_ahead : ∀ (levels : Levels) (start bytes : Nat),
    levels.params (start + bytes) = aheadAll bytes (levels.params start)
  | .last (.mk before level _), start, bytes => by
    have hlevel := level.nodes_ahead (start + utf8Len before.chars) bytes
    simp only [Levels.params, aheadAll, Nat.add_right_comm _ bytes, hlevel, argumentOf_ahead]
  | .more (.mk before level after) rest, start, bytes => by
    have hlevel := level.nodes_ahead (start + utf8Len before.chars) bytes
    have hrest := rest.params_ahead
      (start + utf8Len (Padded.mk before level after).chars + 1) bytes
    simp only [Levels.params, aheadAll, Nat.add_right_comm _ bytes, hlevel, hrest,
      argumentOf_ahead]

end

/-! ## The text of a node -/

/-- The text of a level, without blanks around it, is read as its nodes. -/
theorem tokenize_level (l : Level) : tokenize (String.ofList l.chars) = .ok (l.nodes 0) := by
  have hwritten := tokenize_written (.mk ⟨[], by simp⟩ l ⟨[], by simp⟩)
  simpa [Padded.chars, Padded.nodes] using hwritten

/-- A number alone is read as one node. -/
theorem Numeral.tokenize_text (n : Numeral) : tokenize (String.ofList n.chars) =
    .ok [.value ⟨0, String.ofList n.chars⟩ (.number n.value)] := by
  have hlevel := tokenize_level (.chain (.number n) .nil)
  rw [Level.chars, Tail.chars, List.append_nil] at hlevel
  exact hlevel

/-- A node whose own level is written somewhere is read again from its text. -/
theorem exists_tokenize_of_level {node : Node} (l : Level)
    (hchars : node.span.chars = String.ofList l.chars)
    (hlevel : node.ownLevel = l.nodes node.span.start) :
    ∃ own, tokenize node.span.chars = .ok own ∧
      node.ownLevel = own.map (Node.ahead node.span.start) := by
  refine ⟨l.nodes 0, ?_, ?_⟩
  · rw [hchars, tokenize_level]
  · rw [hlevel, ← aheadAll_eq_map, ← l.nodes_ahead, Nat.zero_add]

/-- An operand is on its own level alone. -/
theorem ownLevel_of_operandShape {node : Node} (h : OperandShape node) :
    node.ownLevel = [node] := by
  cases h with
  | group span body hbehind =>
    refine if_neg fun hstart => ?_
    obtain ⟨first, hfirst, heq⟩ := Option.map_eq_some_iff.mp hstart
    have := hbehind first hfirst
    omega
  | _ => rfl

theorem NodeOf.exists_tokenize {node : Node} (h : NodeOf node) (hop : node.isOperator = false) :
    ∃ own, tokenize node.span.chars = .ok own ∧
      node.ownLevel = own.map (Node.ahead node.span.start) := by
  cases h with
  | operator start op => cases hop
  | text t start => exact exists_tokenize_of_level (.text t) rfl rfl
  | operand o start =>
    refine exists_tokenize_of_level (.chain o .nil) ?_ ?_
    · rw [o.node_span, Level.chars, Tail.chars, List.append_nil]
    · rw [ownLevel_of_operandShape (o.operandShape start), o.node_span]
      rfl
  | wrapped first tail start hne =>
    refine exists_tokenize_of_level (.chain first tail) rfl ?_
    refine if_pos ?_
    rw [Level.nodes, List.head?_cons, Option.map_some, first.node_span]

end Written

/-! ## The law -/

/-- The law of the retained text: what a node keeps of the formula is read, by itself, as the
node again, or as the nodes that a wrapped argument spans, and every place in it is nearer to
the start by the place of the node. -/
theorem tokenize_retained {text : String} {nodes : List Node} (h : tokenize text = .ok nodes)
    {node : Node} (hnode : Within nodes node) (hop : node.isOperator = false) :
    ∃ own, tokenize node.span.chars = .ok own ∧
      node.ownLevel = own.map (Node.ahead node.span.start) := by
  obtain ⟨p, -, rfl⟩ := exists_written_of_tokenize h
  exact (p.nodeOf_within hnode).exists_tokenize hop

/-- The wrapped argument of a call that stands behind an operator. -/
theorem tokenize_retained_sum : ∃ nodes node, tokenize "2 * $f(1 + {ü}, 'x')" = .ok nodes ∧
    Within nodes node ∧ node.isOperator = false ∧ node.span = ⟨7, "1 + {ü}"⟩ ∧
    ∃ own, tokenize node.span.chars = .ok own ∧
      node.ownLevel = own.map (Node.ahead node.span.start) :=
  have h : tokenize "2 * $f(1 + {ü}, 'x')" = .ok [.value ⟨0, "2"⟩ (.number ⟨2, 0⟩),
      .operator ⟨2, "*"⟩ .multiply, .call ⟨4, "$f(1 + {ü}, 'x')"⟩ "f"
        [.group ⟨7, "1 + {ü}"⟩ [.value ⟨7, "1"⟩ (.number ⟨1, 0⟩), .operator ⟨9, "+"⟩ .add,
          .reference ⟨11, "{ü}"⟩ "ü"], .value ⟨17, "'x'"⟩ (.text "x")]] := rfl
  have hsum := Within.param (.here (List.mem_of_getLast? rfl)) List.mem_cons_self
  ⟨_, _, h, hsum, rfl, rfl, tokenize_retained h hsum rfl⟩

end Formulary
