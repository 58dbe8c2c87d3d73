-- What stack order does to the nodes of a formula. Whatever the nodes are, each of them is there
-- once and stands for the same piece of text: operators move behind what they are applied to, all
-- other nodes come in the opposite order, and the arguments of a call stay in theirs. If the nodes
-- are those of a well-formed level, putting the left side of each operator back in front of it
-- gives the level as it was.
import Formulary.Proofs.StackEvaluation

namespace Formulary

/-! ## Nodes rearranged -/

/-- The nodes of a level that are no operators, in their order. -/
def operandsOf (nodes : List Node) : List Node := nodes.filter fun node => !node.isOperator

mutual

/-- The second node is the first one with the levels inside it rearranged. It stands for the same
piece of text. -/
inductive NodeRearranged : Node → Node → Prop
  | value (span : Span) (v : Value) : NodeRearranged (.value span v) (.value span v)
  | operator (span : Span) (op : Operator) : NodeRearranged (.operator span op) (.operator span op)
  | comma (span : Span) : NodeRearranged (.comma span) (.comma span)
  | reference (span : Span) (key : String) :
      NodeRearranged (.reference span key) (.reference span key)
  | group (span : Span) {body body' : List Node} :
      LevelRearranged body body' → NodeRearranged (.group span body) (.group span body')
  | call (span : Span) (method : String) {params params' : List Node} :
      EachRearranged params params' →
      NodeRearranged (.call span method params) (.call span method params')

/-- The second level has the nodes of the first one, each of them rearranged, and no others. Those
that are no operators come in the opposite order. -/
inductive LevelRearranged : List Node → List Node → Prop
  | mk {level each level' : List Node} : EachRearranged level each → level'.Perm each →
      operandsOf level' = (operandsOf each).reverse → LevelRearranged level level'

/-- As many nodes in the same order, each of them rearranged. -/
inductive EachRearranged : List Node → List Node → Prop
  | nil : EachRearranged [] []
  | cons {node node' : Node} {nodes nodes' : List Node} :
      NodeRearranged node node' → EachRearranged nodes nodes' →
      EachRearranged (node :: nodes) (node' :: nodes')

end

/-! ## Nothing is lost or doubled -/

theorem operandsOf_append (left right : List Node) :
    operandsOf (left ++ right) = operandsOf left ++ operandsOf right :=
  List.filter_append left right

theorem operandsOf_reverse (nodes : List Node) :
    operandsOf nodes.reverse = (operandsOf nodes).reverse := List.filter_reverse

namespace Pending

theorem operandsOf_heldNodes (held : List (Span × Operator)) :
    operandsOf (heldNodes held) = [] := by
  induction held with
  | nil => rfl
  | cons h held ih => exact ih

/-- An operator moves others, and no operand. -/
theorem operandsOf_pushNode (p : Pending) (node : Node) :
    operandsOf (p.pushNode node).output =
      operandsOf [node.inStackOrder] ++ operandsOf p.output := by
  cases node with
  | operator span op =>
    change operandsOf ((heldNodes _).reverse ++ p.output) = _
    rw [operandsOf_append, operandsOf_reverse, operandsOf_heldNodes]
    rfl
  | _ => exact operandsOf_append [_] p.output

end Pending

theorem operandsOf_pendingOf (nodes : List Node) :
    operandsOf (pendingOf nodes).output = operandsOf (nodes.map Node.inStackOrder) := by
  rw [pendingOf_eq_pushNodes]
  induction nodes with
  | nil => rfl
  | cons node rest ih =>
    have hnode := Pending.operandsOf_pushNode (Pending.empty.pushNodes rest) node
    rw [ih, ← operandsOf_append] at hnode
    exact hnode

theorem operandsOf_stackOrder (nodes : List Node) :
    operandsOf (stackOrder nodes) = (operandsOf (nodes.map Node.inStackOrder)).reverse := by
  have hfinish : stackOrder nodes =
      (pendingOf nodes).output.reverse ++ Pending.heldNodes (pendingOf nodes).held := rfl
  rw [hfinish, operandsOf_append, operandsOf_reverse, operandsOf_pendingOf,
    Pending.operandsOf_heldNodes, List.append_nil]

theorem paramsInStackOrder_eq_map (params : List Node) :
    paramsInStackOrder params = params.map Node.inStackOrder := by
  induction params with
  | nil => rfl
  | cons param rest ih => rw [paramsInStackOrder, ih, List.map_cons]

mutual

theorem Node.rearranged : ∀ node : Node, NodeRearranged node node.inStackOrder
  | .value span v => .value span v
  | .operator span op => .operator span op
  | .comma span => .comma span
  | .reference span key => .reference span key
  | .group span body =>
    .group span (.mk (eachRearranged body) (stackOrder_perm body) (operandsOf_stackOrder body))
  | .call span method params => by
    have hparams := eachRearranged params
    rw [← paramsInStackOrder_eq_map] at hparams
    exact .call span method hparams

theorem eachRearranged : ∀ nodes : List Node, EachRearranged nodes (nodes.map Node.inStackOrder)
  | [] => .nil
  | node :: rest => .cons node.rearranged (eachRearranged rest)

end

theorem levelRearranged (nodes : List Node) : LevelRearranged nodes (stackOrder nodes) :=
  .mk (eachRearranged nodes) (stackOrder_perm nodes) (operandsOf_stackOrder nodes)

/-! ## The order of the text again -/

/-- The two latest pieces of a level become one, with the operator between them. The later piece
is the left side. -/
def joinPieces (span : Span) (op : Operator) : List (List Node) → List (List Node)
  | left :: right :: pieces => (left ++ .operator span op :: right) :: pieces
  | pieces => pieces

mutual

/-- Puts the levels inside a node into the order of the text. -/
def Node.inTextOrder : Node → Node
  | .group span body => .group span (textPieces [] body).flatten
  | .call span method params => .call span method (paramsInTextOrder params)
  | .value span v => .value span v
  | .operator span op => .operator span op
  | .comma span => .comma span
  | .reference span key => .reference span key

/-- Goes through a level in stack order, with the pieces that have been put together, latest
first. -/
def textPieces (pieces : List (List Node)) : List Node → List (List Node)
  | [] => pieces
  | node :: rest =>
    match node with
    | .operator span op => textPieces (joinPieces span op pieces) rest
    | node => textPieces ([node.inTextOrder] :: pieces) rest

def paramsInTextOrder : List Node → List Node
  | [] => []
  | node :: rest => node.inTextOrder :: paramsInTextOrder rest

end

/-- A level in the order of the text, made of one in stack order. -/
def textOrder (nodes : List Node) : List Node := (textPieces [] nodes).flatten

theorem textPieces_append (pieces : List (List Node)) (first second : List Node) :
    textPieces pieces (first ++ second) = textPieces (textPieces pieces first) second := by
  induction first generalizing pieces with
  | nil => rfl
  | cons node first ih => cases node <;> exact ih _

/-! ## Levels that fall apart at an operator -/

theorem operator_mem_of_mem_held {nodes : List Node} {h : Span × Operator}
    (hh : h ∈ (pendingOf nodes).held) : .operator h.1 h.2 ∈ nodes := by
  have hmem : Node.operator h.1 h.2 ∈ stackOrder nodes :=
    List.mem_append_right _ (List.mem_map_of_mem hh)
  obtain ⟨node, hnode, heq⟩ := mem_stackOrder.mp hmem
  cases node with
  | operator span op => exact heq ▸ hnode
  | _ => cases heq

namespace Pending

theorem exists_tighter (held : List (Span × Operator)) (op : Operator) : ∃ tight loose,
    held = tight ++ loose ∧ (∀ h ∈ tight, op.rank < h.2.rank) ∧
      ∀ h ∈ loose.head?, h.2.rank ≤ op.rank := by
  induction held with
  | nil => exact ⟨[], [], rfl, by simp, by simp⟩
  | cons h held ih =>
    by_cases hlt : op.rank < h.2.rank
    · obtain ⟨tight, loose, rfl, htight, hloose⟩ := ih
      exact ⟨h :: tight, loose, rfl, List.forall_mem_cons.mpr ⟨hlt, htight⟩, hloose⟩
    · exact ⟨[], h :: held, rfl, by simp, by simpa using hlt⟩

/-- Operators that bind no tighter wait on, behind the others. -/
theorem pushOperator_behind (p : Pending) (span : Span) (op : Operator) (output : List Node)
    {waiting : List (Span × Operator)} (hwaiting : ∀ h ∈ waiting, h.2.rank ≤ op.rank) :
    pushOperator ⟨p.output ++ output, p.held ++ waiting⟩ span op =
      ⟨(p.pushOperator span op).output ++ output, (p.pushOperator span op).held ++ waiting⟩ := by
  obtain ⟨placed, held⟩ := p
  obtain ⟨tight, loose, rfl, htight, hloose⟩ := exists_tighter held op
  have hbehind : ∀ h ∈ (loose ++ waiting).head?, h.2.rank ≤ op.rank := by
    cases loose with
    | nil => exact fun h hh => hwaiting h (List.mem_of_mem_head? hh)
    | cons h rest => exact hloose
  dsimp only
  rw [List.append_assoc, pushOperator_append _ tight _ span op htight hbehind,
    pushOperator_append _ tight loose span op htight hloose, List.append_assoc]
  rfl

/-- Nodes whose operators all bind at least as tightly as those that wait already leave them
waiting. -/
theorem pushNodes_eq {rank : Nat} (p : Pending) (hp : ∀ h ∈ p.held, h.2.rank ≤ rank)
    {nodes : List Node} (hnodes : ∀ span op, .operator span op ∈ nodes → rank ≤ op.rank) :
    p.pushNodes nodes =
      ⟨(pendingOf nodes).output ++ p.output, (pendingOf nodes).held ++ p.held⟩ := by
  induction nodes with
  | nil => rfl
  | cons node rest ih =>
    have hrest := ih fun span op hop => hnodes span op (List.mem_cons_of_mem node hop)
    change (p.pushNodes rest).pushNode node = _
    rw [hrest]
    cases node with
    | operator span op =>
      have hop := hnodes span op List.mem_cons_self
      exact pushOperator_behind (pendingOf rest) span op p.output fun h hh =>
        Nat.le_trans (hp h hh) hop
    | _ => rfl

end Pending

/-- A level falls apart at an operator that binds no tighter than those to its left, and less tight
than those to its right. -/
theorem stackOrder_operator {left right : List Node} (span : Span) {op : Operator}
    (hleft : ∀ s o, .operator s o ∈ left → op.rank ≤ o.rank)
    (hright : ∀ s o, .operator s o ∈ right → op.rank + 1 ≤ o.rank) :
    stackOrder (left ++ .operator span op :: right) =
      stackOrder right ++ stackOrder left ++ [.operator span op] := by
  have htight : ∀ h ∈ (pendingOf right).held, op.rank < h.2.rank := fun h hh =>
    hright h.1 h.2 (operator_mem_of_mem_held hh)
  have hpush := Pending.pushOperator_append (pendingOf right).output (pendingOf right).held [] span
    op htight (by simp)
  rw [List.append_nil] at hpush
  have hlevel : pendingOf (left ++ .operator span op :: right) =
      ((pendingOf right).pushOperator span op).pushNodes left := by
    rw [pendingOf_eq_pushNodes, Pending.pushNodes_append, pendingOf_eq_pushNodes right]
    rfl
  have hwaits : ∀ h ∈ [(span, op)], h.2.rank ≤ op.rank := by simp
  unfold stackOrder
  rw [hlevel, hpush, Pending.pushNodes_eq _ hwaits hleft]
  simp [Pending.finish, Pending.heldNodes]

/-! ## Levels restored -/

mutual

theorem OperandMeans.inTextOrder_eq : ∀ {node : Node} {e : Expr}, OperandMeans node e →
    node.inStackOrder.inTextOrder = node
  | _, _, .value span v => rfl
  | _, _, .reference span key => rfl
  | _, _, .group span body h => by
    change Node.group span (textPieces [] (stackOrder body)).flatten = _
    rw [h.textPieces_eq [], List.flatten_singleton]
  | _, _, .call span method h => by
    change Node.call span method (paramsInTextOrder (paramsInStackOrder _)) = _
    rw [h.paramsInTextOrder_eq]

/-- A level is put together again, whatever pieces there are before it. -/
theorem LevelMeans.textPieces_eq : ∀ {w : Nat} {nodes : List Node} {e : Expr},
    LevelMeans w nodes e → ∀ pieces, textPieces pieces (stackOrder nodes) = nodes :: pieces
  | _, _, _, .operand _ node h => fun pieces => by
    have hpiece : textPieces pieces (stackOrder [node]) =
        [node.inStackOrder.inTextOrder] :: pieces := by
      rw [stackOrder_singleton]
      cases h <;> rfl
    rw [hpiece, h.inTextOrder_eq]
  | _, _, _, .binary left span op right _ hl hr => fun pieces => by
    -- Each side is one piece when the operator comes, and the left side is the later one.
    rw [stackOrder_operator span hl.rank_le hr.rank_le, textPieces_append, textPieces_append,
      hr.textPieces_eq, hl.textPieces_eq]
    rfl

theorem ParamsMean.paramsInTextOrder_eq : ∀ {params : List Node} {args : List (Span × Expr)},
    ParamsMean params args → paramsInTextOrder (paramsInStackOrder params) = params
  | _, _, .nil => rfl
  | _, _, .cons h hs => by
    rw [paramsInStackOrder, paramsInTextOrder, h.inTextOrder_eq, hs.paramsInTextOrder_eq]

end

theorem textOrder_stackOrder {nodes : List Node} (h : IsLevel nodes) :
    textOrder (stackOrder nodes) = nodes := by
  obtain ⟨e, he⟩ := h.exists_means
  rw [textOrder, he.textPieces_eq [], List.flatten_singleton]

/-! ## The law -/

/-- The law of rearrangement. Stack order changes the order of any nodes and nothing else, at every
depth; and a well-formed level can be told from its stack order, since it is that in the order of
the text again. -/
theorem stackOrder_rearranges (nodes : List Node) :
    (stackOrder nodes).Perm (nodes.map Node.inStackOrder) ∧
      LevelRearranged nodes (stackOrder nodes) ∧
      (IsLevel nodes → textOrder (stackOrder nodes) = nodes ∧
        ∀ others, IsLevel others → stackOrder others = stackOrder nodes → others = nodes) := by
  refine ⟨stackOrder_perm nodes, levelRearranged nodes, fun hlevel =>
    ⟨textOrder_stackOrder hlevel, ?_⟩⟩
  intro others hothers hsame
  rw [← textOrder_stackOrder hothers, hsame, textOrder_stackOrder hlevel]

/-- The nodes of `{x}<$f(2,3-1)*(4)`. -/
def comparisonWithProduct : List Node :=
  [.reference ⟨0, "{x}"⟩ "x", .operator ⟨3, "<"⟩ .less,
    .call ⟨4, "$f(2,3-1)"⟩ "f" [.value ⟨7, "2"⟩ (.number (.ofInt 2)),
      .group ⟨9, "3-1"⟩ [.value ⟨9, "3"⟩ (.number (.ofInt 3)), .operator ⟨10, "-"⟩ .subtract,
        .value ⟨11, "1"⟩ (.number (.ofInt 1))]],
    .operator ⟨13, "*"⟩ .multiply, .group ⟨14, "(4)"⟩ [.value ⟨15, "4"⟩ (.number (.ofInt 4))]]

/-- No other well-formed level has the stack order of this one. -/
theorem stackOrder_rearranges_comparison : IsLevel comparisonWithProduct ∧
    textOrder (stackOrder comparisonWithProduct) = comparisonWithProduct ∧
      ∀ others, IsLevel others → stackOrder others = stackOrder comparisonWithProduct →
        others = comparisonWithProduct := by
  have hdifference : IsLevel [.value ⟨9, "3"⟩ (.number (.ofInt 3)), .operator ⟨10, "-"⟩ .subtract,
      .value ⟨11, "1"⟩ (.number (.ofInt 1))] := .more _ _ (.value _ _) (.operand (.value _ _))
  have hlevel : IsLevel comparisonWithProduct :=
    .more _ _ (.reference _ _) (.more _ _
      (.call _ _ (.cons (.value _ _) (.cons (.group _ hdifference) .nil)))
      (.operand (.group _ (.operand (.value _ _)))))
  obtain ⟨-, -, hrestored⟩ := stackOrder_rearranges comparisonWithProduct
  exact ⟨hlevel, hrestored hlevel⟩

end Formulary
