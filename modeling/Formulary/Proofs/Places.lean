-- A formula has the same value wherever it stands. What its nodes are does not depend on its
-- place, except for the places of the nodes, and these have no part in what is computed.
import Formulary.Proofs.StackEvaluation
import Formulary.Proofs.Written

namespace Formulary

open String (utf8Len)

/-! ## Nodes without their places -/

/-- The piece of text alone. -/
def Span.placeless (s : Span) : Span := ⟨0, s.chars⟩

mutual

/-- The node, as if every piece of its text stood at the start. -/
def Node.placeless : Node → Node
  | .value span v => .value span.placeless v
  | .group span body => .group span.placeless (placelessAll body)
  | .operator span op => .operator span.placeless op
  | .comma span => .comma span.placeless
  | .reference span key => .reference span.placeless key
  | .call span method params => .call span.placeless method (placelessAll params)

def placelessAll : List Node → List Node
  | [] => []
  | node :: rest => node.placeless :: placelessAll rest

end

theorem placelessAll_eq_map (nodes : List Node) : placelessAll nodes = nodes.map Node.placeless := by
  induction nodes with
  | nil => rfl
  | cons node rest ih => rw [placelessAll, ih, List.map_cons]

theorem Node.span_placeless (node : Node) : node.placeless.span = node.span.placeless := by
  cases node <;> rfl

/-! ### Stack order -/

/-- The pending level, as if all of it stood at the start. -/
def Pending.placeless (p : Pending) : Pending :=
  ⟨placelessAll p.output, p.held.map fun (span, op) => (span.placeless, op)⟩

theorem Pending.placeless_pushOperator (p : Pending) (span : Span) (op : Operator) :
    (p.pushOperator span op).placeless = p.placeless.pushOperator span.placeless op := by
  unfold Pending.placeless pushOperator
  simp [placelessAll_eq_map, List.takeWhile_map, List.dropWhile_map, Function.comp_def,
    Node.placeless]

theorem Pending.finish_placeless (p : Pending) :
    p.placeless.finish = placelessAll p.finish := by
  unfold Pending.placeless finish
  simp [placelessAll_eq_map, Function.comp_def, Node.placeless]

mutual

theorem Node.inStackOrder_placeless :
    ∀ node : Node, node.placeless.inStackOrder = node.inStackOrder.placeless
  | .value _ _ => rfl
  | .group span body => by
    simp only [Node.placeless, Node.inStackOrder, pendingOf_placeless body,
      Pending.finish_placeless]
  | .operator _ _ => rfl
  | .comma _ => rfl
  | .reference _ _ => rfl
  | .call span method params => by
    simp only [Node.placeless, Node.inStackOrder, paramsInStackOrder_placeless params]

theorem pendingOf_placeless :
    ∀ nodes : List Node, pendingOf (placelessAll nodes) = (pendingOf nodes).placeless
  | [] => rfl
  | node :: rest => by
    have hnode := node.inStackOrder_placeless
    have hrest := pendingOf_placeless rest
    rw [pendingOf_eq_pushNodes] at hrest ⊢
    rw [pendingOf_eq_pushNodes] at hrest ⊢
    change Pending.pushNode (Pending.empty.pushNodes (placelessAll rest)) node.placeless =
      (Pending.pushNode (Pending.empty.pushNodes rest) node).placeless
    rw [hrest]
    -- Only an operator moves what waits; any other node gets its place at once.
    cases node with
    | operator span op => exact (Pending.placeless_pushOperator _ span op).symm
    | _ =>
      simp only [Pending.pushNode, Pending.pushOperand, Node.placeless] at hnode ⊢
      rw [hnode]
      rfl

theorem paramsInStackOrder_placeless : ∀ params : List Node,
    paramsInStackOrder (placelessAll params) = placelessAll (paramsInStackOrder params)
  | [] => rfl
  | param :: rest => by
    simp only [placelessAll, paramsInStackOrder, param.inStackOrder_placeless,
      paramsInStackOrder_placeless rest]

end

theorem stackOrder_placeless (nodes : List Node) :
    stackOrder (placelessAll nodes) = placelessAll (stackOrder nodes) := by
  rw [stackOrder, pendingOf_placeless, Pending.finish_placeless]
  rfl

/-! ### Evaluation -/

theorem checkTypes_placeless (params : List Node) (inputs : List Input) :
    Method.checkTypes (placelessAll params) inputs = Method.checkTypes params inputs := by
  induction params generalizing inputs with
  | nil => rfl
  | cons param rest ih =>
    cases inputs with
    | nil => cases param <;> rfl
    | cons input inputs =>
      cases param <;> simp only [placelessAll, Node.placeless, Method.checkTypes, ih] <;> rfl

/-- A call depends on its own text and on its arguments, wherever they stand. -/
theorem callValue_placeless (t : MethodTable) (span : Span) (method : String)
    (params : List Node) :
    t.callValue (.call span.placeless method (placelessAll params)) =
      t.callValue (.call span method params) := by
  unfold MethodTable.callValue
  dsimp only
  cases t.get? method with
  | none => rfl
  | some m =>
    dsimp only
    unfold Method.call
    rw [checkTypes_placeless, placelessAll_eq_map, List.length_map]
    rfl

mutual

theorem evaluateNode_placeless (env : Environment) : ∀ (node : Node) (stack : List Value),
    evaluateNode env stack node.placeless = evaluateNode env stack node
  | .value _ _, _ => rfl
  | .reference _ _, _ => rfl
  | .operator _ _, _ => rfl
  | .comma _, _ => rfl
  | .group span body, stack => by
    simp only [Node.placeless, evaluateNode, evaluateNodes_placeless env body]
  | .call span method params, stack => by
    simp only [Node.placeless, evaluateNode, evaluateParams_placeless env params]
    cases evaluateParams env params with
    | error fault => rfl
    | ok args =>
      change (· :: stack) <$> env.methods.callValue
        (.call span.placeless method (placelessAll args)) = _
      rw [callValue_placeless]
      rfl

theorem evaluateNodes_placeless (env : Environment) : ∀ (nodes : List Node) (stack : List Value),
    evaluateNodes env stack (placelessAll nodes) = evaluateNodes env stack nodes
  | [], _ => rfl
  | node :: rest, stack => by
    simp only [placelessAll, evaluateNodes, evaluateNode_placeless env node]
    refine bind_congr fun stack => ?_
    exact evaluateNodes_placeless env rest stack

theorem evaluateParams_placeless (env : Environment) : ∀ params : List Node,
    evaluateParams env (placelessAll params) = placelessAll <$> evaluateParams env params
  | [] => rfl
  | param :: rest => by
    simp only [placelessAll, evaluateParams, evaluateNode_placeless env param,
      evaluateParams_placeless env rest, Node.span_placeless, map_bind]
    refine bind_congr fun stack => bind_congr fun v => ?_
    cases evaluateParams env rest <;> rfl

end

/-- Where its nodes stand makes no difference to the value of a level. -/
theorem evaluate_of_placeless {nodes nodes' : List Node}
    (h : placelessAll nodes = placelessAll nodes') (env : Environment) :
    evaluate env (stackOrder nodes) = evaluate env (stackOrder nodes') := by
  unfold evaluate
  rw [← evaluateNodes_placeless env (stackOrder nodes), ← stackOrder_placeless, h,
    stackOrder_placeless, evaluateNodes_placeless]

/-! ## Formulas that move -/

namespace Written

theorem placeless_argumentOf {nodes nodes' : List Node} (start start' : Nat) (chars : List Char)
    (h : placelessAll nodes = placelessAll nodes') :
    (argumentOf start chars nodes).placeless = (argumentOf start' chars nodes').placeless := by
  rw [placelessAll_eq_map, placelessAll_eq_map] at h
  have hlength := congrArg List.length h
  rw [List.length_map, List.length_map] at hlength
  match nodes, nodes' with
  | [node], [node'] => exact List.head_eq_of_cons_eq h
  | [], [] => rfl
  | _ :: _ :: _, _ :: _ :: _ =>
    simp only [argumentOf, Node.placeless, placelessAll_eq_map, h]
    rfl
  | [], _ :: _ => cases hlength
  | _ :: _, [] => cases hlength
  | [_], _ :: _ :: _ => cases hlength
  | _ :: _ :: _, [_] => cases hlength

mutual

theorem Operand.placeless_node : ∀ {signed : Bool} (o : Operand signed) (start start' : Nat),
    (o.node start).placeless = (o.node start').placeless
  | _, .number _, _, _ => rfl
  | _, .reference _, _, _ => rfl
  | _, .group body, start, start' => by
    simp only [Operand.node, Node.placeless, body.placeless_nodes (start + 1) (start' + 1)]
    rfl
  | _, .call name args, start, start' => by
    simp only [Operand.node, Node.placeless, args.placeless_params
      (start + utf8Len ('$' :: name.chars ++ ['(']))
      (start' + utf8Len ('$' :: name.chars ++ ['(']))]
    rfl

theorem Tail.placeless_nodes : ∀ (t : Tail) (start start' : Nat),
    placelessAll (t.nodes start) = placelessAll (t.nodes start')
  | .nil, _, _ => rfl
  | .more before op after operand _ rest, start, start' => by
    simp only [Tail.nodes, placelessAll]
    rw [operand.placeless_node _ (start' + utf8Len before.chars + utf8Len op.symbol.toList +
      utf8Len after.chars), rest.placeless_nodes]
    rfl

theorem Level.placeless_nodes : ∀ (l : Level) (start start' : Nat),
    placelessAll (l.nodes start) = placelessAll (l.nodes start')
  | .text _, _, _ => rfl
  | .chain first rest, start, start' => by
    simp only [Level.nodes, placelessAll]
    rw [first.placeless_node start start', rest.placeless_nodes]

theorem Padded.placeless_nodes : ∀ (p : Padded) (start start' : Nat),
    placelessAll (p.nodes start) = placelessAll (p.nodes start')
  | .mk _ level _, _, _ => level.placeless_nodes _ _

theorem Arguments.placeless_params : ∀ (args : Arguments) (start start' : Nat),
    placelessAll (args.params start) = placelessAll (args.params start')
  | .none _, _, _ => rfl
  | .some levels, start, start' => levels.placeless_params start start'

theorem Levels.placeless_params : ∀ (levels : Levels) (start start' : Nat),
    placelessAll (levels.params start) = placelessAll (levels.params start')
  | .last (.mk before level _), start, start' => by
    have hlevel := level.placeless_nodes (start + utf8Len before.chars)
      (start' + utf8Len before.chars)
    simp only [Levels.params, placelessAll]
    rw [placeless_argumentOf _ (start' + utf8Len before.chars) level.chars hlevel]
  | .more (.mk before level after) rest, start, start' => by
    have hlevel := level.placeless_nodes (start + utf8Len before.chars)
      (start' + utf8Len before.chars)
    simp only [Levels.params, placelessAll]
    rw [placeless_argumentOf _ (start' + utf8Len before.chars) level.chars hlevel,
      rest.placeless_params]

end

/-- The value of a formula, wherever it stands. -/
def Padded.value (env : Environment) (p : Padded) : Except Fault Value :=
  evaluate env (stackOrder (p.nodes 0))

theorem Padded.evaluate_nodes (env : Environment) (p : Padded) (start : Nat) :
    evaluate env (stackOrder (p.nodes start)) = p.value env :=
  evaluate_of_placeless (p.placeless_nodes start 0) env

end Written

end Formulary
