-- A level in stack order has the value of its tree. The nodes of a tree that are put
-- on a pending level leave there what computes the tree: operands that have their place,
-- and after them operators that still wait and bind at least as tightly as the tree.
import Formulary.Proofs.Precedence
import Formulary.StackOrder

namespace Formulary

/-! ## Nodes put on a pending level -/

namespace Pending

/-- One more node at the left end of a pending level. -/
def pushNode (p : Pending) : Node → Pending
  | .operator span op => p.pushOperator span op
  | node => p.pushOperand node.inStackOrder

/-- The nodes of a level, from its right end to its left end. -/
def pushNodes (p : Pending) (nodes : List Node) : Pending :=
  nodes.foldr (fun node p => p.pushNode node) p

theorem pushNodes_append (p : Pending) (left right : List Node) :
    p.pushNodes (left ++ right) = (p.pushNodes right).pushNodes left := by
  rw [pushNodes, List.foldr_append]
  rfl

/-- The waiting operators as nodes. -/
def heldNodes (held : List (Span × Operator)) : List Node :=
  held.map fun (span, op) => Node.operator span op

/-- An operator sets free exactly the waiting ones that bind tighter, up to the first that does
not. -/
theorem pushOperator_append (output : List Node) (tight loose : List (Span × Operator))
    (span : Span) (op : Operator) (htight : ∀ h ∈ tight, op.rank < h.2.rank)
    (hloose : ∀ h ∈ loose.head?, h.2.rank ≤ op.rank) :
    pushOperator ⟨output, tight ++ loose⟩ span op =
      ⟨(heldNodes tight).reverse ++ output, (span, op) :: loose⟩ := by
  have htake : (tight ++ loose).takeWhile (fun h => decide (op.rank < h.2.rank)) = tight := by
    rw [List.takeWhile_append_of_pos (by simpa using htight)]
    cases loose with
    | nil => simp
    | cons h rest =>
      have := hloose h (by simp)
      rw [List.takeWhile_cons_of_neg (by simpa using this), List.append_nil]
  have hdrop : (tight ++ loose).dropWhile (fun h => decide (op.rank < h.2.rank)) = loose := by
    rw [List.dropWhile_append_of_pos (by simpa using htight)]
    cases loose with
    | nil => rfl
    | cons h rest =>
      have := hloose h (by simp)
      rw [List.dropWhile_cons_of_neg (by simpa using this)]
  unfold pushOperator
  simp only [Operator.weight_lt_weight, htake, hdrop]
  rfl

end Pending

theorem pendingOf_eq_pushNodes (nodes : List Node) :
    pendingOf nodes = Pending.empty.pushNodes nodes := by
  induction nodes with
  | nil => rfl
  | cons node rest ih =>
    cases node <;> simp only [pendingOf, ih] <;> rfl

theorem stackOrder_singleton (node : Node) : stackOrder [node] = [node.inStackOrder] := by
  cases node <;> rfl

/-! ## Nothing is lost -/

/-- One more node on a pending level is one more node of the level when it is finished. -/
theorem Pending.finish_pushNode (p : Pending) (node : Node) :
    (p.pushNode node).finish.Perm (node.inStackOrder :: p.finish) := by
  cases node with
  | operator span op =>
    let tighter (held : Span × Operator) : Bool := op.weight < held.2.weight
    have hheld : heldNodes p.held =
        heldNodes (p.held.takeWhile tighter) ++ heldNodes (p.held.dropWhile tighter) := by
      rw [heldNodes, heldNodes, heldNodes, ← List.map_append, List.takeWhile_append_dropWhile]
    change (((heldNodes (p.held.takeWhile tighter)).reverse ++ p.output).reverse ++
      .operator span op :: heldNodes (p.held.dropWhile tighter)).Perm
        (.operator span op :: (p.output.reverse ++ heldNodes p.held))
    rw [List.reverse_append, List.reverse_reverse, hheld, ← List.append_assoc]
    exact List.perm_middle
  | _ =>
    simp only [pushNode, pushOperand, finish, List.reverse_cons, List.append_assoc,
      List.singleton_append]
    exact List.perm_middle

/-- A level in stack order has the nodes of the level, each with the levels inside it in stack
order. -/
theorem stackOrder_perm (nodes : List Node) :
    (stackOrder nodes).Perm (nodes.map Node.inStackOrder) := by
  unfold stackOrder
  rw [pendingOf_eq_pushNodes]
  induction nodes with
  | nil => exact List.Perm.refl []
  | cons node rest ih => exact (Pending.finish_pushNode _ node).trans (ih.cons _)

theorem mem_stackOrder {nodes : List Node} {node : Node} :
    node ∈ stackOrder nodes ↔ ∃ n ∈ nodes, n.inStackOrder = node := by
  rw [(stackOrder_perm nodes).mem_iff, List.mem_map]

/-! ## Runs of the stack -/

theorem evaluateNodes_append (env : Environment) (stack : List Value) (a b : List Node) :
    evaluateNodes env stack (a ++ b) =
      (evaluateNodes env stack a >>= fun stack => evaluateNodes env stack b) := by
  induction a generalizing stack with
  | nil => rfl
  | cons node rest ih =>
    simp only [List.cons_append, evaluateNodes, bind_assoc, ih]

theorem evaluate_singleton (env : Environment) (node : Node) :
    evaluate env [node] = (evaluateNode env [] node >>= onlyValue) := by
  simp only [evaluate, evaluateNodes, bind_assoc]
  rfl

/-- The nodes compute the tree: they leave its value on top of any stack. -/
def Computes (nodes : List Node) (e : Expr) : Prop :=
  ∀ env stack, evaluateNodes env stack nodes = (e.evaluate env >>= fun v => .ok (v :: stack))

theorem Computes.binary {left right : List Node} {l r : Expr} (span : Span) (op : Operator)
    (hl : Computes left l) (hr : Computes right r) :
    Computes (right ++ left ++ [.operator span op]) (.binary op l r) := by
  intro env stack
  rw [evaluateNodes_append, evaluateNodes_append, hr env stack, Expr.evaluate]
  cases r.evaluate env with
  | error fault => rfl
  | ok y =>
    have hy : evaluateNodes env (y :: stack) left =
        (l.evaluate env >>= fun v => .ok (v :: y :: stack)) := hl env (y :: stack)
    simp only [ok_bind, hy]
    cases l.evaluate env with
    | error fault => rfl
    | ok x =>
      simp only [ok_bind, evaluateNodes, evaluateNode, applyToStack, bind_assoc]
      rfl

theorem computes_singleton {node : Node} {e : Expr}
    (h : ∀ env stack,
      evaluateNode env stack node = (e.evaluate env >>= fun v => .ok (v :: stack))) :
    Computes [node] e := by
  intro env stack
  rw [evaluateNodes, h]
  cases e.evaluate env <;> rfl

/-- A level that computes a tree has the value of the tree. -/
theorem Computes.onlyValue {nodes : List Node} {e : Expr} (h : Computes nodes e)
    (env : Environment) : (evaluateNodes env [] nodes >>= onlyValue) = e.evaluate env := by
  rw [h]
  cases e.evaluate env <;> rfl

/-! ## What a level adds -/

/-- From `p` to `q` the tree has been added: first what has its place, then operators that
wait and bind at least as tightly as `rank`. -/
def Adds (rank : Nat) (p q : Pending) (e : Expr) : Prop :=
  ∃ output held, q = ⟨output ++ p.output, held ++ p.held⟩ ∧
    (∀ h ∈ held, rank ≤ h.2.rank) ∧ Computes (output.reverse ++ Pending.heldNodes held) e

theorem Adds.operand (rank : Nat) (p : Pending) {node : Node} {e : Expr}
    (h : Computes [node] e) : Adds rank p (p.pushOperand node) e :=
  ⟨[node], [], rfl, by simp, h⟩

/-- The right side of an operator, the operator and its left side, put on a pending level one
after the other. -/
theorem Adds.binary {w : Nat} {p q q' : Pending} {l r : Expr} (span : Span) (op : Operator)
    (hw : w ≤ op.rank) (hp : ∀ h ∈ p.held, h.2.rank ≤ op.rank)
    (hr : Adds (op.rank + 1) p q r) (hl : Adds op.rank (q.pushOperator span op) q' l) :
    Adds w p q' (.binary op l r) := by
  obtain ⟨outr, heldr, rfl, htr, hcr⟩ := hr
  obtain ⟨outl, heldl, rfl, htl, hcl⟩ := hl
  rw [Pending.pushOperator_append _ _ _ span op htr fun h hh => hp h (List.mem_of_mem_head? hh)]
  refine ⟨outl ++ ((Pending.heldNodes heldr).reverse ++ outr), heldl ++ [(span, op)],
    by simp, ?_, ?_⟩
  · intro h hm
    rw [List.mem_append, List.mem_singleton] at hm
    rcases hm with hm | rfl
    · exact Nat.le_trans hw (htl h hm)
    · exact hw
  · have := hcl.binary span op hcr
    simpa [Pending.heldNodes] using this

/-- What has been added to nothing computes the tree. -/
theorem Adds.computes_finish {rank : Nat} {q : Pending} {e : Expr}
    (h : Adds rank .empty q e) : Computes q.finish e := by
  obtain ⟨output, held, rfl, -, hc⟩ := h
  simpa [Pending.finish, Pending.empty, Pending.heldNodes] using hc

@[simp] theorem Node.span_inStackOrder (node : Node) : node.inStackOrder.span = node.span := by
  cases node <;> rfl

mutual

theorem OperandMeans.computes :
    ∀ {node : Node} {e : Expr}, OperandMeans node e → Computes [node.inStackOrder] e
  | _, _, .value span v => computes_singleton fun _ _ => rfl
  | _, _, .reference span key => computes_singleton fun env stack => by
    simp only [Node.inStackOrder, evaluateNode, Expr.evaluate]
    cases env.lookup key <;> rfl
  | _, _, .group span body h => computes_singleton fun env stack => by
    have hbody := (h.adds .empty (by simp [Pending.empty])).computes_finish.onlyValue env
    rw [← pendingOf_eq_pushNodes] at hbody
    simp only [Node.inStackOrder, evaluateNode, Expr.evaluate]
    rw [← hbody, bind_assoc]
    rfl
  | _, _, .call span method h => computes_singleton fun env stack => by
    simp only [Node.inStackOrder, evaluateNode, Expr.evaluate, h.evaluateParams_eq, bind_assoc]
    cases evaluateArgs env _ with
    | error fault => rfl
    | ok params =>
      simp only [ok_bind]
      cases env.methods.callValue _ <;> rfl

/-- The tree of a level is added to any pending level in which nothing that waits binds tighter
than the level. -/
theorem LevelMeans.adds : ∀ {w : Nat} {nodes : List Node} {e : Expr}, LevelMeans w nodes e →
    ∀ p : Pending, (∀ h ∈ p.held, h.2.rank ≤ w) → Adds w p (p.pushNodes nodes) e
  | w, _, _, .operand _ node h => fun p _ => by
    have hnode : p.pushNodes [node] = p.pushOperand node.inStackOrder := by cases h <;> rfl
    rw [hnode]
    exact .operand w p h.computes
  | _, _, _, .binary left span op right hw hl hr => fun p hp => by
    have hp' : ∀ h ∈ p.held, h.2.rank ≤ op.rank := fun h hm => Nat.le_trans (hp h hm) hw
    have haddr := hr.adds p fun h hm => Nat.le_succ_of_le (hp' h hm)
    have hnodes : p.pushNodes (left ++ .operator span op :: right) =
        ((p.pushNodes right).pushOperator span op).pushNodes left := Pending.pushNodes_append _ _ _
    rw [hnodes]
    refine .binary span op hw hp' haddr (hl.adds _ ?_)
    obtain ⟨outr, heldr, hq, htr, -⟩ := haddr
    rw [hq, Pending.pushOperator_append _ _ _ span op htr fun h hh =>
      hp' h (List.mem_of_mem_head? hh)]
    intro h hm
    rcases List.mem_cons.mp hm with rfl | hm
    · exact Nat.le_refl _
    · exact hp' h hm

theorem ParamsMean.evaluateParams_eq : ∀ {params : List Node} {args : List (Span × Expr)},
    ParamsMean params args →
    ∀ env, evaluateParams env (paramsInStackOrder params) = evaluateArgs env args
  | _, _, .nil => fun _ => rfl
  | _, _, .cons h hs => fun env => by
    have hparam := h.computes.onlyValue env
    simp only [evaluateNodes, bind_assoc] at hparam
    simp only [paramsInStackOrder, evaluateParams, evaluateArgs, Node.span_inStackOrder,
      hs.evaluateParams_eq env, ← hparam, bind_assoc]
    rfl

end

/-! ## The value of a level -/

theorem LevelMeans.evaluate_eq {nodes : List Node} {e : Expr} (h : LevelMeans 0 nodes e)
    (env : Environment) : evaluate env (stackOrder nodes) = e.evaluate env := by
  have hadds := h.adds .empty (by simp [Pending.empty])
  rw [← pendingOf_eq_pushNodes] at hadds
  exact hadds.computes_finish.onlyValue env

/-- The law of stack order. A well-formed level has exactly one tree, and with all methods,
variables and bindings the level in stack order has the value of that tree, or its fault. -/
theorem evaluate_stackOrder {nodes : List Node} (h : IsLevel nodes) :
    ∃ e, (∀ e', LevelMeans 0 nodes e' ↔ e' = e) ∧
      ∀ env, evaluate env (stackOrder nodes) = e.evaluate env := by
  obtain ⟨e, he⟩ := h.exists_means
  refine ⟨e, fun e' => ⟨fun he' => he'.unique he, fun heq => heq ▸ he⟩, ?_⟩
  intro env
  have hadds := he.adds .empty (by simp [Pending.empty])
  rw [← pendingOf_eq_pushNodes] at hadds
  exact hadds.computes_finish.onlyValue env

/-- `8 - {x} * (3) - 2`, without its pieces of text. -/
def productBetweenDifferences : List Node :=
  [.value ⟨0, ""⟩ (.number (.ofInt 8)), .operator ⟨0, ""⟩ .subtract, .reference ⟨0, ""⟩ "x",
    .operator ⟨0, ""⟩ .multiply, .group ⟨0, ""⟩ [.value ⟨0, ""⟩ (.number (.ofInt 3))],
    .operator ⟨0, ""⟩ .subtract, .value ⟨0, ""⟩ (.number (.ofInt 2))]

/-- The product is computed before the left difference, and that one before the right one. -/
theorem evaluate_stackOrder_product : IsLevel productBetweenDifferences ∧
    ∀ env, evaluate env (stackOrder productBetweenDifferences) =
      (Expr.binary .subtract
        (.binary .subtract (.value (.number (.ofInt 8)))
          (.binary .multiply (.reference "x") (.group (.value (.number (.ofInt 3))))))
        (.value (.number (.ofInt 2)))).evaluate env := by
  have hlevel : IsLevel productBetweenDifferences :=
    .more _ _ (.value _ _) (.more _ _ (.reference _ _)
      (.more _ _ (.group _ (.operand (.value _ _))) (.operand (.value _ _))))
  obtain ⟨e, htree, hvalue⟩ := evaluate_stackOrder hlevel
  have hgroup : LevelMeans 3 [.group ⟨0, ""⟩ [.value ⟨0, ""⟩ (.number (.ofInt 3))]]
      (.group (.value (.number (.ofInt 3)))) :=
    .operand _ _ (.group _ _ (.operand _ _ (.value _ _)))
  have hproduct := LevelMeans.binary [.reference ⟨0, ""⟩ "x"] ⟨0, ""⟩ .multiply _ (Nat.le_refl 2)
    (.operand _ _ (.reference _ _)) hgroup
  have hleft := LevelMeans.binary [.value ⟨0, ""⟩ (.number (.ofInt 8))] ⟨0, ""⟩ .subtract _
    (Nat.le_refl 1) (.operand _ _ (.value _ _)) hproduct
  rw [(htree _).mp (.binary _ ⟨0, ""⟩ .subtract _ (Nat.zero_le _) hleft
    (.operand _ _ (.value _ _)))]
  exact ⟨hlevel, hvalue⟩

end Formulary
