-- Which levels have a value, whoever has made them. Values are pending until an operator takes
-- two of them. If a level has a value, no operator has found fewer than two, one value is
-- left at the end, and the same is true of every level inside it: the level is a tree, with each
-- node in its place, and the value is the value of the tree.
import Formulary.Proofs.StackEvaluation
import Formulary.Proofs.WellFormed

namespace Formulary

/-! ## Balanced levels -/

/-- By how much a node changes the number of pending values. An operator takes two and leaves
one. -/
def Node.effect : Node → Int
  | .operator _ _ => -1
  | _ => 1

/-- The number of pending values behind some nodes. -/
def pendingValues (nodes : List Node) : Int := (nodes.map Node.effect).sum

/-- Each operator finds two values that are pending, and one is pending at the end. There is no
comma. -/
structure BalancedLevel (level : List Node) : Prop where
  two_le : ∀ before span op after, level = before ++ .operator span op :: after →
    2 ≤ pendingValues before
  eq_one : pendingValues level = 1
  no_comma : ∀ node ∈ level, node.isComma = false

/-- The levels of a formula: that of its own nodes, those in groups at any depth, and for each
argument of a call the level that it is by itself. -/
inductive LevelOf (nodes : List Node) : List Node → Prop
  | self : LevelOf nodes nodes
  | body {span : Span} {body : List Node} : Within nodes (.group span body) → LevelOf nodes body
  | argument {span : Span} {method : String} {params : List Node} {param : Node} :
      Within nodes (.call span method params) → param ∈ params → LevelOf nodes [param]

@[simp] theorem pendingValues_nil : pendingValues [] = 0 := rfl

@[simp] theorem pendingValues_cons (node : Node) (rest : List Node) :
    pendingValues (node :: rest) = node.effect + pendingValues rest := by
  simp [pendingValues]

/-! ## Trees in stack order -/

mutual

/-- The node is an operand that stands for the tree, all levels inside it being in stack
order. -/
inductive OperandOf : Node → Expr → Prop
  | value (span : Span) (v : Value) : OperandOf (.value span v) (.value v)
  | reference (span : Span) (key : String) : OperandOf (.reference span key) (.reference key)
  | group (span : Span) {body : List Node} {e : Expr} :
      TreeOf body e → OperandOf (.group span body) (.group e)
  | call (span : Span) (method : String) {params : List Node} {args : List (Span × Expr)} :
      ArgumentsOf params args → OperandOf (.call span method params) (.call span method args)

/-- The nodes are those of the tree: behind the right side of an operator stands the left side,
and behind both the operator. -/
inductive TreeOf : List Node → Expr → Prop
  | operand {node : Node} {e : Expr} : OperandOf node e → TreeOf [node] e
  | binary {right left : List Node} {r l : Expr} (span : Span) (op : Operator) :
      TreeOf right r → TreeOf left l → TreeOf (right ++ left ++ [.operator span op]) (.binary op l r)

/-- Each argument is an operand, and stands for its tree. -/
inductive ArgumentsOf : List Node → List (Span × Expr) → Prop
  | nil : ArgumentsOf [] []
  | cons {param : Node} {e : Expr} {params : List Node} {args : List (Span × Expr)} :
      OperandOf param e → ArgumentsOf params args →
      ArgumentsOf (param :: params) ((param.span, e) :: args)

end

/-! ## One node -/

variable {env : Environment} {stack stack' : List Value} {nodes : List Node} {node : Node}
  {v : Value}

theorem exists_of_onlyValue {result : Except Fault (List Value)}
    (h : (result >>= onlyValue) = .ok v) : result = .ok [v] := by
  obtain ⟨stack, rfl, hstack⟩ := exists_of_bind_eq_ok h
  unfold onlyValue at hstack
  split at hstack
  · cases hstack
    rfl
  · cases hstack

theorem evaluate_eq_ok_iff : evaluate env nodes = .ok v ↔ evaluateNodes env [] nodes = .ok [v] := by
  constructor
  · exact exists_of_onlyValue
  · intro h
    unfold evaluate
    rw [h]
    rfl

/-- An operator takes the two values on top, the left one first. -/
theorem exists_of_applyToStack {op : Operator} (h : applyToStack op stack = .ok stack') :
    ∃ left right rest v, stack = left :: right :: rest ∧ stack' = v :: rest ∧
      (do
        let x ← numberOperand left
        let y ← numberOperand right
        op.apply x y) = .ok v := by
  unfold applyToStack at h
  split at h
  · rename_i left right rest
    obtain ⟨x, hx, h⟩ := exists_of_bind_eq_ok h
    obtain ⟨y, hy, h⟩ := exists_of_bind_eq_ok h
    obtain ⟨v, hv, h⟩ := exists_of_bind_eq_ok h
    cases h
    refine ⟨left, right, rest, v, rfl, rfl, ?_⟩
    rw [hx, ok_bind, hy, ok_bind, hv]
  · cases h

/-- An operand leaves one value on the stack, and has nothing to do with those below. -/
theorem exists_of_evaluateNode (hoperator : node.isOperator = false)
    (h : evaluateNode env stack node = .ok stack') :
    ∃ v, stack' = v :: stack ∧ evaluateNode env [] node = .ok [v] := by
  cases node with
  | value span w =>
    cases h
    exact ⟨w, rfl, rfl⟩
  | reference span key =>
    unfold evaluateNode at h ⊢
    cases hkey : env.lookup key with
    | error fault =>
      rw [hkey] at h
      cases h
    | ok w =>
      rw [hkey] at h
      cases h
      exact ⟨w, rfl, rfl⟩
  | operator span op => cases hoperator
  | group span body =>
    unfold evaluateNode at h ⊢
    obtain ⟨inner, hinner, h⟩ := exists_of_bind_eq_ok h
    obtain ⟨w, hw, h⟩ := exists_of_bind_eq_ok h
    cases h
    refine ⟨w, rfl, ?_⟩
    rw [hinner, ok_bind, hw, ok_bind]
    rfl
  | call span method params =>
    unfold evaluateNode at h ⊢
    obtain ⟨args, hargs, h⟩ := exists_of_bind_eq_ok h
    rw [hargs, ok_bind]
    cases hcall : env.methods.callValue (.call span method args) with
    | error fault =>
      rw [hcall] at h
      cases h
    | ok w =>
      rw [hcall] at h
      cases h
      exact ⟨w, rfl, rfl⟩
  | comma start => cases h

/-! ## The number of pending values -/

theorem length_of_evaluateNode (h : evaluateNode env stack node = .ok stack') :
    (stack'.length : Int) = stack.length + node.effect := by
  by_cases hoperator : node.isOperator = true
  · cases node with
    | operator span op =>
      obtain ⟨left, right, rest, v, rfl, rfl, -⟩ := exists_of_applyToStack h
      simp only [List.length_cons, Node.effect]
      omega
    | _ => cases hoperator
  · rw [Bool.not_eq_true] at hoperator
    obtain ⟨v, rfl, -⟩ := exists_of_evaluateNode hoperator h
    cases node with
    | operator span op => cases hoperator
    | _ => simp [Node.effect]

theorem length_of_evaluateNodes (h : evaluateNodes env stack nodes = .ok stack') :
    (stack'.length : Int) = stack.length + pendingValues nodes := by
  induction nodes generalizing stack with
  | nil =>
    cases h
    simp
  | cons node rest ih =>
    obtain ⟨middle, hnode, hrest⟩ := exists_of_bind_eq_ok h
    have hfirst := length_of_evaluateNode hnode
    rw [ih hrest, hfirst, pendingValues_cons]
    omega

/-- Every node of a run has been computed on some stack. -/
theorem exists_run_of_mem (h : evaluateNodes env stack nodes = .ok stack') (hnode : node ∈ nodes) :
    ∃ before after, evaluateNode env before node = .ok after := by
  induction nodes generalizing stack with
  | nil => cases hnode
  | cons first rest ih =>
    obtain ⟨middle, hfirst, hrest⟩ := exists_of_bind_eq_ok h
    rcases List.mem_cons.mp hnode with rfl | hnode
    · exact ⟨stack, middle, hfirst⟩
    · exact ih hrest hnode

/-- A level that has a value is balanced. -/
theorem balanced_of_value (h : evaluate env nodes = .ok v) : BalancedLevel nodes := by
  rw [evaluate_eq_ok_iff] at h
  constructor
  · rintro before span op after rfl
    rw [evaluateNodes_append] at h
    obtain ⟨middle, hbefore, h⟩ := exists_of_bind_eq_ok h
    obtain ⟨_, hoperator, -⟩ := exists_of_bind_eq_ok h
    obtain ⟨left, right, rest, v, rfl, -, -⟩ := exists_of_applyToStack hoperator
    have hlength := length_of_evaluateNodes hbefore
    simp only [List.length_cons, List.length_nil] at hlength
    omega
  · have hlength := length_of_evaluateNodes h
    simp only [List.length_cons, List.length_nil] at hlength
    omega
  · intro node hnode
    obtain ⟨before, after, hrun⟩ := exists_run_of_mem h hnode
    cases node with
    | comma start => cases hrun
    | _ => rfl

/-! ## The levels inside -/

theorem exists_value_of_param {params args : List Node} {param : Node}
    (h : evaluateParams env params = .ok args) (hparam : param ∈ params) :
    ∃ v, evaluate env [param] = .ok v := by
  induction params generalizing args with
  | nil => cases hparam
  | cons first rest ih =>
    unfold evaluateParams at h
    rw [← bind_assoc, ← evaluate_singleton] at h
    obtain ⟨v, hv, h⟩ := exists_of_bind_eq_ok h
    obtain ⟨_, hrest, -⟩ := exists_of_bind_eq_ok h
    rcases List.mem_cons.mp hparam with rfl | hparam
    · exact ⟨v, hv⟩
    · exact ih hrest hparam

/-- In a level that has a value, every node at any depth has been computed on some stack. -/
theorem exists_run_of_within (h : evaluate env nodes = .ok v) (hnode : Within nodes node) :
    ∃ before after, evaluateNode env before node = .ok after := by
  induction hnode with
  | here hnode => exact exists_run_of_mem (evaluate_eq_ok_iff.mp h) hnode
  | body _ hnode ih =>
    obtain ⟨before, after, hgroup⟩ := ih
    obtain ⟨inner, hinner, -⟩ := exists_of_bind_eq_ok hgroup
    exact exists_run_of_mem hinner hnode
  | param _ hparam ih =>
    obtain ⟨before, after, hcall⟩ := ih
    unfold evaluateNode at hcall
    obtain ⟨args, hargs, -⟩ := exists_of_bind_eq_ok hcall
    obtain ⟨w, hw⟩ := exists_value_of_param hargs hparam
    rw [evaluate_eq_ok_iff] at hw
    exact exists_run_of_mem hw (List.mem_singleton_self _)

/-- Every level inside a level that has a value has one too. -/
theorem exists_value_of_levelOf {level : List Node} (h : evaluate env nodes = .ok v)
    (hlevel : LevelOf nodes level) : ∃ w, evaluate env level = .ok w := by
  cases hlevel with
  | self => exact ⟨v, h⟩
  | body hgroup =>
    obtain ⟨before, after, hrun⟩ := exists_run_of_within h hgroup
    unfold evaluateNode at hrun
    rw [← bind_assoc] at hrun
    obtain ⟨w, hw, -⟩ := exists_of_bind_eq_ok hrun
    exact ⟨w, hw⟩
  | argument hcall hparam =>
    obtain ⟨before, after, hrun⟩ := exists_run_of_within h hcall
    unfold evaluateNode at hrun
    obtain ⟨args, hargs, -⟩ := exists_of_bind_eq_ok hrun
    exact exists_value_of_param hargs hparam

/-! ## The tree of a run -/

/-- The nodes are trees one behind the other, and their values lie on the stack, the last one on
top. -/
inductive Loaded (env : Environment) : List Node → List Value → Prop
  | nil : Loaded env [] []
  | push {before nodes : List Node} {stack : List Value} {e : Expr} {v : Value} :
      Loaded env before stack → TreeOf nodes e → e.evaluate env = .ok v →
      Loaded env (before ++ nodes) (v :: stack)

/-- An operator makes one tree of the last two. -/
theorem Loaded.operator {before : List Node} {op : Operator} (span : Span)
    (h : Loaded env before stack) (hop : applyToStack op stack = .ok stack') :
    Loaded env (before ++ [.operator span op]) stack' := by
  obtain ⟨left, right, rest, v, rfl, rfl, hv⟩ := exists_of_applyToStack hop
  cases h with
  | push h hl hleft =>
    cases h with
    | push h hr hright =>
      rw [List.append_assoc, List.append_assoc, ← List.append_assoc _ _ [_]]
      refine h.push (.binary span op hr hl) ?_
      unfold Expr.evaluate
      rw [hright, ok_bind, hleft, ok_bind, hv]

/-- One tree and one value are a tree with that value. -/
theorem Loaded.exists_treeOf (h : Loaded env nodes [v]) :
    ∃ e, TreeOf nodes e ∧ e.evaluate env = .ok v := by
  cases h with
  | push h htree hv =>
    cases h
    exact ⟨_, htree, hv⟩

mutual

theorem exists_operandOf : ∀ {node : Node} {v : Value}, node.isOperator = false →
    evaluateNode env [] node = .ok [v] → ∃ e, OperandOf node e ∧ e.evaluate env = .ok v
  | .value span w, v, _, h => by
    cases h
    exact ⟨_, .value span w, rfl⟩
  | .reference span key, v, _, h => by
    unfold evaluateNode at h
    refine ⟨_, .reference span key, ?_⟩
    cases hkey : env.lookup key with
    | error fault =>
      rw [hkey] at h
      cases h
    | ok w =>
      rw [hkey] at h
      cases h
      exact hkey
  | .operator _ _, _, hoperator, _ => by cases hoperator
  | .group span body, v, _, h => by
    unfold evaluateNode at h
    rw [← bind_assoc] at h
    obtain ⟨w, hw, h⟩ := exists_of_bind_eq_ok h
    cases h
    obtain ⟨e, htree, hv⟩ := (Loaded.run body .nil (exists_of_onlyValue hw)).exists_treeOf
    exact ⟨_, .group span htree, hv⟩
  | .call span method params, v, _, h => by
    unfold evaluateNode at h
    obtain ⟨values, hvalues, h⟩ := exists_of_bind_eq_ok h
    obtain ⟨args, hargs, hsame⟩ := exists_argumentsOf hvalues
    refine ⟨_, .call span method hargs, ?_⟩
    unfold Expr.evaluate
    rw [hsame, ok_bind]
    cases hcall : env.methods.callValue (.call span method values) with
    | error fault =>
      rw [hcall] at h
      cases h
    | ok w =>
      rw [hcall] at h
      cases h
      rfl
  | .comma _, _, _, h => by cases h

/-- A run goes on with the trees that it has. -/
theorem Loaded.run : ∀ (nodes : List Node) {before : List Node} {stack stack' : List Value},
    Loaded env before stack → evaluateNodes env stack nodes = .ok stack' →
    Loaded env (before ++ nodes) stack'
  | [], _, _, _, hloaded, h => by
    cases h
    rwa [List.append_nil]
  | node :: rest, before, stack, stack', hloaded, h => by
    obtain ⟨middle, hnode, hrest⟩ := exists_of_bind_eq_ok h
    rw [← List.singleton_append, ← List.append_assoc]
    refine Loaded.run rest ?_ hrest
    by_cases hoperator : node.isOperator = true
    · cases node with
      | operator span op => exact hloaded.operator span hnode
      | _ => cases hoperator
    · rw [Bool.not_eq_true] at hoperator
      obtain ⟨v, rfl, hv⟩ := exists_of_evaluateNode hoperator hnode
      obtain ⟨e, hoperand, he⟩ := exists_operandOf hoperator hv
      exact hloaded.push (.operand hoperand) he

theorem exists_argumentsOf : ∀ {params values : List Node},
    evaluateParams env params = .ok values →
    ∃ args, ArgumentsOf params args ∧ evaluateArgs env args = .ok values
  | [], _, h => ⟨[], .nil, h⟩
  | param :: rest, values, h => by
    unfold evaluateParams at h
    rw [← bind_assoc] at h
    obtain ⟨v, hv, h⟩ := exists_of_bind_eq_ok h
    obtain ⟨more, hmore, h⟩ := exists_of_bind_eq_ok h
    cases h
    have hoperator : param.isOperator = false := by
      cases param with
      | operator span op => cases hv
      | _ => rfl
    obtain ⟨e, hoperand, he⟩ := exists_operandOf hoperator (exists_of_onlyValue hv)
    obtain ⟨args, hargs, hsame⟩ := exists_argumentsOf hmore
    refine ⟨_, .cons hoperand hargs, ?_⟩
    unfold evaluateArgs
    rw [he, ok_bind, hsame]
    rfl

end

/-! ## The law -/

/-- The law of balance, for any nodes and any environment. A list of nodes has a value only if it
and every level inside it are balanced; the nodes are then those of a tree, each in its place, and
the value is that of the tree. -/
theorem balanced_of_evaluate (h : evaluate env nodes = .ok v) :
    (∀ level, LevelOf nodes level → BalancedLevel level) ∧
      ∃ e, TreeOf nodes e ∧ e.evaluate env = .ok v := by
  constructor
  · intro level hlevel
    obtain ⟨w, hw⟩ := exists_value_of_levelOf h hlevel
    exact balanced_of_value hw
  · have hrun := Loaded.run nodes .nil (evaluate_eq_ok_iff.mp h)
    exact hrun.exists_treeOf

/-- The method that gives the difference of `{x}` and its argument. -/
def belowSeven : Method := ⟨"below", none, [⟨"x", .number, true⟩], .number, fun args => do
  let x ← numberOperand (args.headD (.boolean false))
  Operator.subtract.apply (.ofInt 7) x⟩

/-- The nodes of `({x} - 2) * $below(({x}))` in stack order, made by hand. -/
def differencesByHand : List Node :=
  [.call ⟨0, "below"⟩ "below" [.group ⟨0, "x"⟩ [.reference ⟨0, "x"⟩ "x"]],
    .group ⟨0, "x-2"⟩ [.value ⟨0, "2"⟩ (.number (.ofInt 2)), .reference ⟨0, "x"⟩ "x",
      .operator ⟨0, "-"⟩ .subtract],
    .operator ⟨0, "*"⟩ .multiply]

/-- They have the value six where `x` is five. -/
theorem balanced_of_evaluate_differences :
    let env : Environment := ⟨NameTable.empty.insert "below" belowSeven, .empty,
      NameTable.empty.insert "x" (.number (.ofInt 5))⟩
    evaluate env differencesByHand = .ok (.number (.ofInt 6)) ∧
      (∀ level, LevelOf differencesByHand level → BalancedLevel level) ∧
      ∃ e, TreeOf differencesByHand e ∧ e.evaluate env = .ok (.number (.ofInt 6)) := by
  intro env
  have hvalue : evaluate env differencesByHand = .ok (.number (.ofInt 6)) := rfl
  exact ⟨hvalue, balanced_of_evaluate hvalue⟩

end Formulary
