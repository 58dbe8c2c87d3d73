-- What a level means: a tree of operators, in which a product binds tighter than a
-- sum and a sum tighter than a comparison, and the left one of two equals comes
-- first. Each level in the order of the text has one such tree.
import Formulary.Evaluation

namespace Formulary

/-! ## Trees and their values -/

/-- What a formula means, apart from the order in which it is computed. The arguments of a
call keep the pieces of text that they come from. -/
inductive Expr where
  | value (v : Value)
  | reference (key : String)
  | group (body : Expr)
  | call (span : Span) (method : String) (args : List (Span × Expr))
  | binary (op : Operator) (left right : Expr)

mutual

/-- The value of a tree. The right side of an operator is computed before the left side, and
the left one is the first that must be a number. -/
def Expr.evaluate (env : Environment) : Expr → Except Fault Value
  | .value v => .ok v
  | .reference key => env.lookup key
  | .group body => body.evaluate env
  | .call span method args => do
    let params ← evaluateArgs env args
    env.methods.callValue (.call span method params)
  | .binary op left right => do
    let y ← right.evaluate env
    let x ← left.evaluate env
    let x ← numberOperand x
    let y ← numberOperand y
    op.apply x y

/-- The values of arguments, from the left to the right. -/
def evaluateArgs (env : Environment) : List (Span × Expr) → Except Fault (List Node)
  | [] => .ok []
  | (span, e) :: rest => do
    let v ← e.evaluate env
    let params ← evaluateArgs env rest
    pure (.value span v :: params)

end

/-! ## The grammar of levels -/

/-- How tightly an operator binds by the rules of arithmetic: a comparison stands between sums, and
a sum is made of products. -/
def Operator.rank : Operator → Nat
  | .greater | .greaterEqual | .less | .lessEqual | .equal | .notEqual => 0
  | .add | .subtract => 1
  | .multiply | .divide => 2

/-- The weights follow these rules. -/
theorem Operator.weight_lt_weight {op op' : Operator} :
    op.weight < op'.weight ↔ op.rank < op'.rank := by
  cases op <;> cases op' <;> decide

mutual

/-- The node is an operand that means the tree. -/
inductive OperandMeans : Node → Expr → Prop
  | value (span : Span) (v : Value) : OperandMeans (.value span v) (.value v)
  | reference (span : Span) (key : String) : OperandMeans (.reference span key) (.reference key)
  | group (span : Span) (body : List Node) {e : Expr} :
      LevelMeans 0 body e → OperandMeans (.group span body) (.group e)
  | call (span : Span) (method : String) {params : List Node} {args : List (Span × Expr)} :
      ParamsMean params args → OperandMeans (.call span method params) (.call span method args)

/-- The nodes mean the tree, and each operator between them binds at least as tightly as
`rank`. What stands to the right of an operator binds tighter than the operator itself. -/
inductive LevelMeans : Nat → List Node → Expr → Prop
  | operand (rank : Nat) (node : Node) {e : Expr} :
      OperandMeans node e → LevelMeans rank [node] e
  | binary {rank : Nat} (left : List Node) (span : Span) (op : Operator) (right : List Node)
      {l r : Expr} : rank ≤ op.rank → LevelMeans op.rank left l →
      LevelMeans (op.rank + 1) right r →
      LevelMeans rank (left ++ .operator span op :: right) (.binary op l r)

/-- The arguments are operands, and mean the trees. -/
inductive ParamsMean : List Node → List (Span × Expr) → Prop
  | nil : ParamsMean [] []
  | cons {node : Node} {e : Expr} {params : List Node} {args : List (Span × Expr)} :
      OperandMeans node e → ParamsMean params args →
      ParamsMean (node :: params) ((node.span, e) :: args)

end

/-! ## Well-formed levels -/

mutual

/-- A node that operators can be applied to: a value, a reference, a group around a
well-formed level, or a call whose arguments are such nodes. -/
inductive IsOperand : Node → Prop
  | value (span : Span) (v : Value) : IsOperand (.value span v)
  | reference (span : Span) (key : String) : IsOperand (.reference span key)
  | group (span : Span) {body : List Node} : IsLevel body → IsOperand (.group span body)
  | call (span : Span) (method : String) {params : List Node} :
      AreOperands params → IsOperand (.call span method params)

/-- Operands with an operator between each two of them. -/
inductive IsLevel : List Node → Prop
  | operand {node : Node} : IsOperand node → IsLevel [node]
  | more {node : Node} {rest : List Node} (span : Span) (op : Operator) :
      IsOperand node → IsLevel rest → IsLevel (node :: .operator span op :: rest)

inductive AreOperands : List Node → Prop
  | nil : AreOperands []
  | cons {node : Node} {rest : List Node} :
      IsOperand node → AreOperands rest → AreOperands (node :: rest)

end

/-! ## Each level has one tree -/

theorem LevelMeans.mono {w w' : Nat} {nodes : List Node} {e : Expr} (h : LevelMeans w nodes e)
    (hle : w' ≤ w) : LevelMeans w' nodes e := by
  cases h with
  | operand _ node ho => exact .operand w' node ho
  | binary left span op right hw hl hr =>
    exact .binary left span op right (Nat.le_trans hle hw) hl hr

/-- One more operand in front of a level, with an operator after it. -/
theorem exists_means_cons {node : Node} {first : Expr} (span : Span) (op : Operator)
    (hn : OperandMeans node first) :
    ∀ {w : Nat} {nodes : List Node} {e : Expr}, LevelMeans w nodes e →
      ∃ e', LevelMeans (min w op.rank) (node :: .operator span op :: nodes) e'
  | _, _, e, .operand _ other ho =>
    ⟨.binary op first e, .binary [node] span op [other] (Nat.min_le_right _ _)
      (.operand _ node hn) (.operand _ other ho)⟩
  | _, _, .binary _ l r, .binary left span' op' right hw hl hr => by
    by_cases hlt : op'.rank ≤ op.rank
    · obtain ⟨e', he'⟩ := exists_means_cons span op hn hl
      rw [Nat.min_eq_left hlt] at he'
      exact ⟨.binary op' e' r, .binary _ span' op' right (by omega) he' hr⟩
    · have hwhole : LevelMeans (op.rank + 1) (left ++ .operator span' op' :: right)
          (.binary op' l r) := .binary left span' op' right (by omega) hl hr
      exact ⟨.binary op first (.binary op' l r), .binary [node] span op _
        (Nat.min_le_right _ _) (.operand _ node hn) hwhole⟩

mutual

theorem IsOperand.exists_means : ∀ {node : Node}, IsOperand node → ∃ e, OperandMeans node e
  | _, .value span v => ⟨_, .value span v⟩
  | _, .reference span key => ⟨_, .reference span key⟩
  | _, .group span h => by
    obtain ⟨e, he⟩ := h.exists_means
    exact ⟨_, .group span _ he⟩
  | _, .call span method h => by
    obtain ⟨args, hargs⟩ := h.exists_means
    exact ⟨_, .call span method hargs⟩

theorem IsLevel.exists_means : ∀ {nodes : List Node}, IsLevel nodes → ∃ e, LevelMeans 0 nodes e
  | _, .operand h => by
    obtain ⟨e, he⟩ := h.exists_means
    exact ⟨e, .operand 0 _ he⟩
  | _, .more span op hn hrest => by
    obtain ⟨e, he⟩ := hn.exists_means
    obtain ⟨r, hr⟩ := hrest.exists_means
    obtain ⟨e', he'⟩ := exists_means_cons span op he hr
    exact ⟨e', he'.mono (Nat.zero_le _)⟩

theorem AreOperands.exists_means :
    ∀ {params : List Node}, AreOperands params → ∃ args, ParamsMean params args
  | _, .nil => ⟨_, .nil⟩
  | _, .cons hn hrest => by
    obtain ⟨e, he⟩ := hn.exists_means
    obtain ⟨args, hargs⟩ := hrest.exists_means
    exact ⟨_, .cons he hargs⟩

end

/-- The operators of a level bind at least as tightly as it says. -/
theorem LevelMeans.rank_le : ∀ {w : Nat} {nodes : List Node} {e : Expr}, LevelMeans w nodes e →
    ∀ span op, .operator span op ∈ nodes → w ≤ op.rank
  | _, _, _, .operand _ _ ho => by
    intro span op hm
    rw [List.mem_singleton] at hm
    subst hm
    cases ho
  | _, _, _, .binary _ _ _ _ hw hl hr => by
    intro span op hm
    rw [List.mem_append, List.mem_cons] at hm
    rcases hm with hm | hm | hm
    · have := hl.rank_le span op hm
      omega
    · cases hm
      exact hw
    · have := hr.rank_le span op hm
      omega

theorem LevelMeans.ne_nil {w : Nat} {nodes : List Node} {e : Expr} (h : LevelMeans w nodes e) :
    nodes ≠ [] := by
  cases h <;> simp

/-- A level splits in one way only at an operator that binds tighter than nothing to its left,
and less tight than all to its right. -/
theorem split_unique {left right left' right' : List Node} {span span' : Span}
    {op op' : Operator}
    (hsame : left ++ .operator span op :: right = left' ++ .operator span' op' :: right')
    (hl : ∀ s o, .operator s o ∈ left → op.rank ≤ o.rank)
    (hr : ∀ s o, .operator s o ∈ right → op.rank + 1 ≤ o.rank)
    (hl' : ∀ s o, .operator s o ∈ left' → op'.rank ≤ o.rank)
    (hr' : ∀ s o, .operator s o ∈ right' → op'.rank + 1 ≤ o.rank) :
    left = left' ∧ op = op' ∧ right = right' := by
  rcases List.append_eq_append_iff.mp hsame with ⟨mid, hm, hm'⟩ | ⟨mid, hm, hm'⟩
  · cases mid with
    | nil =>
      simp only [List.nil_append, List.cons.injEq, Node.operator.injEq] at hm'
      exact ⟨by rw [hm, List.append_nil], hm'.1.2, hm'.2⟩
    | cons n mid =>
      -- The second split is further to the right: each operator is on the wrong side of the other.
      simp only [List.cons_append, List.cons.injEq] at hm'
      have h1 := hl' span op (by rw [hm, ← hm'.1]; simp)
      have h2 := hr span' op' (by rw [hm'.2]; simp)
      omega
  · cases mid with
    | nil =>
      simp only [List.nil_append, List.cons.injEq, Node.operator.injEq] at hm'
      exact ⟨by rw [hm, List.append_nil], hm'.1.2.symm, hm'.2.symm⟩
    | cons n mid =>
      simp only [List.cons_append, List.cons.injEq] at hm'
      have h1 := hl span' op' (by rw [hm, ← hm'.1]; simp)
      have h2 := hr' span op (by rw [hm'.2]; simp)
      omega

mutual

theorem OperandMeans.unique : ∀ {node : Node} {e e' : Expr}, OperandMeans node e →
    OperandMeans node e' → e = e'
  | _, _, _, .value _ _, .value _ _ => rfl
  | _, _, _, .reference _ _, .reference _ _ => rfl
  | _, _, _, .group _ _ h, .group _ _ h' => by rw [h.unique h']
  | _, _, _, .call _ _ h, .call _ _ h' => by rw [h.unique h']

theorem LevelMeans.unique : ∀ {w w' : Nat} {nodes : List Node} {e e' : Expr},
    LevelMeans w nodes e → LevelMeans w' nodes e' → e = e'
  | _, _, _, _, _, .operand _ _ h, h' => by
    generalize hnodes : [_] = nodes at h'
    cases h' with
    | operand _ _ ho =>
      cases hnodes
      exact h.unique ho
    | binary _ _ _ _ _ hl hr =>
      rw [eq_comm, List.append_eq_singleton_iff] at hnodes
      rcases hnodes with ⟨hnil, -⟩ | ⟨-, hnil⟩
      · exact absurd hnil hl.ne_nil
      · simp at hnil
  | _, _, _, _, _, .binary _ _ _ _ _ hl hr, h' => by
    generalize hnodes : _ ++ _ :: _ = nodes at h'
    cases h' with
    | operand _ _ ho =>
      rw [List.append_eq_singleton_iff] at hnodes
      rcases hnodes with ⟨hnil, -⟩ | ⟨-, hnil⟩
      · exact absurd hnil hl.ne_nil
      · simp at hnil
    | binary _ _ _ _ _ hl' hr' =>
      obtain ⟨rfl, rfl, rfl⟩ := split_unique hnodes hl.rank_le hr.rank_le hl'.rank_le
        hr'.rank_le
      rw [hl.unique hl', hr.unique hr']

theorem ParamsMean.unique : ∀ {params : List Node} {args args' : List (Span × Expr)},
    ParamsMean params args → ParamsMean params args' → args = args'
  | _, _, _, .nil, .nil => rfl
  | _, _, _, .cons h hs, .cons h' hs' => by rw [h.unique h', hs.unique hs']

end

end Formulary
