-- Which fault of a formula is reported when several of its parts have one. The parts of a tree
-- are computed from the inside to the outside, of two operands the right one first, and the
-- fault of the whole is that of the first part that has one.
import Formulary.Proofs.EvaluationFaults

namespace Formulary

/-! ## Orders of the parts -/

inductive Hand where
  | left
  | right

mutual

/-- The tree and all trees inside it, each one behind what is inside it. Of two operands the one
on the given hand comes first; arguments come from the left to the right. -/
def Expr.parts (first : Hand) : Expr → List Expr
  | .value v => [.value v]
  | .reference key => [.reference key]
  | .group body => body.parts first ++ [.group body]
  | .call span method args => partsOfArgs first args ++ [.call span method args]
  | .binary op left right =>
    match first with
    | .left => left.parts first ++ right.parts first ++ [.binary op left right]
    | .right => right.parts first ++ left.parts first ++ [.binary op left right]

def partsOfArgs (first : Hand) : List (Span × Expr) → List Expr
  | [] => []
  | (_, e) :: rest => e.parts first ++ partsOfArgs first rest

end

/-- The fault of a result, if it has one. -/
def faultOf {α : Type} : Except Fault α → Option Fault
  | .error fault => some fault
  | .ok _ => none

theorem faultOf_eq_some_iff {α : Type} {result : Except Fault α} {fault : Fault} :
    faultOf result = some fault ↔ result = .error fault := by
  cases result with
  | error other => simp [faultOf]
  | ok a => simp [faultOf]

/-- The fault of the first tree that has one. -/
def firstFault (env : Environment) (trees : List Expr) : Option Fault :=
  trees.findSome? fun e => faultOf (e.evaluate env)

theorem firstFault_append (env : Environment) (front back : List Expr) :
    firstFault env (front ++ back) = (firstFault env front).or (firstFault env back) :=
  List.findSome?_append

theorem firstFault_singleton (env : Environment) (e : Expr) :
    firstFault env [e] = faultOf (e.evaluate env) := by
  unfold firstFault
  rw [List.findSome?_singleton]

/-! ## The fault of a tree -/

mutual

theorem Expr.firstFault_parts (env : Environment) :
    ∀ e : Expr, firstFault env (e.parts .right) = faultOf (e.evaluate env)
  | .value v => firstFault_singleton env (.value v)
  | .reference key => firstFault_singleton env (.reference key)
  | .group body => by
    have hbody := body.firstFault_parts env
    rw [Expr.parts, firstFault_append, firstFault_singleton, hbody, Expr.evaluate]
    cases body.evaluate env <;> rfl
  | .call span method args => by
    have hargs := firstFault_partsOfArgs env args
    rw [Expr.parts, firstFault_append, firstFault_singleton, hargs, Expr.evaluate]
    cases evaluateArgs env args <;> rfl
  | .binary op left right => by
    have hleft := left.firstFault_parts env
    have hright := right.firstFault_parts env
    rw [Expr.parts, firstFault_append, firstFault_append, firstFault_singleton, hleft, hright,
      Expr.evaluate]
    -- Where the right operand has a fault, the left one does not matter.
    cases right.evaluate env with
    | error fault => rfl
    | ok y => cases left.evaluate env <;> rfl

theorem firstFault_partsOfArgs (env : Environment) : ∀ args : List (Span × Expr),
    firstFault env (partsOfArgs .right args) = faultOf (evaluateArgs env args)
  | [] => rfl
  | (span, e) :: rest => by
    have he := e.firstFault_parts env
    have hrest := firstFault_partsOfArgs env rest
    rw [partsOfArgs, firstFault_append, he, hrest, evaluateArgs]
    cases e.evaluate env with
    | error fault => rfl
    | ok v => cases evaluateArgs env rest <;> rfl

end

/-! ## The parts of a level -/

mutual

/-- Each part of the tree of an operand is the tree of a level of its own. -/
theorem OperandMeans.parts_means (first : Hand) : ∀ {node : Node} {e : Expr},
    OperandMeans node e → ∀ part ∈ e.parts first, ∃ level, LevelMeans 0 level part
  | _, _, .value span v => fun part hpart => by
    rw [Expr.parts, List.mem_singleton] at hpart
    rw [hpart]
    exact ⟨_, .operand 0 _ (.value span v)⟩
  | _, _, .reference span key => fun part hpart => by
    rw [Expr.parts, List.mem_singleton] at hpart
    rw [hpart]
    exact ⟨_, .operand 0 _ (.reference span key)⟩
  | _, _, .group span body h => fun part hpart => by
    rw [Expr.parts, List.mem_append, List.mem_singleton] at hpart
    rcases hpart with hpart | rfl
    · exact h.parts_means first part hpart
    · exact ⟨_, .operand 0 _ (.group span body h)⟩
  | _, _, .call span method h => fun part hpart => by
    rw [Expr.parts, List.mem_append, List.mem_singleton] at hpart
    rcases hpart with hpart | rfl
    · exact h.parts_means first part hpart
    · exact ⟨_, .operand 0 _ (.call span method h)⟩

theorem LevelMeans.parts_means (first : Hand) : ∀ {w : Nat} {nodes : List Node} {e : Expr},
    LevelMeans w nodes e → ∀ part ∈ e.parts first, ∃ level, LevelMeans 0 level part
  | _, _, _, .operand _ node h => h.parts_means first
  | _, _, .binary _ l r, .binary left span op right hw hl hr => fun part hpart => by
    have hmem : part ∈ l.parts first ∨ part ∈ r.parts first ∨ part = .binary op l r := by
      cases first <;> simp only [Expr.parts, List.mem_append, List.mem_singleton] at hpart <;>
        tauto
    rcases hmem with hpart | hpart | rfl
    · exact hl.parts_means first part hpart
    · exact hr.parts_means first part hpart
    · exact ⟨_, .binary left span op right (Nat.zero_le _) hl hr⟩

theorem ParamsMean.parts_means (first : Hand) : ∀ {params : List Node} {args : List (Span × Expr)},
    ParamsMean params args → ∀ part ∈ partsOfArgs first args, ∃ level, LevelMeans 0 level part
  | _, _, .nil => nofun
  | _, _, .cons h hs => fun part hpart => by
    rw [partsOfArgs, List.mem_append] at hpart
    rcases hpart with hpart | hpart
    · exact h.parts_means first part hpart
    · exact hs.parts_means first part hpart

end

/-! ## The law -/

/-- The law of the order of faults. The fault of a formula is that of the first part that has
one, in the order in which a part comes behind all that is inside it, and the right operand of an
operator before the left one. What a part has is what it has as a level of its own. -/
theorem evaluate_eq_error_iff_first {text : String} {nodes : List Node}
    (h : parse text = .ok nodes) :
    ∃ tokens e, tokenize (Text.trim text) = .ok tokens ∧ nodes = stackOrder tokens ∧
      LevelMeans 0 tokens e ∧
      (∀ part ∈ e.parts .right, ∃ level, LevelMeans 0 level part ∧
        ∀ env, evaluate env (stackOrder level) = part.evaluate env) ∧
      ∀ env fault, evaluate env nodes = .error fault ↔
        firstFault env (e.parts .right) = some fault := by
  obtain ⟨tokens, htokens, rfl⟩ := exists_tokens_of_parse h
  obtain ⟨e, he⟩ := exists_means_of_tokenize htokens
  refine ⟨tokens, e, htokens, rfl, he, fun part hpart => ?_, fun env fault => ?_⟩
  · obtain ⟨level, hlevel⟩ := he.parts_means .right part hpart
    exact ⟨level, hlevel, hlevel.evaluate_eq⟩
  · rw [he.evaluate_eq env, e.firstFault_parts env, faultOf_eq_some_iff]

/-- No names at all. -/
def Environment.empty : Environment := ⟨.empty, .empty, .empty⟩

/-- The nodes of `{a} * (1 / 0)`. -/
def timesQuotient : List Node :=
  [.reference ⟨0, "{a}"⟩ "a", .operator ⟨4, "*"⟩ .multiply,
    .group ⟨6, "(1 / 0)"⟩ [.value ⟨7, "1"⟩ (.number (.ofInt 1)), .operator ⟨9, "/"⟩ .divide,
      .value ⟨11, "0"⟩ (.number (.ofInt 0))]]

/-- The quotient on the right fails before the variable on the left does. -/
theorem evaluate_eq_error_iff_first_quotient :
    parse "{a} * (1 / 0)" = .ok (stackOrder timesQuotient) ∧
      evaluate .empty (stackOrder timesQuotient) = .error .divisionByZero ∧
      ∃ tokens e, stackOrder timesQuotient = stackOrder tokens ∧ LevelMeans 0 tokens e ∧
        firstFault .empty (e.parts .right) = some .divisionByZero := by
  have htrim : Text.trim "{a} * (1 / 0)" = "{a} * (1 / 0)" := rfl
  have htokens : tokenize "{a} * (1 / 0)" = .ok timesQuotient := rfl
  have hparse : parse "{a} * (1 / 0)" = .ok (stackOrder timesQuotient) := by
    rw [parse, htrim, htokens]
    rfl
  have hfault : evaluate .empty (stackOrder timesQuotient) = .error .divisionByZero := rfl
  obtain ⟨tokens, e, -, hnodes, he, -, hfirst⟩ := evaluate_eq_error_iff_first hparse
  exact ⟨hparse, hfault, tokens, e, hnodes, he, (hfirst .empty .divisionByZero).mp hfault⟩

/-- The nodes of `{a} + {b}`. -/
def sumOfVariables : List Node :=
  [.reference ⟨0, "{a}"⟩ "a", .operator ⟨4, "+"⟩ .add, .reference ⟨6, "{b}"⟩ "b"]

/-- The order of the text is another one. Where neither operand has a value the fault is that of
the right one, and the left one is the first of the text. -/
theorem fault_not_first_in_text :
    parse "{a} + {b}" = .ok (stackOrder sumOfVariables) ∧
      LevelMeans 0 sumOfVariables (.binary .add (.reference "a") (.reference "b")) ∧
      evaluate .empty (stackOrder sumOfVariables) = .error (.undefinedVariable "b") ∧
      firstFault .empty ((Expr.binary .add (.reference "a") (.reference "b")).parts .left) =
        some (.undefinedVariable "a") ∧
      Fault.undefinedVariable "a" ≠ .undefinedVariable "b" := by
  have htrim : Text.trim "{a} + {b}" = "{a} + {b}" := rfl
  have htokens : tokenize "{a} + {b}" = .ok sumOfVariables := rfl
  have hparse : parse "{a} + {b}" = .ok (stackOrder sumOfVariables) := by
    rw [parse, htrim, htokens]
    rfl
  have htree : LevelMeans 0 sumOfVariables (.binary .add (.reference "a") (.reference "b")) :=
    .binary [.reference ⟨0, "{a}"⟩ "a"] ⟨4, "+"⟩ .add [.reference ⟨6, "{b}"⟩ "b"]
      (Nat.zero_le _) (.operand _ _ (.reference _ _)) (.operand _ _ (.reference _ _))
  exact ⟨hparse, htree, rfl, rfl, by decide⟩

end Formulary
