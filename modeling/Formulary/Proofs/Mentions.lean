-- What the value of a formula depends on. A formula names variables and methods, at any depth,
-- and nothing else of an environment has a part in what is computed: two environments in which
-- these names stand for the same give the same value, or the same fault.
import Formulary.Evaluation

namespace Formulary

/-! ## What a formula names -/

/-- A variable or a method that a formula names. -/
inductive Mention where
  | reference (key : String)
  | call (method : String)
  deriving DecidableEq, Repr

mutual

/-- The names in a node, at every depth. -/
def Node.mentions : Node → List Mention
  | .reference _ key => [.reference key]
  | .group _ body => mentionsIn body
  | .call _ method params => .call method :: mentionsIn params
  | _ => []

def mentionsIn : List Node → List Mention
  | [] => []
  | node :: rest => node.mentions ++ mentionsIn rest

end

/-! ## What names stand for -/

namespace Environment

/-- The value that a variable has for a formula: that of its binding if there is one, and
otherwise that of the table. -/
def value? (env : Environment) (key : String) : Option Value :=
  match env.bindings.get? key with
  | some v => some v
  | none => (env.vars.get? key).map (·.value)

/-- A name stands for the same in both environments. -/
def SameFor (env env' : Environment) : Mention → Prop
  | .reference key => env.value? key = env'.value? key
  | .call method => env.methods.get? method = env'.methods.get? method

theorem lookup_of_value? (env : Environment) (key : String) :
    env.lookup key = match env.value? key with
      | some v => .ok v
      | none => .error (.undefinedVariable key) := by
  unfold lookup value? VariableTable.value
  cases env.bindings.get? key with
  | some v => rfl
  | none => cases env.vars.get? key <;> rfl

theorem value?_of_bound {env : Environment} {key : String} {v : Value}
    (h : env.bindings.get? key = some v) : env.value? key = some v := by
  unfold value?
  rw [h]

variable {env env' : Environment}

theorem SameFor.lookup {key : String} (h : env.SameFor env' (.reference key)) :
    env.lookup key = env'.lookup key := by
  rw [lookup_of_value?, lookup_of_value?, h]

theorem SameFor.callValue {method : String} (h : env.SameFor env' (.call method)) (span : Span)
    (params : List Node) : env.methods.callValue (.call span method params) =
      env'.methods.callValue (.call span method params) := by
  unfold MethodTable.callValue
  dsimp only
  rw [h]

/-- Another table of variables makes no difference to a name that is bound. -/
theorem sameFor_withVars (env : Environment) (vars : VariableTable) {mention : Mention}
    (h : ∀ key, mention = .reference key → env.bindings.get? key = none →
      vars.get? key = env.vars.get? key) : SameFor { env with vars } env mention := by
  cases mention with
  | call method => rfl
  | reference key =>
    change value? { env with vars } key = env.value? key
    cases hbound : env.bindings.get? key with
    | some v =>
      rw [value?_of_bound hbound]
      exact value?_of_bound hbound
    | none =>
      unfold value?
      dsimp only
      rw [hbound, h key rfl hbound]

end Environment

/-! ## Two runs -/

mutual

theorem evaluateNode_congr {env env' : Environment} : ∀ (node : Node) (stack : List Value),
    (∀ m ∈ node.mentions, env.SameFor env' m) →
      evaluateNode env stack node = evaluateNode env' stack node
  | .value _ _, _, _ => rfl
  | .operator _ _, _, _ => rfl
  | .comma _, _, _ => rfl
  | .reference _ key, stack, h => by
    have hkey : env.SameFor env' (.reference key) := h _ (List.mem_singleton_self _)
    unfold evaluateNode
    rw [hkey.lookup]
  | .group _ body, stack, h => by
    have hbody := evaluateNodes_congr body [] h
    unfold evaluateNode
    rw [hbody]
  | .call span method params, stack, h => by
    have hmethod : env.SameFor env' (.call method) := h _ List.mem_cons_self
    have hparams := evaluateParams_congr params fun m hm => h m (List.mem_cons_of_mem _ hm)
    unfold evaluateNode
    rw [hparams]
    apply bind_congr
    intro args
    rw [hmethod.callValue]

theorem evaluateNodes_congr {env env' : Environment} : ∀ (nodes : List Node) (stack : List Value),
    (∀ m ∈ mentionsIn nodes, env.SameFor env' m) →
      evaluateNodes env stack nodes = evaluateNodes env' stack nodes
  | [], _, _ => rfl
  | node :: rest, stack, h => by
    have hnode := evaluateNode_congr node stack fun m hm => h m (List.mem_append_left _ hm)
    unfold evaluateNodes
    rw [hnode]
    apply bind_congr
    intro stack
    exact evaluateNodes_congr rest stack fun m hm => h m (List.mem_append_right _ hm)

theorem evaluateParams_congr {env env' : Environment} : ∀ params : List Node,
    (∀ m ∈ mentionsIn params, env.SameFor env' m) →
      evaluateParams env params = evaluateParams env' params
  | [], _ => rfl
  | param :: rest, h => by
    have hparam := evaluateNode_congr param [] fun m hm => h m (List.mem_append_left _ hm)
    have hrest := evaluateParams_congr rest fun m hm => h m (List.mem_append_right _ hm)
    unfold evaluateParams
    rw [hparam, hrest]

end

/-! ## The law -/

/-- The law of names. Two environments in which all names in the nodes stand for the same give
the nodes the same value or the same fault. A variable in the table that is hidden by a binding
has no part in it. -/
theorem evaluate_eq_of_sameFor {env env' : Environment} {nodes : List Node}
    (h : ∀ m ∈ mentionsIn nodes, env.SameFor env' m) :
    evaluate env nodes = evaluate env' nodes ∧
      ∀ vars : VariableTable, (∀ key, .reference key ∈ mentionsIn nodes →
        env.bindings.get? key = none → vars.get? key = env.vars.get? key) →
        evaluate { env with vars } nodes = evaluate env nodes := by
  constructor
  · unfold evaluate
    rw [evaluateNodes_congr nodes [] h]
  · intro vars hvars
    unfold evaluate
    rw [evaluateNodes_congr nodes []]
    intro m hm
    apply env.sameFor_withVars
    rintro key rfl hnone
    exact hvars key hm hnone

/-- The nodes of `{x} * $f(({y}))` in stack order. -/
def productWithCall : List Node :=
  [.call ⟨6, "$f(({y}))"⟩ "f" [.group ⟨9, "({y})"⟩ [.reference ⟨10, "{y}"⟩ "y"]],
    .reference ⟨0, "{x}"⟩ "x", .operator ⟨4, "*"⟩ .multiply]

/-- A method that gives its argument back. -/
def giveBack : Method := ⟨"f", none, [⟨"x", .number, true⟩], .number,
  fun args => .ok (args.headD (.boolean false))⟩

def xSeven : Variable := ⟨"x", none, .number, .number (.ofInt 7)⟩

def xTwo : Variable := ⟨"x", none, .number, .number (.ofInt 2)⟩

/-- A binding of two hides the seven. -/
def boundTwo : Environment :=
  ⟨NameTable.empty.insert "f" giveBack, NameTable.empty.insert "x" xSeven,
    (NameTable.empty.insert "x" xTwo.value).insert "y" xSeven.value⟩

/-- The two is in the table, and there are other names besides. -/
def declaredTwo : Environment :=
  ⟨(NameTable.empty.insert "g" giveBack).insert "f" giveBack,
    (NameTable.empty.insert "z" xSeven).insert "x" xTwo, NameTable.empty.insert "y" xSeven.value⟩

/-- Both environments give the product of two and seven, and so does the first one when it
forgets the variable that is hidden. -/
theorem evaluate_eq_of_sameFor_product :
    (∀ m ∈ mentionsIn productWithCall, boundTwo.SameFor declaredTwo m) ∧
      evaluate boundTwo productWithCall = evaluate declaredTwo productWithCall ∧
      evaluate { boundTwo with vars := .empty } productWithCall =
        evaluate boundTwo productWithCall ∧
      evaluate boundTwo productWithCall = .ok (.number (.ofInt 14)) := by
  have hsame : ∀ m ∈ mentionsIn productWithCall, boundTwo.SameFor declaredTwo m := by
    intro m hm
    simp [mentionsIn, productWithCall, Node.mentions] at hm
    rcases hm with rfl | rfl | rfl <;> rfl
  have hbound : ∀ key, .reference key ∈ mentionsIn productWithCall →
      boundTwo.bindings.get? key = none → NameTable.empty.get? key = boundTwo.vars.get? key := by
    intro key hkey hnone
    simp [mentionsIn, productWithCall, Node.mentions] at hkey
    rcases hkey with rfl | rfl <;> cases hnone
  obtain ⟨hvalue, hvars⟩ := evaluate_eq_of_sameFor hsame
  exact ⟨hsame, hvalue, hvars .empty hbound, rfl⟩

end Formulary
