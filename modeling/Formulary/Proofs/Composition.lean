-- A formula means the same inside another formula as it does alone: in parentheses, as an
-- argument of a call, and beside an operator.
import Formulary.Proofs.CacheInvisible
import Formulary.Proofs.EvaluationFaults
import Formulary.Proofs.Places

namespace Formulary

/-! ## Formulas and their texts -/

/-- A text that can be read is written by the syntax, blanks at its ends included. -/
theorem exists_written_of_parse {text : String} {nodes : List Node}
    (h : parse text = .ok nodes) :
    ∃ p : Written.Padded, text.toList = p.chars ∧ ∀ env, evaluate env nodes = p.value env := by
  obtain ⟨tokens, htokens, rfl⟩ := exists_tokens_of_parse h
  obtain ⟨⟨before, level, after⟩, hchars, rfl⟩ := exists_written_of_tokenize htokens
  obtain ⟨first, last, hfirst, hlast, htext⟩ := Text.exists_blanks_trim text
  have hbefore : ∀ c ∈ first ++ before.chars, Text.isBlank c = true := fun c hc =>
    (List.mem_append.mp hc).elim (hfirst c) (before.blank c)
  have hafter : ∀ c ∈ after.chars ++ last, Text.isBlank c = true := fun c hc =>
    (List.mem_append.mp hc).elim (after.blank c) (hlast c)
  refine ⟨.mk ⟨_, hbefore⟩ level ⟨_, hafter⟩, ?_, fun env => ?_⟩
  · rw [htext, hchars]
    simp [Written.Padded.chars]
  · exact evaluate_of_placeless (level.placeless_nodes _ _) env

/-- A text of the syntax without blanks at its ends is read as its nodes. -/
theorem parse_written {text : String} (p : Written.Padded) (hchars : text.toList = p.chars)
    (htrim : Text.trim text = text) : parse text = .ok (stackOrder (p.nodes 0)) := by
  have htext : text = String.ofList p.chars := by rw [← hchars, String.ofList_toList]
  rw [parse, htrim, htext, tokenize_written]
  rfl

/-! ## Formulas inside others -/

theorem evaluateNode_group (env : Environment) (stack : List Value) (span : Span)
    (body : List Node) : evaluateNode env stack (Node.group span body).inStackOrder =
      (evaluate env (stackOrder body) >>= fun v => .ok (v :: stack)) := by
  simp only [Node.inStackOrder, evaluateNode, evaluate, bind_assoc]
  rfl

/-- A group has the value of its body. -/
theorem evaluate_group (env : Environment) (span : Span) (body : List Node) :
    evaluate env (stackOrder [.group span body]) = evaluate env (stackOrder body) := by
  rw [stackOrder_singleton, evaluate_singleton, evaluateNode_group, bind_assoc]
  cases evaluate env (stackOrder body) <;> rfl

/-- Applies an operator to two values. The first one that is not a number is the fault. -/
def Operator.applyValues (op : Operator) : Value → Value → Except Fault Value
  | .number x, .number y => op.apply x y
  | .number _, y => .error (.argumentType y.type .number)
  | x, _ => .error (.argumentType x.type .number)

theorem applyToStack_pair (op : Operator) (x y : Value) :
    applyToStack op [x, y] = (op.applyValues x y >>= fun v => .ok [v]) := by
  cases x <;> cases y <;> rfl

theorem evaluate_operation (env : Environment) (span span' place : Span) (op : Operator)
    (left right : List Node) :
    evaluate env (stackOrder [.group span left, .operator place op, .group span' right]) = (do
      let y ← evaluate env (stackOrder right)
      let x ← evaluate env (stackOrder left)
      op.applyValues x y) := by
  -- In stack order the right group comes first, and so it is computed first.
  have horder : stackOrder [.group span left, .operator place op, .group span' right] =
      [(Node.group span' right).inStackOrder, (Node.group span left).inStackOrder,
        .operator place op] := rfl
  rw [horder]
  simp only [evaluate, evaluateNodes, evaluateNode_group, bind_assoc]
  refine bind_congr fun stack => bind_congr fun y => ?_
  rw [ok_bind]
  refine bind_congr fun stack => bind_congr fun x => ?_
  rw [ok_bind, evaluateNode, applyToStack_pair, bind_assoc]
  cases op.applyValues x y <;> rfl

/-! ### Arguments -/

/-- Calls a method on values; the source is the text of the call. -/
def MethodTable.callOn (t : MethodTable) (method source : String) (values : List Value) :
    Except Fault Value :=
  t.callValue (.call ⟨0, source⟩ method (values.map fun v => .value ⟨0, ""⟩ v))

theorem checkTypes_of_values {params : List Node} {values : List Value}
    (h : params.map Node.asValue? = values.map some) (inputs : List Input) :
    Method.checkTypes params inputs =
      Method.checkTypes (values.map fun v => .value ⟨0, ""⟩ v) inputs := by
  induction params generalizing values inputs with
  | nil =>
    rw [List.map_nil, eq_comm, List.map_eq_nil_iff] at h
    rw [h, List.map_nil]
  | cons param rest ih =>
    cases values with
    | nil => cases h
    | cons v values =>
      rw [List.map_cons, List.map_cons, List.cons.injEq] at h
      cases param with
      | value span v' =>
        cases h.1
        cases inputs with
        | nil => rfl
        | cons input inputs =>
          simp only [List.map_cons, Method.checkTypes]
          rw [ih h.2]
      | _ => cases h.1

/-- Of its arguments a call sees the values only. -/
theorem callValue_of_values (t : MethodTable) (span : Span) (method : String)
    {params : List Node} {values : List Value}
    (h : params.map Node.asValue? = values.map some) :
    t.callValue (.call span method params) = t.callOn method span.chars values := by
  have hlength : params.length = values.length := by
    simpa using congrArg List.length h
  unfold MethodTable.callOn MethodTable.callValue
  dsimp only
  cases t.get? method with
  | none => rfl
  | some m =>
    dsimp only
    unfold Method.call
    rw [checkTypes_of_values h, List.length_map, hlength]
    rfl

namespace Written

/-- An argument has the value of its level, whether it is wrapped or not. -/
theorem evaluateNode_argumentOf (env : Environment) (start : Nat) (chars : List Char)
    (nodes : List Node) :
    (evaluateNode env [] (argumentOf start chars nodes).inStackOrder >>= onlyValue) =
      evaluate env (stackOrder nodes) := by
  rw [← evaluate_singleton, ← stackOrder_singleton]
  unfold argumentOf
  split
  · rfl
  · exact evaluate_group env _ nodes

def Levels.toList : Levels → List Padded
  | .last level => [level]
  | .more level rest => level :: rest.toList

def Arguments.toList : Arguments → List Padded
  | .none _ => []
  | .some levels => levels.toList

theorem evaluateParams_cons (env : Environment) (param : Node) (rest : List Node) :
    List.map Node.asValue? <$> evaluateParams env (param :: rest) = (do
      let v ← evaluateNode env [] param >>= onlyValue
      let args ← List.map Node.asValue? <$> evaluateParams env rest
      pure (some v :: args)) := by
  simp only [evaluateParams, map_bind, bind_assoc, bind_map_left]
  rfl

/-- The arguments of a call have the values of its levels, from the left to the right. -/
theorem Levels.evaluateParams_eq (env : Environment) : ∀ (levels : Levels) (start : Nat),
    List.map Node.asValue? <$> evaluateParams env (paramsInStackOrder (levels.params start)) =
      List.map some <$> levels.toList.mapM (Padded.value env)
  | .last (.mk before level after) => fun start => by
    have hlevel := (Padded.mk before level after).evaluate_nodes env start
    rw [Padded.nodes] at hlevel
    rw [Levels.params, paramsInStackOrder, evaluateParams_cons, evaluateNode_argumentOf, hlevel,
      Levels.toList, List.mapM_cons]
    cases Padded.value env (.mk before level after) <;> rfl
  | .more (.mk before level after) rest => fun start => by
    have hlevel := (Padded.mk before level after).evaluate_nodes env start
    rw [Padded.nodes] at hlevel
    rw [Levels.params, paramsInStackOrder, evaluateParams_cons, evaluateNode_argumentOf, hlevel,
      rest.evaluateParams_eq env, Levels.toList, List.mapM_cons]
    cases Padded.value env (.mk before level after) with
    | error fault => rfl
    | ok v => cases rest.toList.mapM (Padded.value env) <;> rfl

theorem Arguments.evaluateParams_eq (env : Environment) (args : Arguments) (start : Nat) :
    List.map Node.asValue? <$> evaluateParams env (paramsInStackOrder (args.params start)) =
      List.map Option.some <$> args.toList.mapM (Padded.value env) := by
  cases args with
  | none _ => rfl
  | some levels => exact levels.evaluateParams_eq env start

theorem Arguments.evaluate_call (env : Environment) (span : Span) (method : String)
    (args : Arguments) (start : Nat) :
    evaluate env (stackOrder [.call span method (args.params start)]) = (do
      let values ← args.toList.mapM (Padded.value env)
      env.methods.callOn method span.chars values) := by
  have hargs := args.evaluateParams_eq env start
  rw [stackOrder_singleton, evaluate_singleton, Node.inStackOrder, evaluateNode]
  -- The arguments have a fault in the call exactly where they have one alone, and the same one.
  cases hparams : evaluateParams env (paramsInStackOrder (args.params start)) with
  | error fault =>
    rw [hparams] at hargs
    cases hvalues : args.toList.mapM (Padded.value env) with
    | error fault' =>
      rw [hvalues] at hargs
      cases hargs
      rfl
    | ok values =>
      rw [hvalues] at hargs
      cases hargs
  | ok params =>
    rw [hparams] at hargs
    cases hvalues : args.toList.mapM (Padded.value env) with
    | error fault' =>
      rw [hvalues] at hargs
      cases hargs
    | ok values =>
      rw [hvalues] at hargs
      rw [ok_bind, ok_bind, callValue_of_values _ _ _ (Except.ok.inj hargs)]
      cases env.methods.callOn method span.chars values <;> rfl

end Written

/-! ## Texts inside others -/

/-- A text that is a formula on its own. -/
def Readable (text : String) : Prop := ∃ nodes, parse text = .ok nodes

/-- The value of a text. -/
def textValue (env : Environment) (text : String) : Except Fault Value :=
  (parse text).bind (evaluate env)

theorem readable_of_textValue {env : Environment} {text : String} {v : Value}
    (h : textValue env text = .ok v) : Readable text := by
  rw [textValue] at h
  cases hparse : parse text with
  | error fault =>
    rw [hparse] at h
    cases h
  | ok nodes => exact ⟨nodes, hparse⟩

theorem Readable.exists_written {text : String} (h : Readable text) :
    ∃ p : Written.Padded, text.toList = p.chars ∧ ∀ env, textValue env text = p.value env := by
  obtain ⟨nodes, hnodes⟩ := h
  obtain ⟨p, hchars, hvalue⟩ := exists_written_of_parse hnodes
  refine ⟨p, hchars, fun env => ?_⟩
  rw [textValue, hnodes]
  exact hvalue env

/-- No blanks. -/
def Written.Blanks.none : Blanks := ⟨[], nofun⟩

/-- A text that is one operand has the value of its node. -/
theorem textValue_operand {text : String} (o : Written.Operand false) {inner : List Char}
    {first : Char} (hchars : text.toList = o.chars) (hends : o.chars = first :: inner ++ [')'])
    (hfirst : Text.isBlank first = false) (env : Environment) :
    textValue env text = evaluate env (stackOrder [o.node 0]) := by
  have htext : text = String.ofList (first :: inner ++ [')']) := by
    rw [← hends, ← hchars, String.ofList_toList]
  have htrim : Text.trim text = text := by
    rw [htext]
    exact Text.trim_between hfirst (by decide) inner
  have hparse := parse_written (.mk .none (.chain o .nil) .none)
    (by simpa [Written.Padded.chars, Written.Level.chars, Written.Tail.chars,
      Written.Blanks.none] using hchars) htrim
  rw [textValue, hparse]
  rfl

theorem textValue_group {text : String} (h : Readable text) (env : Environment) :
    textValue env ("(" ++ text ++ ")") = textValue env text := by
  obtain ⟨p, hchars, hvalue⟩ := h.exists_written
  have hwhole : ("(" ++ text ++ ")").toList = (Written.Operand.group p).chars := by
    simp [Written.Operand.chars, hchars]
  rw [textValue_operand (.group p) hwhole rfl (by decide) env, hvalue env]
  exact (evaluate_group env _ _).trans (p.evaluate_nodes env 1)

theorem exists_levels_of_readable : ∀ (text : String) (texts : List String),
    (∀ t ∈ text :: texts, Readable t) → ∃ levels : Written.Levels,
      (",".intercalate (text :: texts)).toList = levels.chars ∧
        ∀ env, levels.toList.mapM (Written.Padded.value env) =
          (text :: texts).mapM (textValue env)
  | text, [], h => by
    obtain ⟨p, hchars, hvalue⟩ := (h text List.mem_cons_self).exists_written
    refine ⟨.last p, ?_, fun env => ?_⟩
    · simpa [Written.Levels.chars] using hchars
    · rw [Written.Levels.toList, List.mapM_cons, List.mapM_cons, hvalue]
      rfl
  | text, next :: texts, h => by
    obtain ⟨p, hchars, hvalue⟩ := (h text List.mem_cons_self).exists_written
    obtain ⟨levels, hlevels, hvalues⟩ := exists_levels_of_readable next texts fun t ht =>
      h t (List.mem_cons_of_mem _ ht)
    refine ⟨.more p levels, ?_, fun env => ?_⟩
    · rw [String.toList_intercalate] at hlevels ⊢
      rw [List.map_cons, List.map_cons, List.intercalate_cons_cons, ← List.map_cons, hlevels,
        hchars, Written.Levels.chars]
      simp
    · rw [Written.Levels.toList, List.mapM_cons, List.mapM_cons, hvalue, hvalues]

theorem exists_arguments_of_readable {texts : List String} (h : ∀ t ∈ texts, Readable t) :
    ∃ args : Written.Arguments, (",".intercalate texts).toList = args.chars ∧
      ∀ env, args.toList.mapM (Written.Padded.value env) = texts.mapM (textValue env) := by
  cases texts with
  | nil => exact ⟨.none .none, rfl, fun _ => rfl⟩
  | cons text texts =>
    obtain ⟨levels, hchars, hvalues⟩ := exists_levels_of_readable text texts h
    exact ⟨.some levels, hchars, hvalues⟩

/-- The text of a call. -/
def callText (method : String) (texts : List String) : String :=
  "$" ++ method ++ "(" ++ ",".intercalate texts ++ ")"

theorem textValue_call {method : String} (hne : method ≠ "")
    (hname : ∀ c ∈ method.toList, isNameChar c = true) {texts : List String}
    (h : ∀ t ∈ texts, Readable t) (env : Environment) :
    textValue env (callText method texts) = (do
      let values ← texts.mapM (textValue env)
      env.methods.callOn method (callText method texts) values) := by
  obtain ⟨args, hargs, hvalues⟩ := exists_arguments_of_readable h
  let name : Written.MethodName := ⟨method.toList, by simpa using hne, hname⟩
  have hwhole : (callText method texts).toList = (Written.Operand.call name args).chars := by
    simp [callText, Written.Operand.chars, name, hargs]
  have hsource : String.ofList (Written.Operand.call name args).chars = callText method texts := by
    rw [← hwhole, String.ofList_toList]
  have hmethod : String.ofList name.chars = method := String.ofList_toList
  have hends : (Written.Operand.call name args).chars =
      '$' :: (method.toList ++ '(' :: args.chars) ++ [')'] := by
    simp [Written.Operand.chars, name]
  rw [textValue_operand (.call name args) hwhole hends (by decide) env, Written.Operand.node,
    args.evaluate_call, hvalues, hsource, hmethod]

/-- An operation on two groups, with blanks around its operator. -/
theorem textValue_spaced (op : Operator) (before after : Written.Blanks) {left right text : String}
    (hleft : Readable left) (hright : Readable right)
    (htext : text = String.ofList ('(' :: (left.toList ++ ')' :: before.chars ++ op.symbol.toList ++
      after.chars ++ '(' :: right.toList) ++ [')'])) (env : Environment) :
    textValue env text = (do
      let y ← textValue env right
      let x ← textValue env left
      op.applyValues x y) := by
  obtain ⟨l, hl, hlvalue⟩ := hleft.exists_written
  obtain ⟨r, hr, hrvalue⟩ := hright.exists_written
  have hwhole : text.toList = (Written.Padded.mk .none (.chain (.group l)
      (.more before op after (.group r) nofun .nil)) .none).chars := by
    rw [htext, String.toList_ofList]
    simp [Written.Padded.chars, Written.Level.chars, Written.Tail.chars, Written.Operand.chars,
      Written.Blanks.none, hl, hr]
  have htrim : Text.trim text = text := by
    rw [htext]
    exact Text.trim_between (by decide) (by decide) _
  rw [textValue, parse_written _ hwhole htrim]
  refine (evaluate_operation env _ _ _ op _ _).trans ?_
  rw [l.evaluate_nodes, r.evaluate_nodes, hlvalue, hrvalue]

/-- The text of an operation on two groups. -/
def operationText (op : Operator) (left right : String) : String :=
  "(" ++ left ++ ")" ++ op.symbol ++ "(" ++ right ++ ")"

theorem textValue_operation (op : Operator) {left right : String} (hleft : Readable left)
    (hright : Readable right) (env : Environment) :
    textValue env (operationText op left right) = (do
      let y ← textValue env right
      let x ← textValue env left
      op.applyValues x y) := by
  apply textValue_spaced op .none .none hleft hright
  rw [← String.ofList_toList (s := operationText op left right)]
  simp [operationText, Written.Blanks.none]

/-! ## The law -/

namespace Engine

theorem calculate_eq_textValue {e : Engine} (h : e.Reachable) (bindings : NameTable Value) :
    (fun text => (e.calculate text bindings).1) = textValue (e.environment bindings) := by
  funext text
  exact calculate_eq h.valid text bindings

/-- The law of composition. In parentheses a formula has the value that it has alone. A call is
of the values that its arguments have alone, where the first that has none is the fault, and an
operator between two groups is applied to the values that they have alone. -/
theorem calculate_composed {e : Engine} (h : e.Reachable) (bindings : NameTable Value) :
    (∀ text, Readable text →
      (e.calculate ("(" ++ text ++ ")") bindings).1 = (e.calculate text bindings).1) ∧
    (∀ method texts, method ≠ "" → (∀ c ∈ method.toList, isNameChar c = true) →
      (∀ t ∈ texts, Readable t) →
      (e.calculate (callText method texts) bindings).1 = (do
        let values ← texts.mapM fun t => (e.calculate t bindings).1
        e.methods.callOn method (callText method texts) values)) ∧
    ∀ op left right, Readable left → Readable right →
      (e.calculate (operationText op left right) bindings).1 = (do
        let y ← (e.calculate right bindings).1
        let x ← (e.calculate left bindings).1
        op.applyValues x y) := by
  have hvalue := calculate_eq_textValue h bindings
  have htext : ∀ text, (e.calculate text bindings).1 = textValue (e.environment bindings) text :=
    congrFun hvalue
  refine ⟨fun text hread => ?_, fun method texts hne hname hread => ?_,
    fun op left right hleft hright => ?_⟩
  · rw [htext, htext, textValue_group hread]
  · rw [htext, hvalue, textValue_call hne hname hread]
    rfl
  · rw [htext, htext, htext, textValue_operation op hleft hright]

/-- A method of one number, which it gives back. -/
def echo : Plugin := ⟨"echo", [⟨"f", none, [⟨"x", .number, true⟩], .number,
  fun values => .ok (values.headD (.boolean false))⟩], []⟩

def echoing : Engine := (empty 1).after [.register echo]

/-- `1 + 2` and `{a}` inside other formulas, in an engine that knows one method and no
variable. -/
theorem calculate_composed_echo :
    (echoing.calculate "(1 + 2)" .empty).1 = (echoing.calculate "1 + 2" .empty).1 ∧
    (echoing.calculate "$f(1 + 2)" .empty).1 = (do
      let values ← ["1 + 2"].mapM fun t => (echoing.calculate t .empty).1
      echoing.methods.callOn "f" "$f(1 + 2)" values) ∧
    (echoing.calculate "({a})*(1 + 2)" .empty).1 = (do
      let y ← (echoing.calculate "1 + 2" .empty).1
      let x ← (echoing.calculate "{a}" .empty).1
      Operator.multiply.applyValues x y) := by
  have hreachable : echoing.Reachable := ⟨1, [.register echo], rfl⟩
  have hsum : Readable "1 + 2" := ⟨_, rfl⟩
  have hvariable : Readable "{a}" := ⟨_, rfl⟩
  have hgroupText : "(" ++ "1 + 2" ++ ")" = "(1 + 2)" := by decide
  have hcallText : callText "f" ["1 + 2"] = "$f(1 + 2)" := by decide
  have hoperationText : operationText .multiply "{a}" "1 + 2" = "({a})*(1 + 2)" := by decide
  obtain ⟨hgroup, hcall, hoperation⟩ := calculate_composed hreachable .empty
  have hname : ∀ c ∈ "f".toList, isNameChar c = true := by
    intro c hc
    rw [show "f".toList = ['f'] from rfl, List.mem_singleton] at hc
    rw [hc]
    decide
  have hg := hgroup "1 + 2" hsum
  have hc := hcall "f" ["1 + 2"] (by decide) hname (by simpa using hsum)
  have ho := hoperation .multiply "{a}" "1 + 2" hvariable hsum
  rw [hgroupText] at hg
  rw [hcallText] at hc
  rw [hoperationText] at ho
  exact ⟨hg, hc, ho⟩

end Engine

end Formulary
