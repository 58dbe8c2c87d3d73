-- Where the fault of a method comes from. A formula fails with the fault of a call only if
-- there is such a call in it: all its arguments have values, its method fails on them, and
-- the text in the fault is the piece of the formula that the call is written with.
import Formulary.Proofs.Brackets
import Formulary.Proofs.CallGate
import Formulary.Proofs.Composition
import Formulary.Proofs.Spans

namespace Formulary

/-! ## Faults of calls -/

/-- If the result is the fault of a call, then the text of the call and the cause are as told. -/
def Blames {α : Type} (told : String → Fault → Prop) (result : Except Fault α) : Prop :=
  ∀ chars cause, result = .error (.inCall chars cause) → told chars cause

section

variable {α β : Type} {told told' : String → Fault → Prop} {result : Except Fault α}

theorem blames_ok (a : α) : Blames told (.ok a) := nofun

theorem blames_error {fault : Fault} (h : (fault.category == .custom) = false) :
    Blames told (.error fault : Except Fault α) := by
  intro chars cause heq
  cases heq
  cases h

theorem Blames.bind {f : α → Except Fault β} (h : Blames told result)
    (hf : ∀ a, result = .ok a → Blames told (f a)) : Blames told (result >>= f) := by
  intro chars cause heq
  cases result with
  | error fault =>
    cases heq
    exact h chars cause rfl
  | ok a => exact hf a rfl chars cause heq

theorem Blames.map (f : α → β) (h : Blames told result) : Blames told (f <$> result) := by
  intro chars cause heq
  cases result with
  | error fault =>
    cases heq
    exact h chars cause rfl
  | ok a => cases heq

theorem Blames.mono (h : Blames told result) (hmono : ∀ chars cause, told chars cause →
    told' chars cause) : Blames told' result := by
  intro chars cause heq
  exact hmono chars cause (h chars cause heq)

end

/-! ## Reading -/

namespace Scanner

variable {told : String → Fault → Prop} {s : Scanner}

theorem blames_argument (run : List Node) : Blames told (s.argument run) := by
  unfold argument
  split
  · exact blames_error rfl
  · exact blames_ok _
  · exact blames_ok _

theorem blames_mapM_argument (runs : List (List Node)) : Blames told (runs.mapM s.argument) := by
  induction runs with
  | nil => exact blames_ok []
  | cons run runs ih =>
    rw [List.mapM_cons]
    refine (blames_argument run).bind fun node _ => ?_
    exact ih.bind fun nodes _ => blames_ok (node :: nodes)

theorem blames_leave : Blames told s.leave := by
  unfold leave
  split
  · exact blames_error rfl
  · dsimp only
    split
    · exact blames_ok _
    · refine Blames.bind ?_ fun _ _ => blames_ok _
      unfold arguments
      split
      · exact blames_ok _
      · exact blames_mapM_argument _

theorem blames_scanEnd : Blames told s.scanEnd := by
  unfold scanEnd
  split_ifs
  · exact blames_leave
  · exact blames_error rfl
  · exact blames_ok _

theorem blames_scanToken (c : Char) : Blames told (s.scanToken c) := by
  have hcallable : (s.notCallable.category == .custom) = false := by
    unfold notCallable
    split <;> rfl
  unfold scanToken
  cases CharClass.ofChar c <;> dsimp only <;> try split_ifs
  all_goals first
    | exact blames_scanEnd
    | exact blames_leave
    | exact blames_ok _
    | exact blames_error hcallable
    | exact blames_error rfl

theorem blames_endNumber (scan : NumberScan) (next : Option Char) :
    Blames told (s.endNumber scan next) := by
  unfold endNumber
  split_ifs
  · apply blames_error
    split <;> rfl
  · refine Blames.bind ?_ fun _ _ => blames_ok _
    unfold NumberLiteral.evaluate
    split
    · exact blames_error rfl
    · split_ifs
      · exact blames_error rfl
      · exact blames_ok _
      · exact blames_ok _

theorem blames_endOperator (origin : Nat) (symbol : String) :
    Blames told (s.endOperator origin symbol) := by
  unfold endOperator
  split
  · exact blames_error rfl
  · split_ifs
    · exact blames_ok _
    · exact blames_ok _
    · exact blames_error rfl

theorem blames_endText (origin : Nat) (content : String) :
    Blames told (s.endText origin content) := by
  unfold endText
  split_ifs
  · exact blames_ok _
  · exact blames_error rfl
  · exact blames_error rfl

/-- No step of a scan fails with the fault of a call. -/
theorem blames_step : Blames told s.step := by
  have hname : ∀ name, ((endCallName name).category == .custom) = false := by
    intro name
    unfold endCallName
    split_ifs <;> rfl
  unfold step scanBase scanNumber scanOperator scanText scanReference scanCallName scanClose
  split <;> try split
  all_goals try split_ifs
  all_goals first
    | exact blames_scanEnd
    | exact blames_scanToken _
    | exact blames_endNumber _ _
    | exact blames_endOperator _ _
    | exact blames_endText _ _
    | exact blames_ok _
    | exact blames_error (hname _)
    | exact blames_error rfl

end Scanner

/-- What cannot be read fails with a fault of its own. -/
theorem blames_parse (text : String) : Blames (fun _ _ => False) (parse text) := by
  unfold parse
  apply Blames.map
  intro chars cause heq
  rw [tokenize_eq_result] at heq
  obtain ⟨s, hstep⟩ := Scanner.exists_fault_of_result _ heq
  have hblames : Blames (fun _ _ => False) s.step := Scanner.blames_step
  exact hblames chars cause hstep

/-! ## Evaluation -/

/-- A call with the text `chars` stands among the nodes, at some depth: its arguments have these
values, and its method fails on them with the cause. -/
def FailsAt (env : Environment) (nodes : List Node) (chars : String) (cause : Fault) : Prop :=
  ∃ start method params values m, Within nodes (.call ⟨start, chars⟩ method params) ∧
    List.Forall₂ (fun param v => evaluate env (stackOrder [param]) = .ok v) params values ∧
    env.methods.get? method = some m ∧ m.run values = .error cause

/-- What fails inside a node fails inside the nodes around it. -/
theorem Blames.within {α : Type} {env : Environment} {result : Except Fault α} {node : Node}
    {nodes : List Node} (h : Blames (FailsAt env [node]) result) (hnode : Within nodes node) :
    Blames (FailsAt env nodes) result := by
  refine h.mono ?_
  rintro chars cause ⟨start, method, params, values, m, hcall, hrest⟩
  refine ⟨start, method, params, values, m, hcall.of_sub ?_, hrest⟩
  intro n hn
  rw [List.mem_singleton] at hn
  exact hn ▸ hnode

section

variable {told : String → Fault → Prop} {env : Environment}

/-- What may not fail inside a call where there are no methods does not fail inside one at all. -/
theorem blames_of_sound {α : Type} {result : Except Fault α} (env : Environment)
    (h : Environment.Sound { env with methods := .empty } result) : Blames told result := by
  intro chars cause heq
  rcases h _ heq with ⟨-, hwords⟩ | ⟨-, name, m, args, hm, -⟩
  · exact absurd rfl hwords
  · cases hm

theorem blames_lookup (key : String) : Blames told (env.lookup key) :=
  blames_of_sound env (Environment.sound_lookup key)

theorem blames_numberOperand (v : Value) : Blames told (numberOperand v) :=
  blames_of_sound ⟨.empty, .empty, .empty⟩ (Environment.sound_numberOperand v)

theorem blames_apply (op : Operator) (x y : Decimal) : Blames told (op.apply x y) :=
  blames_of_sound ⟨.empty, .empty, .empty⟩ (Environment.sound_apply op x y)

theorem blames_applyToStack (op : Operator) (stack : List Value) :
    Blames told (applyToStack op stack) := by
  unfold applyToStack
  split
  · refine (blames_numberOperand _).bind fun x _ => ?_
    refine (blames_numberOperand _).bind fun y _ => ?_
    exact (blames_apply op x y).bind fun v _ => blames_ok _
  · exact blames_error rfl

theorem blames_onlyValue (stack : List Value) : Blames told (onlyValue stack) := by
  unfold onlyValue
  split
  · exact blames_ok _
  · exact blames_error rfl

/-- A call that is declined fails with a fault of its own. -/
theorem category_of_declines {inputs : List Input} {params : List Node} {fault : Fault}
    (h : Method.Declines inputs params fault) : (fault.category == .custom) = false := by
  cases h <;> rfl

/-- The fault of a call is that of its method on its arguments. -/
theorem blames_callValue (t : MethodTable) (span : Span) (method : String) (args : List Node) :
    Blames (fun chars cause => chars = span.chars ∧ ∃ m values, t.get? method = some m ∧
      args.map Node.asValue? = values.map some ∧ m.run values = .error cause)
      (t.callValue (.call span method args)) := by
  unfold MethodTable.callValue
  dsimp only
  cases hm : t.get? method with
  | none => exact blames_error rfl
  | some m =>
    dsimp only
    rcases Method.accepts_or_declines m.inputs args with ⟨values, hvalues, haccepts⟩ |
      ⟨fault, hdeclines⟩
    · rw [Method.call_of_accepts span hvalues haccepts]
      unfold Method.runOn
      cases hrun : m.run values with
      | error fault =>
        intro chars cause heq
        cases heq
        exact ⟨rfl, m, values, rfl, hvalues, hrun⟩
      | ok v =>
        dsimp only
        split_ifs
        · exact blames_ok _
        · exact blames_error rfl
    · rw [Method.call_of_declines span hdeclines]
      exact blames_error (category_of_declines hdeclines)

theorem blames_evaluateNodes {nodes : List Node}
    (h : ∀ node ∈ nodes, ∀ stack, Blames told (evaluateNode env stack node)) :
    ∀ stack, Blames told (evaluateNodes env stack nodes) := by
  induction nodes with
  | nil => exact fun stack => blames_ok stack
  | cons node rest ih =>
    rw [List.forall_mem_cons] at h
    intro stack
    unfold evaluateNodes
    exact (h.1 stack).bind fun stack _ => ih h.2 stack

/-- A level blames a call if each of its nodes does, on any stack. -/
theorem blames_stackOrder {nodes : List Node}
    (h : ∀ node ∈ nodes, ∀ stack, Blames told (evaluateNode env stack node.inStackOrder)) :
    Blames told (evaluate env (stackOrder nodes)) := by
  have hnodes : ∀ node ∈ stackOrder nodes, ∀ stack, Blames told (evaluateNode env stack node) := by
    intro node hnode
    obtain ⟨n, hn, rfl⟩ := mem_stackOrder.mp hnode
    exact h n hn
  exact (blames_evaluateNodes hnodes []).bind fun stack _ => blames_onlyValue stack

/-- An argument is computed as a level of its own. -/
theorem evaluate_param (env : Environment) (param : Node) :
    (evaluateNode env [] param.inStackOrder >>= onlyValue) =
      evaluate env (stackOrder [param]) := by
  rw [stackOrder_singleton, evaluate_singleton]

theorem blames_evaluateParams {params : List Node}
    (h : ∀ param ∈ params, ∀ stack, Blames told (evaluateNode env stack param.inStackOrder)) :
    Blames told (evaluateParams env (paramsInStackOrder params)) := by
  induction params with
  | nil => exact blames_ok []
  | cons param rest ih =>
    rw [List.forall_mem_cons] at h
    unfold paramsInStackOrder evaluateParams
    refine (h.1 []).bind fun stack _ => ?_
    refine (blames_onlyValue stack).bind fun v _ => ?_
    exact (ih h.2).bind fun args _ => blames_ok _

/-- The arguments that a call comes to are the values of what is written there. -/
theorem forall₂_of_evaluateParams {params args : List Node}
    (h : evaluateParams env (paramsInStackOrder params) = .ok args) :
    ∃ values, args.map Node.asValue? = values.map some ∧
      List.Forall₂ (fun param v => evaluate env (stackOrder [param]) = .ok v) params values := by
  induction params generalizing args with
  | nil =>
    cases h
    exact ⟨[], rfl, .nil⟩
  | cons param rest ih =>
    unfold paramsInStackOrder evaluateParams at h
    obtain ⟨stack, hstack, h⟩ := exists_of_bind_eq_ok h
    obtain ⟨v, hv, h⟩ := exists_of_bind_eq_ok h
    obtain ⟨args', hargs, h⟩ := exists_of_bind_eq_ok h
    obtain ⟨values, hvalues, hforall⟩ := ih hargs
    cases h
    refine ⟨v :: values, ?_, .cons ?_ hforall⟩
    · rw [List.map_cons, List.map_cons, hvalues]
      rfl
    · rw [← evaluate_param, hstack]
      exact hv

end

mutual

/-- The fault of a call that a node fails with is that of a call in the node. -/
theorem blames_evaluateNode (env : Environment) : ∀ (node : Node) (stack : List Value),
    Blames (FailsAt env [node]) (evaluateNode env stack node.inStackOrder)
  | .value _ _, _ => blames_ok _
  | .comma _, _ => blames_error rfl
  | .operator _ op, stack => blames_applyToStack op stack
  | .reference _ key, stack => (blames_lookup key).map _
  | .group span body, stack => by
    have hgroup : Within [.group span body] (.group span body) := .here (List.mem_singleton_self _)
    have hbody : Blames (FailsAt env [.group span body]) (evaluate env (stackOrder body)) := by
      apply blames_stackOrder
      intro node hnode stack
      exact (blames_evaluateAll env body node hnode stack).within (hgroup.body hnode)
    rw [evaluateNode_group]
    exact hbody.bind fun v _ => blames_ok (v :: stack)
  | .call ⟨start, chars⟩ method params, stack => by
    have hcall : Within [.call ⟨start, chars⟩ method params] (.call ⟨start, chars⟩ method params) :=
      .here (List.mem_singleton_self _)
    have hparams : Blames (FailsAt env [.call ⟨start, chars⟩ method params])
        (evaluateParams env (paramsInStackOrder params)) := by
      apply blames_evaluateParams
      intro param hparam stack
      exact (blames_evaluateAll env params param hparam stack).within (hcall.param hparam)
    unfold Node.inStackOrder evaluateNode
    refine hparams.bind fun args hargs => ?_
    refine ((blames_callValue env.methods ⟨start, chars⟩ method args).mono ?_).map _
    rintro _ cause ⟨rfl, m, values, hm, hvalues, hrun⟩
    obtain ⟨values', hvalues', hforall⟩ := forall₂_of_evaluateParams hargs
    have hsame : values' = values :=
      List.map_injective_iff.mpr (fun _ _ => Option.some.inj) (hvalues'.symm.trans hvalues)
    rw [hsame] at hforall
    exact ⟨start, method, params, values, m, hcall, hforall, hm, hrun⟩

theorem blames_evaluateAll (env : Environment) : ∀ (nodes : List Node), ∀ node ∈ nodes,
    ∀ stack : List Value, Blames (FailsAt env [node]) (evaluateNode env stack node.inStackOrder)
  | [] => nofun
  | first :: rest =>
    List.forall_mem_cons.mpr ⟨blames_evaluateNode env first, blames_evaluateAll env rest⟩

end

/-- A level fails with the fault of a call only where one of its calls fails. -/
theorem blames_evaluate (env : Environment) (nodes : List Node) :
    Blames (FailsAt env nodes) (evaluate env (stackOrder nodes)) := by
  apply blames_stackOrder
  intro node hnode stack
  exact (blames_evaluateNode env node stack).within (.here hnode)

/-! ## The text of a call -/

theorem Written.NodeOf.isCallText {span : Span} {method : String} {params : List Node}
    (h : Written.NodeOf (.call span method params)) : IsCallText span.chars method := by
  generalize hc : Node.call span method params = call at h
  cases h with
  | operand o start =>
    cases o with
    | call name args =>
      cases hc
      exact Written.isCallText_call name args
    | _ => cases hc
  | _ => cases hc

/-! ## The law -/

namespace Engine

/-- The law of blame. If a formula fails with the fault of a call, then a call stands in the
trimmed text, at some depth of its tree, with the text that the fault tells: a piece of the
formula from the dollar and the name of a method to the parenthesis that matches the one behind
the name. All arguments of the call have values, and its method fails on these with the cause
that the fault tells. -/
theorem calculate_blames {e : Engine} (h : e.Reachable) {text : String}
    {bindings : NameTable Value} {chars : String} {cause : Fault}
    (hfault : (e.calculate text bindings).1 = .error (.inCall chars cause)) :
    ∃ tokens start method params values m, tokenize (Text.trim text) = .ok tokens ∧
      Within tokens (.call ⟨start, chars⟩ method params) ∧
      Span.CutFrom ⟨start, chars⟩ (Text.trim text) ∧ IsCallText chars method ∧
      List.Forall₂ (fun param v => evaluate (e.environment bindings) (stackOrder [param]) = .ok v)
        params values ∧
      e.methods.get? method = some m ∧ m.run values = .error cause := by
  rw [calculate_eq h.valid] at hfault
  cases hparse : Formulary.parse text with
  | error fault =>
    rw [hparse] at hfault
    cases hfault
    exact absurd hparse (blames_parse text chars cause)
  | ok nodes =>
    rw [hparse] at hfault
    obtain ⟨tokens, htokens, rfl⟩ := exists_tokens_of_parse hparse
    obtain ⟨start, method, params, values, m, hcall, hvalues, hm, hrun⟩ :=
      blames_evaluate (e.environment bindings) tokens chars cause hfault
    obtain ⟨p, hchars, rfl⟩ := exists_written_of_tokenize htokens
    have hlaid : Laid 0 (Text.trim text).toList (p.nodes 0) := hchars ▸ p.laid 0
    have howner : ∀ node, Within (p.nodes 0) node → OwnerText node :=
      fun node hnode => (p.nodeOf_within hnode).ownerText
    have hcut := (cutAt_within hlaid howner hcall).cutFrom
    have htext := (p.nodeOf_within hcall).isCallText
    exact ⟨_, start, method, params, values, m, htokens, hcall, hcut, htext, hvalues, hm, hrun⟩

/-- A method that takes no arguments, though it declares one. -/
def refuse : Plugin := ⟨"refuse", [⟨"f", none, [⟨"x", .text, false⟩], .number,
  fun values => if values.isEmpty then .ok (.number (.ofInt 1)) else .error (.custom "no")⟩], []⟩

def refusing : Engine := (empty 1).after [.register refuse]

/-- The nodes of `($f() + $f( ')' )) * 2`. -/
def twiceRefused : List Node :=
  [.group ⟨0, "($f() + $f( ')' ))"⟩ [.call ⟨1, "$f()"⟩ "f" [], .operator ⟨6, "+"⟩ .add,
      .call ⟨8, "$f( ')' )"⟩ "f" [.value ⟨12, "')'"⟩ (.text ")")]],
    .operator ⟨19, "*"⟩ .multiply, .value ⟨21, "2"⟩ (.number (.ofInt 2))]

/-- The second call fails, with a parenthesis in its argument. -/
theorem calculate_blames_refuse :
    (refusing.calculate " ($f() + $f( ')' )) * 2 " .empty).1 =
      .error (.inCall "$f( ')' )" (.custom "no")) ∧
    ∃ tokens start method params values m,
      tokenize (Text.trim " ($f() + $f( ')' )) * 2 ") = .ok tokens ∧
      Within tokens (.call ⟨start, "$f( ')' )"⟩ method params) ∧
      Span.CutFrom ⟨start, "$f( ')' )"⟩ (Text.trim " ($f() + $f( ')' )) * 2 ") ∧
      IsCallText "$f( ')' )" method ∧
      List.Forall₂ (fun param v =>
        evaluate (refusing.environment .empty) (stackOrder [param]) = .ok v) params values ∧
      refusing.methods.get? method = some m ∧ m.run values = .error (.custom "no") := by
  have hreachable : refusing.Reachable := ⟨1, [.register refuse], rfl⟩
  have htrim : Text.trim " ($f() + $f( ')' )) * 2 " = "($f() + $f( ')' )) * 2" := rfl
  have htokens : tokenize "($f() + $f( ')' )) * 2" = .ok twiceRefused := rfl
  have hfault : evaluate (refusing.environment .empty) (stackOrder twiceRefused) =
      .error (.inCall "$f( ')' )" (.custom "no")) := rfl
  have hcalculate : (refusing.calculate " ($f() + $f( ')' )) * 2 " .empty).1 =
      .error (.inCall "$f( ')' )" (.custom "no")) := by
    rw [calculate_eq hreachable.valid, Formulary.parse, htrim, htokens]
    exact hfault
  exact ⟨hcalculate, calculate_blames hreachable hcalculate⟩

end Engine

end Formulary
