-- What can go wrong when a formula is computed. The tree of a formula that could be read has
-- all the operands that its operators take, so a fault is never one of its form; and what a
-- method fails with is a fault of the call, whatever it says.
import Formulary.Proofs.Grammar
import Formulary.Proofs.StackEvaluation
import Formulary.TreeCache

namespace Formulary

/-! ## The levels of a formula -/

namespace Written

theorem isOperand_argumentOf {nodes : List Node} (start : Nat) (chars : List Char)
    (h : IsLevel nodes) : IsOperand (argumentOf start chars nodes) := by
  cases h with
  | operand hnode => exact hnode
  | more span op hnode hrest => exact .group _ (.more span op hnode hrest)

mutual

theorem Operand.isOperand : ∀ {signed : Bool} (o : Operand signed) (start : Nat),
    IsOperand (o.node start)
  | _, .number _, _ => .value _ _
  | _, .reference _, _ => .reference _ _
  | _, .group body, start => .group _ (body.isLevel (start + 1))
  | _, .call _ args, _ => .call _ _ (args.areOperands _)

theorem Tail.isLevel : ∀ (t : Tail) {node : Node} (start : Nat), IsOperand node →
    IsLevel (node :: t.nodes start)
  | .nil, _, _, h => .operand h
  | .more _ op _ operand _ rest, _, _, h => .more _ op h (rest.isLevel _ (operand.isOperand _))

theorem Level.isLevel : ∀ (l : Level) (start : Nat), IsLevel (l.nodes start)
  | .text _, _ => .operand (.value _ _)
  | .chain first rest, start => rest.isLevel _ (first.isOperand start)

theorem Padded.isLevel : ∀ (p : Padded) (start : Nat), IsLevel (p.nodes start)
  | .mk _ level _, _ => level.isLevel _

theorem Arguments.areOperands : ∀ (args : Arguments) (start : Nat),
    AreOperands (args.params start)
  | .none _, _ => .nil
  | .some levels, start => levels.areOperands start

theorem Levels.areOperands : ∀ (levels : Levels) (start : Nat), AreOperands (levels.params start)
  | .last (.mk _ level _), _ => .cons (isOperand_argumentOf _ _ (level.isLevel _)) .nil
  | .more (.mk _ level _) rest, _ =>
    .cons (isOperand_argumentOf _ _ (level.isLevel _)) (rest.areOperands _)

end

end Written

theorem exists_tokens_of_parse {text : String} {nodes : List Node} (h : parse text = .ok nodes) :
    ∃ tokens, tokenize (Text.trim text) = .ok tokens ∧ nodes = stackOrder tokens := by
  unfold parse at h
  cases htokens : tokenize (Text.trim text) with
  | error fault =>
    rw [htokens] at h
    cases h
  | ok tokens =>
    rw [htokens] at h
    exact ⟨tokens, rfl, (Except.ok.inj h).symm⟩

theorem exists_means_of_tokenize {text : String} {tokens : List Node}
    (h : tokenize text = .ok tokens) : ∃ e, LevelMeans 0 tokens e := by
  obtain ⟨p, -, rfl⟩ := exists_written_of_tokenize h
  exact (p.isLevel 0).exists_means

/-- A formula that could be read has a tree of operators, and is computed like it. -/
theorem exists_expr_of_parse {text : String} {nodes : List Node} (h : parse text = .ok nodes) :
    ∃ e : Expr, ∀ env, evaluate env nodes = e.evaluate env := by
  obtain ⟨tokens, htokens, rfl⟩ := exists_tokens_of_parse h
  obtain ⟨e, he⟩ := exists_means_of_tokenize htokens
  exact ⟨e, he.evaluate_eq⟩

/-! ## The faults of a tree -/

/-- A method that formulas can call fails in these words. -/
def Environment.Raises (env : Environment) (cause : Fault) : Prop :=
  ∃ name m args, env.methods.get? name = some m ∧ m.run args = .error cause

/-- The faults that a tree may have: those in the words of a method stand inside the call, and
no other fault is of a formula's form. -/
inductive Environment.Allows (env : Environment) : Fault → Prop
  | own {fault : Fault} : fault.category ≠ .syntactic → fault.category ≠ .custom → Allows env fault
  | inCall (chars : String) {cause : Fault} : env.Raises cause → Allows env (.inCall chars cause)

/-- A result is a value or a fault that a tree may have. -/
def Environment.Sound {α : Type} (env : Environment) (result : Except Fault α) : Prop :=
  ∀ fault, result = .error fault → env.Allows fault

namespace Environment

variable {α β : Type} {env : Environment}

theorem sound_ok (a : α) : env.Sound (.ok a) := nofun

theorem sound_error {fault : Fault} (h : env.Allows fault) :
    env.Sound (.error fault : Except Fault α) := by
  rintro _ ⟨⟩
  exact h

theorem Sound.bind {result : Except Fault α} {f : α → Except Fault β} (h : env.Sound result)
    (hf : ∀ a, result = .ok a → env.Sound (f a)) : env.Sound (result >>= f) := by
  cases result with
  | error fault => exact sound_error (h fault rfl)
  | ok a => exact hf a rfl

theorem Sound.map {result : Except Fault α} (f : α → β) (h : env.Sound result) :
    env.Sound (f <$> result) := by
  cases result with
  | error fault => exact sound_error (h fault rfl)
  | ok a => exact sound_ok (f a)

theorem sound_lookup (key : String) : env.Sound (env.lookup key) := by
  unfold lookup VariableTable.value
  split
  · exact sound_ok _
  · split
    · exact sound_error (.own nofun nofun)
    · exact sound_ok _

theorem sound_numberOperand (v : Value) : env.Sound (numberOperand v) := by
  unfold numberOperand
  split
  · exact sound_ok _
  · exact sound_error (.own nofun nofun)

theorem sound_finite (x : Decimal) : env.Sound x.finite := by
  unfold Decimal.finite
  split
  · exact sound_ok _
  · exact sound_error (.own nofun nofun)

theorem sound_apply (op : Operator) (x y : Decimal) : env.Sound (op.apply x y) := by
  have hquotient : env.Sound (x.quotient y) := by
    unfold Decimal.quotient
    split
    · exact sound_error (.own nofun nofun)
    · exact sound_finite _
  cases op with
  | add => exact (sound_finite _).map _
  | subtract => exact (sound_finite _).map _
  | multiply => exact (sound_finite _).map _
  | divide => exact hquotient.map _
  | _ => exact sound_ok _

/-! ### Calls -/

theorem sound_checkCount (m : Method) (got : Nat) : env.Sound (m.checkCount got) := by
  unfold Method.checkCount
  dsimp only
  split
  · exact sound_error (.own nofun nofun)
  · split
    · exact sound_error (.own nofun nofun)
    · split
      · split
        · exact sound_error (.own nofun nofun)
        · exact sound_error (.own nofun nofun)
      · exact sound_ok _

theorem sound_checkTypes (params : List Node) (inputs : List Input) :
    env.Sound (Method.checkTypes params inputs) := by
  induction params generalizing inputs with
  | nil => exact sound_ok []
  | cons param params ih =>
    cases inputs with
    | nil => exact sound_ok []
    | cons input inputs =>
      cases param with
      | value span v =>
        rw [Method.checkTypes]
        split
        · exact (ih inputs).map _
        · exact sound_error (.own nofun nofun)
      | _ => exact sound_error (.own nofun nofun)

theorem sound_call {name : String} {m : Method} (hm : env.methods.get? name = some m)
    (span : Span) (params : List Node) : env.Sound (m.call span params) := by
  refine (sound_checkCount m _).bind fun _ _ => (sound_checkTypes _ _).bind fun args _ => ?_
  unfold Method.runOn
  split
  · rename_i cause hrun
    exact sound_error (.inCall _ ⟨name, m, args, hm, hrun⟩)
  · split
    · exact sound_ok _
    · exact sound_error (.own nofun nofun)

theorem sound_callValue (span : Span) (name : String) (params : List Node) :
    env.Sound (env.methods.callValue (.call span name params)) := by
  rw [MethodTable.callValue]
  split
  · exact sound_error (.own nofun nofun)
  · rename_i m hm
    exact sound_call hm span params

end Environment

/-! ### Trees -/

mutual

theorem Expr.sound_evaluate (env : Environment) : ∀ e : Expr, env.Sound (e.evaluate env)
  | .value v => Environment.sound_ok v
  | .reference key => Environment.sound_lookup key
  | .group body => body.sound_evaluate env
  | .call span method args =>
    (sound_evaluateArgs env args).bind fun params _ =>
      Environment.sound_callValue span method params
  | .binary op left right =>
    (right.sound_evaluate env).bind fun y _ => (left.sound_evaluate env).bind fun x _ =>
      (Environment.sound_numberOperand x).bind fun x _ =>
        (Environment.sound_numberOperand y).bind fun y _ => Environment.sound_apply op x y

theorem sound_evaluateArgs (env : Environment) :
    ∀ args : List (Span × Expr), env.Sound (evaluateArgs env args)
  | [] => Environment.sound_ok []
  | (_, e) :: rest =>
    (e.sound_evaluate env).bind fun _ _ => (sound_evaluateArgs env rest).bind fun _ _ =>
      Environment.sound_ok _

end

/-! ## The law -/

/-- The law of faults. A formula that could be read never fails for its form, whatever methods,
variables and bindings it is computed with. What a method fails with is a fault of the call,
and a fault in the words of a method is nothing else. -/
theorem faults_of_parse {text : String} {nodes : List Node} (h : parse text = .ok nodes)
    (env : Environment) :
    (∀ fault, evaluate env nodes = .error fault → fault.category ≠ .syntactic ∧
      (fault.category = .custom →
        ∃ chars cause, fault = .inCall chars cause ∧ env.Raises cause)) ∧
    ∀ (m : Method) span args cause, m.run args = .error cause →
      m.runOn span args = .error (.inCall span.chars cause) ∧
        (Fault.inCall span.chars cause).category = .custom := by
  refine ⟨fun fault hfault => ?_, fun m span args cause hrun => ⟨?_, rfl⟩⟩
  · obtain ⟨e, he⟩ := exists_expr_of_parse h
    rw [he env] at hfault
    rcases e.sound_evaluate env fault hfault with ⟨hform, hwords⟩ | ⟨chars, hraises⟩
    · exact ⟨hform, fun hcustom => absurd hcustom hwords⟩
    · exact ⟨nofun, fun _ => ⟨chars, _, rfl, hraises⟩⟩
  · rw [Method.runOn, hrun]

/-- A method that fails as if a text had ended. -/
def endless : Method :=
  ⟨"f", none, [⟨"x", .number, true⟩, ⟨"y", .value, false⟩], .value, fun _ => .error .unexpectedEnd⟩

/-- The nodes of `2 * $f(1, (3))`. -/
def twiceCall : List Node :=
  [.value ⟨0, "2"⟩ (.number (.ofInt 2)), .operator ⟨2, "*"⟩ .multiply,
    .call ⟨4, "$f(1, (3))"⟩ "f" [.value ⟨7, "1"⟩ (.number (.ofInt 1)),
      .group ⟨10, "(3)"⟩ [.value ⟨11, "3"⟩ (.number (.ofInt 3))]]]

/-- Its failure is a fault of the call. -/
theorem faults_of_parse_call :
    parse " 2 * $f(1, (3)) " = .ok (stackOrder twiceCall) ∧
      evaluate ⟨NameTable.empty.insert "f" endless, .empty, .empty⟩ (stackOrder twiceCall) =
        .error (.inCall "$f(1, (3))" .unexpectedEnd) ∧
      (Fault.inCall "$f(1, (3))" .unexpectedEnd).category ≠ .syntactic := by
  have htrim : Text.trim " 2 * $f(1, (3)) " = "2 * $f(1, (3))" := rfl
  have htokens : tokenize "2 * $f(1, (3))" = .ok twiceCall := rfl
  have hparse : parse " 2 * $f(1, (3)) " = .ok (stackOrder twiceCall) := by
    rw [parse, htrim, htokens]
    rfl
  have hfault : evaluate ⟨NameTable.empty.insert "f" endless, .empty, .empty⟩
      (stackOrder twiceCall) = .error (.inCall "$f(1, (3))" .unexpectedEnd) := rfl
  exact ⟨hparse, hfault, ((faults_of_parse hparse _).1 _ hfault).1⟩

end Formulary
