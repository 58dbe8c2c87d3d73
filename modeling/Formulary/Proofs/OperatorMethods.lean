-- The methods that compute what the operators compute. An operator takes its operands off the
-- stack, and a call has its arguments judged before the method sees them. The outcome is the same,
-- but that a fault of the computation itself comes with the text of the call.
import Formulary.Builtin.Arithmetic
import Formulary.Proofs.CallGate
import Formulary.Proofs.Composition

namespace Formulary

/-! ## What an operator gives -/

theorem Decimal.category_of_finite {x : Decimal} {fault : Fault} (h : x.finite = .error fault) :
    fault.category = .numeric := by
  unfold finite at h
  split at h
  · cases h
  · cases h
    rfl

theorem Decimal.category_of_quotient {x y : Decimal} {fault : Fault}
    (h : x.quotient y = .error fault) : fault.category = .numeric := by
  unfold quotient at h
  split at h
  · cases h
    rfl
  · exact category_of_finite h

theorem eq_error_of_map {α β : Type} {result : Except Fault α} {f : α → β} {fault : Fault}
    (h : f <$> result = .error fault) : result = .error fault := by
  cases result with
  | error fault' => exact congrArg Except.error (Except.error.inj h)
  | ok a => cases h

namespace Operator

/-- An operator on two numbers fails for numeric reasons only. -/
theorem category_of_apply {op : Operator} {x y : Decimal} {fault : Fault}
    (h : op.apply x y = .error fault) : fault.category = .numeric := by
  cases op with
  | add => exact Decimal.category_of_finite (eq_error_of_map h)
  | subtract => exact Decimal.category_of_finite (eq_error_of_map h)
  | multiply => exact Decimal.category_of_finite (eq_error_of_map h)
  | divide => exact Decimal.category_of_quotient (eq_error_of_map h)
  | _ => cases h

/-- The type of what an operator gives. -/
def resultType (op : Operator) : TypeMask := if op.isComparison then .boolean else .number

theorem type_of_apply {op : Operator} {x y : Decimal} {v : Value} (h : op.apply x y = .ok v) :
    v.type = op.resultType := by
  have hnumber : ∀ result : Except Fault Decimal, Value.number <$> result = .ok v →
      v.type = .number := by
    intro result hresult
    cases result with
    | error fault => cases hresult
    | ok z =>
      cases hresult
      rfl
  cases op with
  | add => exact hnumber _ h
  | subtract => exact hnumber _ h
  | multiply => exact hnumber _ h
  | divide => exact hnumber _ h
  | _ =>
    cases h
    rfl

/-! ## Methods in the place of operators -/

/-- The method that computes what an operator computes. -/
def methodName : Operator → String
  | greater => "gt"
  | greaterEqual => "gte"
  | less => "lt"
  | lessEqual => "lte"
  | equal => "eq"
  | notEqual => "neq"
  | add => "add"
  | subtract => "minus"
  | multiply => "multi"
  | divide => "div"

theorem isNameChar_methodName (op : Operator) :
    ∀ c ∈ op.methodName.toList, isNameChar c = true := by
  cases op <;> exact List.all_eq_true.mp rfl

/-- A method of two numbers that computes what the operator computes. -/
structure ComputedBy (op : Operator) (m : Method) : Prop where
  inputs : m.inputs = [Builtin.required "x" .number, Builtin.required "y" .number]
  output : m.output = op.resultType
  run : ∀ x y : Decimal, m.run [.number x, .number y] = op.apply x y

/-- What an operator makes of two values, and what the call of a method makes of them. Both give one
value, or a fault of the computation, which comes with the text of the call where there is one.
The first value that is not a number is refused in the same words. -/
inductive SameOutcome (op : Operator) (call : String) :
    Value → Value → Except Fault Value → Except Fault Value → Prop
  | value {x y : Decimal} {v : Value} : op.apply x y = .ok v →
      SameOutcome op call (.number x) (.number y) (.ok v) (.ok v)
  | numeric {x y : Decimal} {fault : Fault} : op.apply x y = .error fault →
      fault.category = .numeric →
      SameOutcome op call (.number x) (.number y) (.error fault) (.error (.inCall call fault))
  | left {v w : Value} : v.asNumber? = none →
      SameOutcome op call v w (.error (.argumentType v.type .number))
        (.error (.argumentType v.type .number))
  | right {x : Decimal} {w : Value} : w.asNumber? = none →
      SameOutcome op call (.number x) w (.error (.argumentType w.type .number))
        (.error (.argumentType w.type .number))

end Operator

theorem Value.eq_number {v : Value} {x : Decimal} (h : v.asNumber? = some x) : v = .number x := by
  cases v with
  | number y =>
    cases h
    rfl
  | _ => cases h

theorem number_accepts_iff (v : Value) :
    TypeMask.number.accepts v.type = true ↔ v.asNumber?.isSome = true := by
  cases v with
  | number x => exact iff_of_true (by rw [Value.type]; decide) rfl
  | _ => exact iff_of_false (by rw [Value.type]; decide) (by simp [Value.asNumber?])

namespace Operator

variable {op : Operator} {m : Method}

theorem applyValues_left {v w : Value} (h : v.asNumber? = none) :
    op.applyValues v w = .error (.argumentType v.type .number) := by
  cases v with
  | number x => cases h
  | _ => rfl

theorem applyValues_right {x : Decimal} {w : Value} (h : w.asNumber? = none) :
    op.applyValues (.number x) w = .error (.argumentType w.type .number) := by
  cases w with
  | number y => cases h
  | _ => rfl

/-- The gate of such a method, before two values. -/
theorem ComputedBy.call_pair (h : op.ComputedBy m) (span : Span) (v w : Value) :
    m.call span [.value ⟨0, ""⟩ v, .value ⟨0, ""⟩ w] =
      if TypeMask.number.accepts v.type then
        if TypeMask.number.accepts w.type then m.runOn span [v, w]
        else .error (.argumentType w.type .number)
      else .error (.argumentType v.type .number) := by
  have hcount : m.checkCount 2 = .ok () := by
    apply Method.checkCount_eq_ok
    · rw [h.inputs]
      decide
    · rw [h.inputs]
      decide
  unfold Method.call
  rw [List.length_cons, List.length_singleton, hcount, ok_bind, h.inputs]
  change ((if TypeMask.number.accepts v.type then
      (v :: ·) <$> (if TypeMask.number.accepts w.type then (w :: ·) <$> Except.ok []
        else .error (.argumentType w.type .number))
    else .error (.argumentType v.type .number)) >>= m.runOn span) = _
  by_cases hv : TypeMask.number.accepts v.type = true
  · rw [if_pos hv, if_pos hv]
    by_cases hw : TypeMask.number.accepts w.type = true
    · rw [if_pos hw, if_pos hw]
      rfl
    · rw [if_neg hw, if_neg hw]
      rfl
  · rw [if_neg hv, if_neg hv]
    rfl

/-- An operator and a method that computes the same have the same outcome. -/
theorem ComputedBy.sameOutcome (h : op.ComputedBy m) (call : String) (v w : Value) :
    op.SameOutcome call v w (op.applyValues v w)
      (m.call ⟨0, call⟩ [.value ⟨0, ""⟩ v, .value ⟨0, ""⟩ w]) := by
  rw [h.call_pair]
  cases hv : v.asNumber? with
  | none =>
    rw [applyValues_left hv, if_neg (by simp [number_accepts_iff, hv])]
    exact .left hv
  | some x =>
    rw [if_pos (by simp [number_accepts_iff, hv]), Value.eq_number hv]
    cases hw : w.asNumber? with
    | none =>
      rw [applyValues_right hw, if_neg (by simp [number_accepts_iff, hw])]
      exact .right hw
    | some y =>
      rw [if_pos (by simp [number_accepts_iff, hw]), Value.eq_number hw, Method.runOn, h.run,
        applyValues]
      cases happly : op.apply x y with
      | error fault => exact .numeric happly (category_of_apply happly)
      | ok r =>
        have haccepted : m.output.accepts r.type = true := by
          rw [h.output, type_of_apply happly]
          cases op <;> decide
        dsimp only
        rw [if_pos haccepted]
        exact .value happly

variable {call : String} {outcome methodOutcome : Except Fault Value} {x : Decimal}

theorem SameOutcome.of_fault {y : Decimal} {fault : Fault}
    (h : op.SameOutcome call (.number x) (.number y) outcome methodOutcome)
    (hfault : op.apply x y = .error fault) :
    outcome = .error fault ∧ methodOutcome = .error (.inCall call fault) := by
  cases h with
  | value happly =>
    rw [hfault] at happly
    cases happly
  | numeric happly hcategory =>
    rw [hfault] at happly
    cases happly
    exact ⟨rfl, rfl⟩
  | left hx => cases hx
  | right hy => cases hy

theorem SameOutcome.of_right {w : Value}
    (h : op.SameOutcome call (.number x) w outcome methodOutcome) (hw : w.asNumber? = none) :
    outcome = .error (.argumentType w.type .number) ∧ methodOutcome = outcome := by
  cases h with
  | value happly => cases hw
  | numeric happly hcategory => cases hw
  | left hx => cases hx
  | right hw => exact ⟨rfl, rfl⟩

end Operator

/-! ## The two texts -/

/-- The text of an operator between two formulas. -/
def Operator.infixText (op : Operator) (left right : String) : String :=
  "(" ++ left ++ ") " ++ op.symbol ++ " (" ++ right ++ ")"

/-- The text of the call of a method on two formulas. -/
def Operator.methodText (op : Operator) (left right : String) : String :=
  "$" ++ op.methodName ++ "(" ++ left ++ ", " ++ right ++ ")"

def Written.Blanks.single : Blanks := ⟨[' '], List.all_eq_true.mp rfl⟩

section

variable {left right : String} (hleft : Readable left) (hright : Readable right)
include hleft hright

theorem textValue_infixText (op : Operator) (env : Environment) :
    textValue env (op.infixText left right) = (do
      let y ← textValue env right
      let x ← textValue env left
      op.applyValues x y) := by
  apply textValue_spaced op .single .single hleft hright
  rw [← String.ofList_toList (s := op.infixText left right)]
  simp [Operator.infixText, Written.Blanks.single]

theorem textValue_methodText (op : Operator) (env : Environment) :
    textValue env (op.methodText left right) = (do
      let x ← textValue env left
      let y ← textValue env right
      env.methods.callOn op.methodName (op.methodText left right) [x, y]) := by
  have htext : op.methodText left right = callText op.methodName [left, " " ++ right] := by
    rw [← String.toList_inj]
    simp [Operator.methodText, callText]
  have hsame : parse (" " ++ right) = parse right := by
    rw [parse, parse, Text.trim_append (List.all_eq_true.mp rfl)]
  have hreadable : ∀ t ∈ [left, " " ++ right], Readable t := by
    intro t ht
    rcases List.mem_cons.mp ht with rfl | ht
    · exact hleft
    · rw [List.mem_singleton.mp ht, Readable, hsame]
      exact hright
  have hne : op.methodName ≠ "" := by
    cases op <;> decide
  have hcall := textValue_call hne op.isNameChar_methodName hreadable env
  rw [← htext, List.mapM_cons, List.mapM_cons, List.mapM_nil] at hcall
  rw [hcall, textValue, textValue, textValue, hsame]
  simp

end

/-! ## The methods of the engine -/

namespace Engine

variable {capacity : Nat} {e : Engine}

/-- The engine that knows the methods of numbers, and nothing else. -/
def withArithmetic (capacity : Nat) : Engine :=
  ⟨⟨Builtin.numberMethods.map fun m => (m.name, m)⟩, .empty,
    [⟨"Arithmetic", Builtin.numberMethods.map (·.name), []⟩], .empty capacity⟩

theorem register_arithmetic (capacity : Nat) :
    (empty capacity).register Builtin.arithmetic = .ok (withArithmetic capacity) := rfl

theorem exists_computedBy (h : (empty capacity).register Builtin.arithmetic = .ok e)
    (op : Operator) : ∃ m, e.methods.get? op.methodName = some m ∧ op.ComputedBy m := by
  rw [register_arithmetic] at h
  obtain rfl := Except.ok.inj h
  cases op <;> exact ⟨_, rfl, rfl, rfl, fun x y => rfl⟩

theorem reachable_of_register {p : Plugin} (h : (empty capacity).register p = .ok e) :
    e.Reachable := by
  refine ⟨capacity, [.register p], ?_⟩
  rw [after_cons, handle_register, h]
  rfl

/-! ## The law -/

/-- The law of operators and their methods. Between two formulas that have values, an operator and
the call of its method have the same outcome, whatever the types of the values are. -/
theorem calculate_methodText (h : (empty capacity).register Builtin.arithmetic = .ok e)
    (op : Operator) (bindings : NameTable Value) {left right : String} {v w : Value}
    (hleft : (e.calculate left bindings).1 = .ok v)
    (hright : (e.calculate right bindings).1 = .ok w) :
    op.SameOutcome (op.methodText left right) v w
      (e.calculate (op.infixText left right) bindings).1
      (e.calculate (op.methodText left right) bindings).1 := by
  have htext : ∀ text, (e.calculate text bindings).1 = textValue (e.environment bindings) text :=
    congrFun (calculate_eq_textValue (reachable_of_register h) bindings)
  obtain ⟨m, hm, hcomputed⟩ := exists_computedBy h op
  rw [htext] at hleft hright
  have hl := readable_of_textValue hleft
  have hr := readable_of_textValue hright
  rw [htext, htext, textValue_infixText hl hr, textValue_methodText hl hr, hleft, hright]
  have hcall : e.methods.callOn op.methodName (op.methodText left right) [v, w] =
      m.call ⟨0, op.methodText left right⟩ [.value ⟨0, ""⟩ v, .value ⟨0, ""⟩ w] := by
    unfold MethodTable.callOn MethodTable.callValue
    dsimp only
    rw [hm]
    rfl
  have hsame := hcomputed.sameOutcome (op.methodText left right) v w
  rw [← hcall] at hsame
  exact hsame

/-- A division by zero, whose dividend is bound for the calculation, and a comparison with a
text. -/
theorem calculate_methodText_faults :
    (empty 1).register Builtin.arithmetic = .ok (withArithmetic 1) ∧
    ((withArithmetic 1).calculate "({a}) / (1 - 1)" ⟨[("a", .number ⟨3, 0⟩)]⟩).1 =
      .error .divisionByZero ∧
    ((withArithmetic 1).calculate "$div({a}, 1 - 1)" ⟨[("a", .number ⟨3, 0⟩)]⟩).1 =
      .error (.inCall "$div({a}, 1 - 1)" .divisionByZero) ∧
    ((withArithmetic 1).calculate "(2) > ('x')" .empty).1 =
      .error (.argumentType .text .number) ∧
    ((withArithmetic 1).calculate "$gt(2, 'x')" .empty).1 =
      .error (.argumentType .text .number) := by
  have h := register_arithmetic 1
  have hdividend : ((withArithmetic 1).calculate "{a}" ⟨[("a", .number ⟨3, 0⟩)]⟩).1 =
      .ok (.number ⟨3, 0⟩) := by decide +kernel
  have hdivisor : ((withArithmetic 1).calculate "1 - 1" ⟨[("a", .number ⟨3, 0⟩)]⟩).1 =
      .ok (.number ⟨0, 0⟩) := by decide +kernel
  have hnumber : ((withArithmetic 1).calculate "2" .empty).1 = .ok (.number ⟨2, 0⟩) := by
    decide +kernel
  have htext : ((withArithmetic 1).calculate "'x'" .empty).1 = .ok (.text "x") := by
    decide +kernel
  have hzero : Operator.divide.apply ⟨3, 0⟩ ⟨0, 0⟩ = .error .divisionByZero := by decide
  have hquotient := calculate_methodText h .divide _ hdividend hdivisor
  have hgreater := calculate_methodText h .greater _ hnumber htext
  have hquotientTexts : Operator.divide.infixText "{a}" "1 - 1" = "({a}) / (1 - 1)" ∧
      Operator.divide.methodText "{a}" "1 - 1" = "$div({a}, 1 - 1)" := by decide
  have hgreaterTexts : Operator.greater.infixText "2" "'x'" = "(2) > ('x')" ∧
      Operator.greater.methodText "2" "'x'" = "$gt(2, 'x')" := by decide
  rw [hquotientTexts.1, hquotientTexts.2] at hquotient
  rw [hgreaterTexts.1, hgreaterTexts.2] at hgreater
  obtain ⟨houtcome, hmethod⟩ := hquotient.of_fault hzero
  obtain ⟨houtcome', hmethod'⟩ := hgreater.of_right rfl
  exact ⟨h, houtcome, hmethod, houtcome', hmethod'.trans houtcome'⟩

end Engine

end Formulary
