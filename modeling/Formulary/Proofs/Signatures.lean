-- What the methods that come with the engine declare, and what they look at. A method that is
-- run on arguments that its declaration admits finds each of them where it looks for it and of
-- the type that it needs, and what it gives has a declared type. The conversion to a number
-- alone breaks its word: it admits no argument at all, and then fails for want of one.
import Formulary.Builtin.Library
import Formulary.Proofs.CallGate

namespace Formulary

/-! ## Faults of arguments -/

/-- The fault says that arguments are too few, too many or of the wrong type. An argument of the
right type whose value does not fit is another matter. -/
def Fault.isOfArguments : Fault → Bool
  | .tooFewArguments _ | .argumentCount _ _ | .argumentRange _ _ _ | .tooManyArguments _
  | .argumentType _ _ => true
  | _ => false

/-- Nothing is wrong with the arguments. -/
def Quiet {α : Type} (result : Except Fault α) : Prop :=
  ∀ fault, result = .error fault → fault.isOfArguments = false

/-- Nothing is wrong with the arguments, and a value that comes out has an accepted type. -/
structure Serves (output : TypeMask) (result : Except Fault Value) : Prop where
  quiet : Quiet result
  fits : ∀ v, result = .ok v → output.accepts v.type = true

/-- On these arguments the method does what it declares. -/
def Method.Keeps (m : Method) (args : List Value) : Prop := Serves m.output (m.run args)

section

variable {α β : Type} {result : Except Fault α}

theorem quiet_ok (a : α) : Quiet (.ok a) := nofun

theorem quiet_error {fault : Fault} (h : fault.isOfArguments = false) :
    Quiet (.error fault : Except Fault α) := by
  rintro _ ⟨⟩
  exact h

theorem Quiet.bind {f : α → Except Fault β} (h : Quiet result) (hf : ∀ a, Quiet (f a)) :
    Quiet (result >>= f) := by
  cases result with
  | error fault => exact quiet_error (h fault rfl)
  | ok a => exact hf a

theorem serves_ok {output : TypeMask} {v : Value} (h : output.accepts v.type = true) :
    Serves output (.ok v) where
  quiet := quiet_ok v
  fits := by
    rintro _ ⟨⟩
    exact h

theorem serves_error {output : TypeMask} {fault : Fault} (h : fault.isOfArguments = false) :
    Serves output (.error fault) where
  quiet := quiet_error h
  fits := by rintro v ⟨⟩

theorem Quiet.serves_bind {output : TypeMask} {f : α → Except Fault Value} (h : Quiet result)
    (hf : ∀ a, result = .ok a → Serves output (f a)) : Serves output (result >>= f) := by
  cases result with
  | error fault => exact serves_error (h fault rfl)
  | ok a => exact hf a rfl

theorem Quiet.serves_map {output : TypeMask} {f : α → Value} (h : Quiet result)
    (hf : ∀ a, output.accepts (f a).type = true) : Serves output (f <$> result) := by
  cases result with
  | error fault => exact serves_error (h fault rfl)
  | ok a => exact serves_ok (hf a)

end

/-! ## Arithmetic -/

namespace Decimal

theorem quiet_finite (x : Decimal) : Quiet x.finite := by
  unfold finite
  split
  · exact quiet_ok x
  · exact quiet_error rfl

theorem quiet_sum (x y : Decimal) : Quiet (x.sum y) := quiet_finite _

theorem quiet_difference (x y : Decimal) : Quiet (x.difference y) := quiet_finite _

theorem quiet_product (x y : Decimal) : Quiet (x.product y) := quiet_finite _

theorem quiet_quotient (x y : Decimal) : Quiet (x.quotient y) := by
  unfold quotient
  split
  · exact quiet_error rfl
  · exact quiet_finite _

theorem quiet_exactPower (x : Decimal) (exponent : Int64) : Quiet (x.exactPower exponent) := by
  unfold exactPower
  dsimp only
  split_ifs
  · exact quiet_error rfl
  · exact quiet_ok zero
  · exact quiet_quotient _ _
  · exact quiet_finite _

theorem quiet_doublePower (x y : Decimal) : Quiet (x.doublePower y) := by
  unfold doublePower
  dsimp only
  split_ifs
  · exact quiet_error rfl
  · exact quiet_error rfl
  · exact quiet_ok _

theorem quiet_power (x y : Decimal) : Quiet (x.power y) := by
  unfold power
  split
  · exact quiet_exactPower x _
  · exact quiet_doublePower x y

end Decimal

namespace Builtin

open Method

/-! ## Looking at arguments -/

/-- The argument at a place is there, and has an accepted type. -/
def Given (args : List Value) (i : Nat) (type : TypeMask) : Prop :=
  ∃ v, args[i]? = some v ∧ type.accepts v.type = true

section

variable {inputs : List Input} {args : List Value} {i : Nat} {name : String} {type : TypeMask}

theorem given_of_required (h : Accepts inputs args) (hfirst : requiredFirst inputs = true)
    (hinput : inputs[i]? = some (required name type)) : Given args i type := by
  obtain ⟨v, hv⟩ := exists_arg_of_required hfirst h.enough hinput rfl
  exact ⟨v, hv, h.types i _ v hinput hv⟩

theorem given_of_optional (h : Accepts inputs args) (hi : ¬ args.length ≤ i)
    (hinput : inputs[i]? = some (optional name type)) : Given args i type := by
  have hv : args[i]? = some args[i] := List.getElem?_eq_getElem (by omega)
  exact ⟨args[i], hv, h.types i _ _ hinput hv⟩

theorem Given.argument (h : Given args i type) : Quiet (argument args i) := by
  obtain ⟨v, hv, -⟩ := h
  unfold Builtin.argument
  rw [hv]
  exact quiet_ok v

/-- A look at an argument finds the content that values of its type have. -/
theorem Given.typed {α : Type} {content? : Value → Option α} (h : Given args i type)
    (hcontent : ∀ v, type.accepts v.type = true → (content? v).isSome = true) :
    Quiet (typed content? type args i) := by
  obtain ⟨v, hv, htype⟩ := h
  obtain ⟨a, ha⟩ := Option.isSome_iff_exists.mp (hcontent v htype)
  unfold Builtin.typed Builtin.argument
  rw [hv, ok_bind, ha]
  exact quiet_ok a

theorem Given.numberArg (h : Given args i .number) : Quiet (numberArg args i) := by
  refine h.typed fun v hv => ?_
  cases v <;> first | rfl | exact absurd hv (by simp only [Value.type]; decide)

theorem Given.textArg (h : Given args i .text) : Quiet (textArg args i) := by
  refine h.typed fun v hv => ?_
  cases v <;> first | rfl | exact absurd hv (by simp only [Value.type]; decide)

theorem Given.booleanArg (h : Given args i .boolean) : Quiet (booleanArg args i) := by
  refine h.typed fun v hv => ?_
  cases v <;> first | rfl | exact absurd hv (by simp only [Value.type]; decide)

theorem Given.datetimeArg (h : Given args i .datetime) : Quiet (datetimeArg args i) := by
  refine h.typed fun v hv => ?_
  cases v <;> first | rfl | exact absurd hv (by simp only [Value.type]; decide)

theorem Given.integerArg (what : String) (h : Given args i .number) :
    Quiet (integerArg what args i) := by
  refine h.numberArg.bind fun x => ?_
  split
  · exact quiet_ok _
  · exact quiet_error rfl

theorem Given.countArg (what : String) (h : Given args i .number) :
    Quiet (countArg what args i) := by
  refine (h.integerArg what).bind fun n => ?_
  split
  · exact quiet_ok _
  · exact quiet_error rfl

end

/-- The type of a value accepts the value. -/
theorem accepts_type (v : Value) : v.type.accepts v.type = true := by
  cases v <;> (simp only [Value.type]; decide)

theorem accepts_value (v : Value) : TypeMask.value.accepts v.type = true := by
  cases v <;> (simp only [Value.type]; decide)

/-! ## Numbers -/

theorem keeps_numberMethod {name description : String} {output : TypeMask}
    {f : Decimal → Decimal → Except Fault Value} {args : List Value}
    (hf : ∀ x y, Serves output (f x y))
    (h : Accepts (numberMethod name description output f).inputs args) :
    (numberMethod name description output f).Keeps args := by
  refine Quiet.serves_bind (given_of_required h rfl rfl).numberArg fun x _ => ?_
  refine Quiet.serves_bind (given_of_required h rfl rfl).numberArg fun y _ => ?_
  exact hf x y

theorem keeps_calculation {name description : String}
    {f : Decimal → Decimal → Except Fault Decimal} {args : List Value}
    (hf : ∀ x y, Quiet (f x y)) (h : Accepts (calculation name description f).inputs args) :
    (calculation name description f).Keeps args :=
  keeps_numberMethod (fun x y => (hf x y).serves_map fun z => accepts_type (.number z)) h

theorem keeps_comparison {name description : String} {op : Operator} {args : List Value}
    (h : Accepts (comparison name description op).inputs args) :
    (comparison name description op).Keeps args :=
  keeps_numberMethod (fun _ _ => serves_ok (accepts_type (.boolean _))) h

theorem quiet_toNumber (v : Value) : Quiet (toNumber v) := by
  cases v with
  | text s =>
    unfold toNumber numberOfText
    dsimp only
    split
    · exact quiet_ok _
    · split
      · exact quiet_error rfl
      · exact Decimal.quiet_finite _
  | _ => exact quiet_ok _

theorem keeps_numberConversion {args : List Value} (hne : args ≠ []) :
    numberConversion.Keeps args := by
  obtain ⟨v, rest, rfl⟩ := List.exists_cons_of_ne_nil hne
  exact (quiet_toNumber v).serves_map fun x => accepts_type (.number x)

/-- Without an argument, the conversion to a number asks for one. -/
theorem not_keeps_numberConversion : ¬ numberConversion.Keeps [] := fun h =>
  absurd (h.quiet (.tooFewArguments 1) rfl) (by decide)

theorem keeps_of_mem_numberMethods {m : Method} (hm : m ∈ numberMethods) {args : List Value}
    (h : Accepts m.inputs args) (hne : ¬ (m = numberConversion ∧ args = [])) : m.Keeps args := by
  simp only [numberMethods, List.mem_cons, List.not_mem_nil, or_false] at hm
  rcases hm with rfl | rfl | rfl | rfl | rfl | rfl | rfl | rfl | rfl | rfl | rfl | rfl
  · exact keeps_calculation Decimal.quiet_sum h
  · exact keeps_calculation Decimal.quiet_difference h
  · exact keeps_calculation Decimal.quiet_product h
  · exact keeps_calculation Decimal.quiet_quotient h
  · exact keeps_calculation Decimal.quiet_power h
  · exact keeps_comparison h
  · exact keeps_comparison h
  · exact keeps_comparison h
  · exact keeps_comparison h
  · exact keeps_comparison h
  · exact keeps_comparison h
  · exact keeps_numberConversion fun hnil => hne ⟨rfl, hnil⟩

theorem quiet_mean (x y : Decimal) : Quiet (mean x y) :=
  (Decimal.quiet_sum x y).bind fun sum => Decimal.quiet_quotient sum _

theorem quiet_fixedText (x : Decimal) (places : Nat) : Quiet (fixedText x places) := by
  unfold fixedText
  split
  · exact quiet_error rfl
  · exact quiet_ok _

theorem keeps_fixedMethod {args : List Value} (h : Accepts fixedMethod.inputs args) :
    fixedMethod.Keeps args := by
  refine (given_of_required h rfl rfl).numberArg.serves_bind fun x _ => ?_
  refine ((given_of_required h rfl rfl).countArg "decimals").serves_bind fun places _ => ?_
  exact (quiet_fixedText x places).serves_map fun s => accepts_type (.text s)

theorem keeps_of_mem_math {m : Method} (hm : m ∈ math.methods) {args : List Value}
    (h : Accepts m.inputs args) (hne : ¬ (m = numberConversion ∧ args = [])) : m.Keeps args := by
  rcases List.mem_append.mp hm with hm | hm
  · exact keeps_of_mem_numberMethods hm h hne
  · simp only [List.mem_cons, List.not_mem_nil, or_false] at hm
    rcases hm with rfl | rfl
    · exact keeps_calculation quiet_mean h
    · exact keeps_fixedMethod h

/-! ## Truth values -/

theorem keeps_constant (name description : String) (b : Bool) (args : List Value) :
    (constant name description b).Keeps args :=
  serves_ok (accepts_type (.boolean b))

theorem keeps_connective {name description : String} {f : Bool → Bool → Bool} {args : List Value}
    (h : Accepts (connective name description f).inputs args) :
    (connective name description f).Keeps args := by
  refine (given_of_required h rfl rfl).booleanArg.serves_bind fun a _ => ?_
  refine (given_of_required h rfl rfl).booleanArg.serves_bind fun b _ => ?_
  exact serves_ok (accepts_type (.boolean (f a b)))

theorem keeps_negation {args : List Value} (h : Accepts negation.inputs args) :
    negation.Keeps args :=
  (given_of_required h rfl rfl).booleanArg.serves_bind fun b _ =>
    serves_ok (accepts_type (.boolean !b))

/-- A choice can give any value: a branch that is missing is no fault. -/
theorem keeps_choice {args : List Value} (h : Accepts choice.inputs args) : choice.Keeps args :=
  (given_of_required h rfl rfl).booleanArg.serves_bind fun _ _ => serves_ok (accepts_value _)

theorem keeps_of_mem_logic {m : Method} (hm : m ∈ logic.methods) {args : List Value}
    (h : Accepts m.inputs args) : m.Keeps args := by
  simp only [logic, List.mem_cons, List.not_mem_nil, or_false] at hm
  rcases hm with rfl | rfl | rfl | rfl | rfl | rfl | rfl
  · exact keeps_constant _ _ true args
  · exact keeps_constant _ _ false args
  · exact keeps_connective h
  · exact keeps_connective h
  · exact keeps_connective h
  · exact keeps_negation h
  · exact keeps_choice h

/-! ## Texts -/

theorem keeps_textMethod {name description : String} {f : String → String} {args : List Value}
    (h : Accepts (textMethod name description f).inputs args) :
    (textMethod name description f).Keeps args :=
  (given_of_required h rfl rfl).textArg.serves_bind fun s _ =>
    serves_ok (accepts_type (.text (f s)))

theorem keeps_textConversion {args : List Value} (h : Accepts textConversion.inputs args) :
    textConversion.Keeps args :=
  (given_of_required h rfl rfl).argument.serves_bind fun v _ =>
    serves_ok (accepts_type (.text v.display))

theorem keeps_lengthMethod {args : List Value} (h : Accepts lengthMethod.inputs args) :
    lengthMethod.Keeps args :=
  (given_of_required h rfl rfl).textArg.serves_bind fun s _ =>
    serves_ok (accepts_type (.number (.ofInt s.length)))

theorem keeps_concatMethod {args : List Value} (h : Accepts concatMethod.inputs args) :
    concatMethod.Keeps args := by
  refine (given_of_required h rfl rfl).textArg.serves_bind fun s _ => ?_
  refine (given_of_required h rfl rfl).textArg.serves_bind fun t _ => ?_
  exact serves_ok (accepts_type (.text (s ++ t)))

theorem keeps_exactMethod {args : List Value} (h : Accepts exactMethod.inputs args) :
    exactMethod.Keeps args := by
  refine (given_of_required h rfl rfl).textArg.serves_bind fun s _ => ?_
  refine (given_of_required h rfl rfl).textArg.serves_bind fun t _ => ?_
  exact serves_ok (accepts_type (.boolean (s == t)))

theorem keeps_findMethod {args : List Value} (h : Accepts findMethod.inputs args) :
    findMethod.Keeps args := by
  refine (given_of_required h rfl rfl).textArg.serves_bind fun text _ => ?_
  refine (given_of_required h rfl rfl).textArg.serves_bind fun needle _ => ?_
  dsimp only
  split
  · exact serves_ok (accepts_type (.number _))
  · rename_i hstart
    refine ((given_of_optional h hstart rfl).countArg "start_num").serves_bind fun start _ => ?_
    exact serves_ok (accepts_type (.number _))

theorem keeps_replaceMethod {args : List Value} (h : Accepts replaceMethod.inputs args) :
    replaceMethod.Keeps args := by
  refine (given_of_required h rfl rfl).textArg.serves_bind fun text _ => ?_
  refine (given_of_required h rfl rfl).textArg.serves_bind fun old _ => ?_
  split
  · exact serves_error rfl
  · refine (given_of_required h rfl rfl).textArg.serves_bind fun new _ => ?_
    exact serves_ok (accepts_type (.text _))

theorem keeps_midMethod {args : List Value} (h : Accepts midMethod.inputs args) :
    midMethod.Keeps args := by
  refine (given_of_required h rfl rfl).textArg.serves_bind fun text _ => ?_
  refine ((given_of_required h rfl rfl).countArg "start_num").serves_bind fun start _ => ?_
  refine ((given_of_required h rfl rfl).countArg "num_chars").serves_bind fun count _ => ?_
  exact serves_ok (accepts_type (.text _))

theorem keeps_leftMethod {args : List Value} (h : Accepts leftMethod.inputs args) :
    leftMethod.Keeps args := by
  refine (given_of_required h rfl rfl).textArg.serves_bind fun text _ => ?_
  refine ((given_of_required h rfl rfl).countArg "num_chars").serves_bind fun count _ => ?_
  exact serves_ok (accepts_type (.text _))

theorem keeps_rightMethod {args : List Value} (h : Accepts rightMethod.inputs args) :
    rightMethod.Keeps args := by
  refine (given_of_required h rfl rfl).textArg.serves_bind fun text _ => ?_
  refine ((given_of_required h rfl rfl).countArg "num_chars").serves_bind fun count _ => ?_
  exact serves_ok (accepts_type (.text _))

theorem quiet_repeatText (s : String) (count : Nat) : Quiet (repeatText s count) := by
  unfold repeatText
  split_ifs
  · exact quiet_error rfl
  · exact quiet_ok ""
  · exact quiet_ok _

theorem keeps_repeatMethod {args : List Value} (h : Accepts repeatMethod.inputs args) :
    repeatMethod.Keeps args := by
  refine (given_of_required h rfl rfl).textArg.serves_bind fun text _ => ?_
  refine ((given_of_required h rfl rfl).countArg "count").serves_bind fun count _ => ?_
  exact (quiet_repeatText text count).serves_map fun s => accepts_type (.text s)

theorem keeps_of_mem_text {m : Method} (hm : m ∈ text.methods) {args : List Value}
    (h : Accepts m.inputs args) : m.Keeps args := by
  simp only [text, List.mem_cons, List.not_mem_nil, or_false] at hm
  rcases hm with rfl | rfl | rfl | rfl | rfl | rfl | rfl | rfl | rfl | rfl | rfl | rfl | rfl | rfl
  · exact keeps_textConversion h
  · exact keeps_concatMethod h
  · exact keeps_findMethod h
  · exact keeps_exactMethod h
  · exact keeps_midMethod h
  · exact keeps_leftMethod h
  · exact keeps_rightMethod h
  · exact keeps_lengthMethod h
  · exact keeps_textMethod h
  · exact keeps_textMethod h
  · exact keeps_textMethod h
  · exact keeps_replaceMethod h
  · exact keeps_repeatMethod h
  · exact keeps_textMethod h

/-! ## Moments -/

theorem quiet_parseDatetime (s : String) : Quiet (parseDatetime s) := by
  unfold parseDatetime
  split
  · exact quiet_ok _
  · exact quiet_error rfl

theorem quiet_formatDatetime (d : Datetime) (pattern : String) :
    Quiet (formatDatetime d pattern) := by
  unfold formatDatetime
  split
  · exact quiet_ok _
  · exact quiet_error rfl

theorem Given.datetimeOfMillis {args : List Value} (h : Given args 0 .number) :
    Quiet (datetimeOfMillis args) := by
  refine (h.integerArg "datetime").bind fun n => ?_
  split
  · exact quiet_ok _
  · exact quiet_error rfl

/-- A value that is neither a text nor a number does not get through to the conversion. -/
theorem keeps_datetimeConversion {args : List Value}
    (h : Accepts datetimeConversion.inputs args) : datetimeConversion.Keeps args := by
  have hgiven : Given args 0 (.union .number .text) := given_of_required h rfl rfl
  obtain ⟨v, hv, htype⟩ := hgiven
  refine (given_of_required h rfl rfl).argument.serves_bind fun w hw => ?_
  obtain rfl : v = w := by
    unfold argument at hw
    rw [hv] at hw
    cases hw
    rfl
  cases v with
  | text s => exact (quiet_parseDatetime s).serves_map fun d => accepts_type (.datetime d)
  | number x =>
    have hnumber : Given args 0 .number := ⟨_, hv, accepts_type (.number x)⟩
    exact hnumber.datetimeOfMillis.serves_map fun d => accepts_type (.datetime d)
  | boolean b => exact absurd htype (by simp only [Value.type]; decide)
  | datetime d => exact absurd htype (by simp only [Value.type]; decide)

theorem keeps_formatMethod {args : List Value} (h : Accepts formatMethod.inputs args) :
    formatMethod.Keeps args := by
  refine (given_of_required h rfl rfl).datetimeArg.serves_bind fun d _ => ?_
  dsimp only
  split
  · exact (quiet_formatDatetime d _).serves_map fun s => accepts_type (.text s)
  · rename_i hpattern
    refine (given_of_optional h hpattern rfl).textArg.serves_bind fun pattern _ => ?_
    exact (quiet_formatDatetime d pattern).serves_map fun s => accepts_type (.text s)

theorem keeps_nowMethod (now : Datetime) (args : List Value) : (nowMethod now).Keeps args :=
  serves_ok (accepts_type (.datetime now))

theorem keeps_getter {field : Datetime.Field} {args : List Value}
    (h : Accepts (getter field).inputs args) : (getter field).Keeps args :=
  (given_of_required h rfl rfl).datetimeArg.serves_bind fun d _ =>
    serves_ok (accepts_type (.number (.ofInt (d.get field))))

theorem keeps_setter {field : Datetime.Field} {args : List Value}
    (h : Accepts (setter field).inputs args) : (setter field).Keeps args := by
  refine (given_of_required h rfl rfl).datetimeArg.serves_bind fun d _ => ?_
  refine ((given_of_required h rfl rfl).integerArg (fieldWord field)).serves_bind fun n _ => ?_
  split
  · exact serves_ok (accepts_type (.datetime _))
  · exact serves_error rfl

theorem keeps_of_mem_datetime {now : Datetime} {m : Method} (hm : m ∈ (datetime now).methods)
    {args : List Value} (h : Accepts m.inputs args) : m.Keeps args := by
  rcases List.mem_append.mp hm with hm | hm
  · simp only [List.mem_cons, List.not_mem_nil, or_false] at hm
    rcases hm with rfl | rfl | rfl
    · exact keeps_datetimeConversion h
    · exact keeps_formatMethod h
    · exact keeps_nowMethod now args
  · obtain ⟨field, -, hm⟩ := List.mem_flatMap.mp hm
    simp only [List.mem_cons, List.not_mem_nil, or_false] at hm
    rcases hm with rfl | rfl
    · exact keeps_getter h
    · exact keeps_setter h

/-! ## All methods -/

/-- On arguments that its declaration admits, a method that comes with the engine does what it
declares, unless it is the conversion to a number without an argument. -/
theorem keeps_declaration_iff (now : Datetime) {plugin : Plugin} (hplugin : plugin ∈ all now)
    {m : Method} (hm : m ∈ plugin.methods) {args : List Value} (h : Accepts m.inputs args) :
    m.Keeps args ↔ ¬ (m = numberConversion ∧ args = []) := by
  constructor
  · rintro hkeeps ⟨rfl, rfl⟩
    exact not_keeps_numberConversion hkeeps
  · intro hne
    simp only [all, List.mem_cons, List.not_mem_nil, or_false] at hplugin
    rcases hplugin with rfl | rfl | rfl | rfl | rfl
    · exact keeps_of_mem_numberMethods hm h hne
    · exact keeps_of_mem_logic hm h
    · exact keeps_of_mem_text hm h
    · exact keeps_of_mem_datetime hm h
    · exact keeps_of_mem_math hm h hne

theorem accepts_format_epoch : Accepts formatMethod.inputs [.datetime .epoch] where
  enough := by decide
  room := by decide
  types := typesFit_cons.mpr ⟨accepts_type (.datetime .epoch), typesFit_nil _⟩

/-- A moment can be put in words without a pattern. -/
theorem keeps_declaration_format :
    datetime .epoch ∈ all .epoch ∧ formatMethod ∈ (datetime .epoch).methods ∧
      Accepts formatMethod.inputs [.datetime .epoch] ∧
      (formatMethod.Keeps [.datetime .epoch] ↔
        ¬ (formatMethod = numberConversion ∧ [Value.datetime .epoch] = [])) := by
  have hplugin : datetime .epoch ∈ all .epoch := .tail _ (.tail _ (.tail _ (.head _)))
  have hm : formatMethod ∈ (datetime .epoch).methods := .tail _ (.head _)
  exact ⟨hplugin, hm, accepts_format_epoch,
    keeps_declaration_iff .epoch hplugin hm accepts_format_epoch⟩

/-- Not every method does what it declares. The conversion to a number declares that it needs
no argument, but without one it fails, for it needs one. -/
theorem not_all_keep_declaration :
    numberConversion ∈ arithmetic.methods ∧ Accepts numberConversion.inputs [] ∧
      numberConversion.run [] = .error (.tooFewArguments 1) ∧
      ¬ ∀ (now : Datetime) (plugin : Plugin) (m : Method) (args : List Value),
        plugin ∈ all now → m ∈ plugin.methods → Accepts m.inputs args → m.Keeps args := by
  have hmem : numberConversion ∈ arithmetic.methods := by
    simp only [arithmetic, numberMethods, List.mem_cons, or_true, true_or]
  have haccepts : Accepts numberConversion.inputs [] := ⟨by decide, by decide, typesFit_nil _⟩
  refine ⟨hmem, haccepts, rfl, fun hall => ?_⟩
  exact not_keeps_numberConversion
    (hall .epoch arithmetic numberConversion [] (.head _) hmem haccepts)

end Builtin

end Formulary
