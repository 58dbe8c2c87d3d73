-- The gate before a method. A call gets through to the method that it names if its arguments
-- are values, as many as the method asks for, and each of a type that its input accepts; then
-- the method sees all of them in order. Every other call is refused, whatever the methods do.
import Formulary.Proofs.Ownership

namespace Formulary

/-! ## Tables that can come about -/

/-- What can be done to a table of methods. -/
inductive MethodTable.Change where
  | add (m : Method)
  | erase (name : String)

namespace MethodTable

/-- The table after a change. A method that is refused leaves it as it is. -/
def apply (t : MethodTable) : Change → MethodTable
  | .add m =>
    match t.add m with
    | .error _ => t
    | .ok (_, t') => t'
  | .erase name => NameTable.erase t name

/-- The table after some changes to an empty one. -/
def after (changes : List Change) : MethodTable := changes.foldl apply .empty

/-- Every method in the table declares the inputs that must have an argument first. -/
def InOrder (t : MethodTable) : Prop :=
  ∀ name m, t.get? name = some m → Method.requiredFirst m.inputs = true

theorem InOrder.apply {t : MethodTable} (h : t.InOrder) (change : Change) :
    (t.apply change).InOrder := by
  intro name m hget
  cases change with
  | add new =>
    cases hadd : t.add new with
    | error fault =>
      rw [MethodTable.apply, hadd] at hget
      exact h name m hget
    | ok result =>
      obtain ⟨free, t'⟩ := result
      rw [MethodTable.apply, hadd] at hget
      rcases add_cases hadd with ⟨-, rfl, -⟩ | ⟨-, rfl, hfree, horder⟩
      · exact h name m hget
      · dsimp only at hget
        rw [NameTable.get?_insert t hfree] at hget
        split at hget
        · cases hget
          exact horder
        · exact h name m hget
  | erase gone =>
    rw [MethodTable.apply, NameTable.get?_erase] at hget
    split at hget
    · cases hget
    · exact h name m hget

theorem inOrder_after (changes : List Change) : (after changes).InOrder := by
  suffices h : ∀ t : MethodTable, t.InOrder → (changes.foldl apply t).InOrder from h .empty nofun
  induction changes with
  | nil => exact fun t ht => ht
  | cons change rest ih => exact fun t ht => ih (t.apply change) (ht.apply change)

end MethodTable

/-! ## Arguments that inputs take -/

namespace Method

/-- How many of the inputs must have an argument. -/
abbrev requiredOf (inputs : List Input) : Nat := inputs.countP (·.required)

/-- The inputs accept the types of the arguments at the same positions. -/
def TypesFit (inputs : List Input) (args : List Value) : Prop :=
  ∀ (i : Nat) (input : Input) (v : Value), inputs[i]? = some input → args[i]? = some v →
    input.type.accepts v.type = true

/-- A method with these inputs can be called with these arguments: they are no fewer than the
required inputs and no more than all inputs, and each has a type that its input accepts. -/
structure Accepts (inputs : List Input) (args : List Value) : Prop where
  enough : requiredOf inputs ≤ args.length
  room : args.length ≤ inputs.length
  types : TypesFit inputs args

/-- Why a method with these inputs declines arguments. Their number is judged before their
types, and the types from left to right: the arguments before the faulty one fit. -/
inductive Declines (inputs : List Input) : List Node → Fault → Prop
  | tooMany {params : List Node} : inputs.length < params.length →
      Declines inputs params (.tooManyArguments inputs.length)
  | noneGiven : 0 < requiredOf inputs → Declines inputs [] (.tooFewArguments (requiredOf inputs))
  | tooFew {params : List Node} : params ≠ [] → params.length < requiredOf inputs →
      requiredOf inputs ≠ inputs.length →
      Declines inputs params (.argumentRange (requiredOf inputs) inputs.length params.length)
  | tooFewOfAll {params : List Node} : params ≠ [] → params.length < requiredOf inputs →
      requiredOf inputs = inputs.length →
      Declines inputs params (.argumentCount inputs.length params.length)
  | wrongType {before after : List Node} {param : Node} {args : List Value} {input : Input} :
      requiredOf inputs ≤ (before ++ param :: after).length →
      (before ++ param :: after).length ≤ inputs.length →
      before.map Node.asValue? = args.map some → TypesFit inputs args →
      inputs[before.length]? = some input →
      (∀ v, param.asValue? = some v → input.type.accepts v.type = false) →
      Declines inputs (before ++ param :: after) (.argumentType param.type input.type)

theorem typesFit_nil (inputs : List Input) : TypesFit inputs [] := by
  intro i input v _ hv
  simp at hv

theorem typesFit_cons {input : Input} {inputs : List Input} {v : Value} {args : List Value} :
    TypesFit (input :: inputs) (v :: args) ↔
      input.type.accepts v.type = true ∧ TypesFit inputs args := by
  constructor
  · intro h
    exact ⟨h 0 input v rfl rfl, fun i => h (i + 1)⟩
  · rintro ⟨hhead, htail⟩ i input' v' hinput hv
    cases i with
    | zero =>
      cases hinput
      cases hv
      exact hhead
    | succ i => exact htail i input' v' hinput hv

/-- As many arguments as are required fill the inputs that require them, since none of these
stands behind an input that needs no argument. -/
theorem exists_arg_of_required {inputs : List Input} (hfirst : requiredFirst inputs = true)
    {args : List Value} (henough : requiredOf inputs ≤ args.length) {i : Nat} {input : Input}
    (hinput : inputs[i]? = some input) (hrequired : input.required = true) :
    ∃ v, args[i]? = some v := by
  obtain ⟨hi, rfl⟩ := List.getElem?_eq_some_iff.mp hinput
  have hpairwise := List.pairwise_iff_getElem.mp ((requiredFirst_iff inputs).mp hfirst)
  have hall : ∀ a ∈ inputs.take (i + 1), a.required = true := by
    intro a ha
    obtain ⟨j, hj, rfl⟩ := List.getElem_of_mem ha
    rw [List.length_take] at hj
    rw [List.getElem_take]
    rcases Nat.lt_or_ge j i with hlt | hge
    · exact hpairwise j i (by omega) hi hlt hrequired
    · have hji : j = i := by omega
      subst hji
      exact hrequired
  have hcount : i + 1 ≤ requiredOf inputs := calc
    i + 1 = (inputs.take (i + 1)).length := by rw [List.length_take, Nat.min_eq_left hi]
    _ = requiredOf (inputs.take (i + 1)) := (List.countP_eq_length.mpr hall).symm
    _ ≤ requiredOf inputs := (List.take_sublist _ _).countP_le
  exact ⟨args[i], List.getElem?_eq_getElem (by omega)⟩

/-- A node is a value whose type the input accepts, or its type is wrong. -/
theorem accepts_or_wrong (input : Input) (param : Node) :
    (∃ v, param.asValue? = some v ∧ input.type.accepts v.type = true) ∨
      ∀ v, param.asValue? = some v → input.type.accepts v.type = false := by
  by_cases h : ∀ v, param.asValue? = some v → input.type.accepts v.type = false
  · exact .inr h
  · exact .inl (by simpa using h)

/-- Nodes are arguments that fit, or there is a first one whose type is wrong. -/
theorem typesFit_or_wrong {params : List Node} {inputs : List Input}
    (hroom : params.length ≤ inputs.length) :
    (∃ args, params.map Node.asValue? = args.map some ∧ TypesFit inputs args) ∨
      ∃ before param after args input, params = before ++ param :: after ∧
        before.map Node.asValue? = args.map some ∧ TypesFit inputs args ∧
        inputs[before.length]? = some input ∧
        ∀ v, param.asValue? = some v → input.type.accepts v.type = false := by
  induction params generalizing inputs with
  | nil => exact .inl ⟨[], rfl, typesFit_nil inputs⟩
  | cons param params ih =>
    cases inputs with
    | nil => cases hroom
    | cons input inputs =>
      rcases accepts_or_wrong input param with ⟨v, hv, haccepts⟩ | hwrong
      · rcases ih (Nat.le_of_succ_le_succ hroom) with ⟨args, hvalues, hfit⟩ |
          ⟨before, param', after, args, input', rfl, hvalues, hfit, hinput, hwrong⟩
        · refine .inl ⟨v :: args, ?_, typesFit_cons.mpr ⟨haccepts, hfit⟩⟩
          rw [List.map_cons, List.map_cons, hv, hvalues]
        · refine .inr ⟨param :: before, param', after, v :: args, input', rfl, ?_,
            typesFit_cons.mpr ⟨haccepts, hfit⟩, hinput, hwrong⟩
          rw [List.map_cons, List.map_cons, hv, hvalues]
      · exact .inr ⟨[], param, params, [], input, rfl, rfl, typesFit_nil _, rfl, hwrong⟩

/-- Nodes are arguments that are accepted, or they are declined. -/
theorem accepts_or_declines (inputs : List Input) (params : List Node) :
    (∃ args, params.map Node.asValue? = args.map some ∧ Accepts inputs args) ∨
      ∃ fault, Declines inputs params fault := by
  by_cases hmany : inputs.length < params.length
  · exact .inr ⟨_, .tooMany hmany⟩
  · by_cases hfew : params.length < requiredOf inputs
    · right
      cases params with
      | nil => exact ⟨_, .noneGiven hfew⟩
      | cons param params =>
        by_cases hall : requiredOf inputs = inputs.length
        · exact ⟨_, .tooFewOfAll (List.cons_ne_nil _ _) hfew hall⟩
        · exact ⟨_, .tooFew (List.cons_ne_nil _ _) hfew hall⟩
    · have henough := Nat.le_of_not_lt hfew
      have hroom := Nat.le_of_not_lt hmany
      rcases typesFit_or_wrong hroom with ⟨args, hvalues, hfit⟩ |
        ⟨before, param, after, args, input, rfl, hvalues, hfit, hinput, hwrong⟩
      · have hlength : params.length = args.length := by
          simpa using congrArg List.length hvalues
        exact .inl ⟨args, hvalues, hlength ▸ henough, hlength ▸ hroom, hfit⟩
      · exact .inr ⟨_, .wrongType henough hroom hvalues hfit hinput hwrong⟩

/-! ## The checks of a call -/

theorem checkCount_eq_ok {m : Method} {got : Nat} (henough : requiredOf m.inputs ≤ got)
    (hroom : got ≤ m.inputs.length) : m.checkCount got = .ok () := by
  change m.requiredCount ≤ got at henough
  unfold checkCount
  rw [if_neg (by omega), if_neg (by omega), if_neg (by omega)]

/-- One argument that fits is passed over, and its value comes out. -/
theorem checkTypes_cons {input : Input} {inputs : List Input} {param : Node} {params : List Node}
    {v : Value} (hv : param.asValue? = some v) (haccepts : input.type.accepts v.type = true) :
    checkTypes (param :: params) (input :: inputs) = (v :: ·) <$> checkTypes params inputs := by
  cases param with
  | value span w =>
    cases hv
    exact if_pos haccepts
  | _ => cases hv

theorem checkTypes_of_typesFit {params : List Node} {inputs : List Input} {args : List Value}
    (hvalues : params.map Node.asValue? = args.map some) (hroom : args.length ≤ inputs.length)
    (hfit : TypesFit inputs args) : checkTypes params inputs = .ok args := by
  induction params generalizing inputs args with
  | nil =>
    cases args with
    | nil => rfl
    | cons v args => cases hvalues
  | cons param params ih =>
    cases args with
    | nil => cases hvalues
    | cons v args =>
      cases inputs with
      | nil => cases hroom
      | cons input inputs =>
        rw [List.map_cons, List.map_cons, List.cons.injEq] at hvalues
        obtain ⟨haccepts, hfit⟩ := typesFit_cons.mp hfit
        rw [checkTypes_cons hvalues.1 haccepts, ih hvalues.2 (Nat.le_of_succ_le_succ hroom) hfit]
        rfl

/-- The first argument whose type is wrong is the fault. -/
theorem checkTypes_of_wrong {before after : List Node} {param : Node} {inputs : List Input}
    {args : List Value} {input : Input} (hvalues : before.map Node.asValue? = args.map some)
    (hfit : TypesFit inputs args) (hinput : inputs[before.length]? = some input)
    (hwrong : ∀ v, param.asValue? = some v → input.type.accepts v.type = false) :
    checkTypes (before ++ param :: after) inputs =
      .error (.argumentType param.type input.type) := by
  induction before generalizing inputs args with
  | nil =>
    cases inputs with
    | nil => cases hinput
    | cons first inputs =>
      cases hinput
      cases param with
      | value span v =>
        have hv := hwrong v rfl
        exact if_neg (by simp [hv])
      | _ => rfl
  | cons head before ih =>
    cases args with
    | nil => cases hvalues
    | cons v args =>
      cases inputs with
      | nil => cases hinput
      | cons first inputs =>
        rw [List.map_cons, List.map_cons, List.cons.injEq] at hvalues
        obtain ⟨haccepts, hfit⟩ := typesFit_cons.mp hfit
        rw [List.cons_append, checkTypes_cons hvalues.1 haccepts, ih hvalues.2 hfit hinput]
        rfl

/-- Accepted arguments reach the body of the method. -/
theorem call_of_accepts {m : Method} {params : List Node} {args : List Value} (span : Span)
    (hvalues : params.map Node.asValue? = args.map some) (h : Accepts m.inputs args) :
    m.call span params = m.runOn span args := by
  have hlength : params.length = args.length := by
    simpa using congrArg List.length hvalues
  unfold call
  rw [hlength, checkCount_eq_ok h.enough h.room, ok_bind,
    checkTypes_of_typesFit hvalues h.room h.types, ok_bind]

/-- Declined arguments do not: the call fails for the reason that they are declined for. -/
theorem call_of_declines {m : Method} {params : List Node} {fault : Fault} (span : Span)
    (h : Declines m.inputs params fault) : m.call span params = .error fault := by
  have hcount : ∀ fault, m.checkCount params.length = .error fault →
      m.call span params = .error fault := by
    intro fault hfault
    unfold call
    rw [hfault]
    rfl
  unfold checkCount requiredCount at hcount
  cases h with
  | tooMany hmany => exact hcount _ (if_pos hmany)
  | noneGiven hrequired =>
    exact hcount _ ((if_neg (Nat.not_lt_zero _)).trans (if_pos ⟨hrequired, rfl⟩))
  | tooFew hne hfew hsome =>
    have hle : requiredOf m.inputs ≤ m.inputs.length := List.countP_le_length
    have hlength := List.length_pos_of_ne_nil hne
    refine hcount _ ?_
    rw [if_neg (by omega), if_neg (by omega), if_pos hfew, if_neg hsome]
  | tooFewOfAll hne hfew hall =>
    have hlength := List.length_pos_of_ne_nil hne
    refine hcount _ ?_
    rw [if_neg (by omega), if_neg (by omega), if_pos hfew, if_pos hall]
  | wrongType henough hroom hvalues hfit hinput hwrong =>
    unfold call
    rw [checkCount_eq_ok henough hroom, ok_bind, checkTypes_of_wrong hvalues hfit hinput hwrong]
    rfl

end Method

/-! ## Calls that get through -/

namespace MethodTable

/-- The call of a node gets through to the method of a name: the node names it, its arguments
are values, and the method accepts them. -/
def GetsThrough (t : MethodTable) (node : Node) (name : String) (args : List Value) : Prop :=
  ∃ span params m, node = .call span name params ∧ t.get? name = some m ∧
    params.map Node.asValue? = args.map some ∧ Method.Accepts m.inputs args

/-- Why the call of a node is refused. -/
inductive Refuses (t : MethodTable) : Node → Fault → Prop
  | noCall {node : Node} : node.isCall = false → Refuses t node (.notAMethod node.span.chars)
  | unknown {span : Span} {name : String} {params : List Node} : t.get? name = none →
      Refuses t (.call span name params) (.notAMethod name)
  | declined {span : Span} {name : String} {params : List Node} {m : Method} {fault : Fault} :
      t.get? name = some m → Method.Declines m.inputs params fault →
      Refuses t (.call span name params) fault

/-- The table with other bodies for its methods. What they declare stays. -/
def withBodies (t : MethodTable) (run : String → Callable) : MethodTable :=
  ⟨t.entries.map fun entry => (entry.1, { entry.2 with run := run entry.1 })⟩

/-- The call of a node runs the method of a name on the arguments. A method is a function, so
that it is run on them shows in the answer alone: whatever body stands in its place, what this
body fails with on the arguments is what comes out. -/
def Runs (t : MethodTable) (node : Node) (name : String) (args : List Value) : Prop :=
  ∀ (run : String → Callable) (cause : Fault), run name args = .error cause →
    (t.withBodies run).call node = .error (.inCall node.span.chars cause)

variable {t : MethodTable} {node : Node} {name : String} {args : List Value}

theorem getsThrough_or_refuses (t : MethodTable) (node : Node) :
    (∃ name args, t.GetsThrough node name args) ∨ ∃ fault, t.Refuses node fault := by
  cases node with
  | call span name params =>
    cases hm : t.get? name with
    | none => exact .inr ⟨_, .unknown hm⟩
    | some m =>
      rcases Method.accepts_or_declines m.inputs params with ⟨args, hvalues, haccepts⟩ |
        ⟨fault, hdeclines⟩
      · exact .inl ⟨name, args, span, params, m, rfl, hm, hvalues, haccepts⟩
      · exact .inr ⟨fault, .declined hm hdeclines⟩
  | _ => exact .inr ⟨_, .noCall rfl⟩

/-- The call of a method that is known. -/
theorem call_of_get? {span : Span} {params : List Node} {m : Method} (hm : t.get? name = some m) :
    t.call (.call span name params) = .value span <$> m.call span params := by
  unfold call callValue
  dsimp only
  rw [hm]
  rfl

/-- A call that gets through comes to what the body gives, if its type is a declared one. -/
theorem call_of_getsThrough (h : t.GetsThrough node name args) {m : Method}
    (hm : t.get? name = some m) : t.call node = .value node.span <$> m.runOn node.span args := by
  obtain ⟨span, params, m', rfl, hm', hvalues, haccepts⟩ := h
  rw [hm] at hm'
  cases hm'
  rw [call_of_get? hm, Method.call_of_accepts span hvalues haccepts]
  rfl

/-- A call that is refused fails for the reason that it is refused for. -/
theorem call_of_refuses {fault : Fault} (h : t.Refuses node fault) :
    t.call node = .error fault := by
  cases h with
  | noCall hcall =>
    cases node with
    | call span name params => cases hcall
    | _ => rfl
  | unknown hm =>
    unfold call callValue
    dsimp only
    rw [hm]
    rfl
  | declined hm hdeclines =>
    rw [call_of_get? hm, Method.call_of_declines _ hdeclines]
    rfl

/-! ## Other bodies -/

theorem get?_withBodies (t : MethodTable) (run : String → Callable) (name : String) :
    (t.withBodies run).get? name =
      (t.get? name).map fun m => { m with run := run name } := by
  unfold NameTable.get? withBodies
  induction t.entries with
  | nil => rfl
  | cons entry rest ih =>
    obtain ⟨key, m⟩ := entry
    rw [List.map_cons, List.lookup_cons, List.lookup_cons, ih]
    by_cases hkey : name = key
    · subst hkey
      simp
    · simp [beq_false_of_ne hkey]

/-- Other bodies let the same calls through. -/
theorem GetsThrough.withBodies (h : t.GetsThrough node name args) (run : String → Callable) :
    (t.withBodies run).GetsThrough node name args := by
  obtain ⟨span, params, m, rfl, hm, hvalues, haccepts⟩ := h
  exact ⟨span, params, { m with run := run name }, rfl, by rw [get?_withBodies, hm]; rfl, hvalues,
    haccepts⟩

/-- Other bodies have the same calls refused, for the same reason. -/
theorem Refuses.withBodies {fault : Fault} (h : t.Refuses node fault) (run : String → Callable) :
    (t.withBodies run).Refuses node fault := by
  cases h with
  | noCall hcall => exact .noCall hcall
  | unknown hm => exact .unknown (by rw [get?_withBodies, hm]; rfl)
  | @declined span name params m fault hm hdeclines =>
    exact .declined (m := { m with run := run name }) (by rw [get?_withBodies, hm]; rfl) hdeclines

/-- What the body fails with comes out of a call that gets through. -/
theorem call_withBodies (h : t.GetsThrough node name args) {run : String → Callable}
    {cause : Fault} (hrun : run name args = .error cause) :
    (t.withBodies run).call node = .error (.inCall node.span.chars cause) := by
  obtain ⟨-, -, m, -, hm, -⟩ := id h
  have hbody : (t.withBodies run).get? name = some { m with run := run name } := by
    rw [get?_withBodies, hm]
    rfl
  rw [call_of_getsThrough (h.withBodies run) hbody, Method.runOn]
  dsimp only
  rw [hrun]
  rfl

/-- A method is run on some arguments exactly if the call gets through to it with them. -/
theorem runs_iff_getsThrough : t.Runs node name args ↔ t.GetsThrough node name args := by
  constructor
  · intro h
    rcases t.getsThrough_or_refuses node with ⟨name', args', hthrough⟩ | ⟨fault, hrefuses⟩
    · -- Bodies that fail in one way here and in another way elsewhere tell where the call went.
      let run : String → Callable := fun n as =>
        .error (if n = name ∧ as = args then .emptyGroup else .unclosedGroup)
      have hcall := h run .emptyGroup (by simp [run])
      rw [call_withBodies hthrough rfl] at hcall
      by_cases hsame : name' = name ∧ args' = args
      · rw [← hsame.1, ← hsame.2]
        exact hthrough
      · simp [hsame] at hcall
    · have hempty := h (fun _ _ => .error .emptyGroup) .emptyGroup rfl
      have hunclosed := h (fun _ _ => .error .unclosedGroup) .unclosedGroup rfl
      rw [call_of_refuses (hrefuses.withBodies _)] at hempty hunclosed
      rw [hempty] at hunclosed
      simp at hunclosed
  · intro h run cause hrun
    exact call_withBodies h hrun

/-! ## The law -/

/-- What a table does with the call of a node. -/
structure Gate (t : MethodTable) (node : Node) : Prop where
  /-- A method runs exactly on the arguments with which the call gets through to it. -/
  runs : ∀ name args, t.Runs node name args ↔ t.GetsThrough node name args
  /-- Then every input that must have an argument has one. -/
  filled : ∀ name args m, t.GetsThrough node name args → t.get? name = some m →
    ∀ (i : Nat) (input : Input), m.inputs[i]? = some input → input.required = true →
      ∃ v, args[i]? = some v
  /-- Any other call fails, and would fail in the same way with any other bodies. -/
  refused : (∀ name args, ¬ t.GetsThrough node name args) → ∃ fault, t.Refuses node fault ∧
    t.call node = .error fault ∧ ∀ run, (t.withBodies run).call node = .error fault
  /-- A value that comes out is what a method gave. It has a type that the method declares, and
  stands in the place of the call, with the call's text. -/
  answer : ∀ result, t.call node = .ok result → ∃ name args m v, t.GetsThrough node name args ∧
    t.get? name = some m ∧ m.run args = .ok v ∧ m.output.accepts v.type = true ∧
    result = .value node.span v
  /-- What a method fails with comes out with the text of the call. -/
  failure : ∀ name args m cause, t.GetsThrough node name args → t.get? name = some m →
    m.run args = .error cause → t.call node = .error (.inCall node.span.chars cause)

/-- The law of the gate, for every table that can come about. -/
theorem gate_after (changes : List Change) (node : Node) : (after changes).Gate node where
  runs _ _ := runs_iff_getsThrough
  filled := by
    rintro name args m ⟨-, -, m', -, hm', -, haccepts⟩ hm i input hinput hrequired
    rw [hm] at hm'
    cases hm'
    exact Method.exists_arg_of_required (inOrder_after changes name m hm) haccepts.enough hinput
      hrequired
  refused := by
    intro hnot
    rcases (after changes).getsThrough_or_refuses node with ⟨name, args, h⟩ | ⟨fault, h⟩
    · exact absurd h (hnot name args)
    · exact ⟨fault, h, call_of_refuses h, fun run => call_of_refuses (h.withBodies run)⟩
  answer := by
    intro result hcall
    rcases (after changes).getsThrough_or_refuses node with ⟨name, args, h⟩ | ⟨fault, h⟩
    · obtain ⟨-, -, m, -, hm, -⟩ := id h
      rw [call_of_getsThrough h hm, Method.runOn] at hcall
      cases hrun : m.run args with
      | error cause =>
        rw [hrun] at hcall
        cases hcall
      | ok v =>
        rw [hrun] at hcall
        dsimp only at hcall
        split at hcall
        · rename_i haccepts
          cases hcall
          exact ⟨name, args, m, v, h, hm, hrun, haccepts, rfl⟩
        · cases hcall
    · rw [call_of_refuses h] at hcall
      cases hcall
  failure := by
    intro name args m cause h hm hrun
    rw [call_of_getsThrough h hm, Method.runOn, hrun]
    rfl

end MethodTable

end Formulary
