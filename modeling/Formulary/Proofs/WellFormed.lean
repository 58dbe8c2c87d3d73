-- The trees that the scan builds are well formed at every depth: a level is a text or
-- operands with operators between them, and only an argument is a group without
-- parentheses.
import Formulary.Proofs.Grammar

namespace Formulary

open String (utf8Len)

/-! ## Depth -/

/-- The node stands among the nodes at some depth: on their level, in the body of a group or
among the arguments of a call. -/
inductive Within (nodes : List Node) : Node → Prop
  | here {node : Node} : node ∈ nodes → Within nodes node
  | body {span : Span} {body : List Node} {node : Node} :
      Within nodes (.group span body) → node ∈ body → Within nodes node
  | param {span : Span} {method : String} {params : List Node} {node : Node} :
      Within nodes (.call span method params) → node ∈ params → Within nodes node

theorem Within.of_sub {nodes more : List Node} (h : ∀ node ∈ nodes, Within more node)
    {node : Node} (hnode : Within nodes node) : Within more node := by
  induction hnode with
  | here hnode => exact h _ hnode
  | body _ hnode ih => exact ih.body hnode
  | param _ hnode ih => exact ih.param hnode

/-! ## Shapes -/

/-- A number, a variable, a call, or a level in parentheses, which begins behind the place
where the group begins. -/
inductive OperandShape : Node → Prop
  | number (span : Span) (x : Decimal) : OperandShape (.value span (.number x))
  | reference (span : Span) (key : String) : OperandShape (.reference span key)
  | group (span : Span) (body : List Node) :
      (∀ first ∈ body.head?, span.start < first.span.start) → OperandShape (.group span body)
  | call (span : Span) (method : String) (params : List Node) :
      OperandShape (.call span method params)

/-- Operands with an operator between each two of them. -/
inductive Alternates : List Node → Prop
  | last {node : Node} : OperandShape node → Alternates [node]
  | more {node : Node} {rest : List Node} (span : Span) (op : Operator) :
      OperandShape node → Alternates rest → Alternates (node :: .operator span op :: rest)

/-- A text alone, or operands with operators between them. -/
inductive LevelShape : List Node → Prop
  | text (span : Span) (text : String) : LevelShape [.value span (.text text)]
  | chain {nodes : List Node} : Alternates nodes → LevelShape nodes

/-- A text, an operand, or a group around at least three nodes that has no parentheses of its
own. -/
inductive ParamShape : Node → Prop
  | text (span : Span) (text : String) : ParamShape (.value span (.text text))
  | operand {node : Node} : OperandShape node → ParamShape node
  | wrapped (span : Span) {body : List Node} : Alternates body → 3 ≤ body.length →
      (∀ first ∈ body.head?, first.span.start = span.start) → ParamShape (.group span body)

/-- What a node may be, apart from what is deeper inside it. A comma may not be at all. -/
def NodeShape : Node → Prop
  | .comma _ => False
  | .group _ body => LevelShape body
  | .call _ _ params => ∀ param ∈ params, ParamShape param
  | _ => True

namespace Written

/-! ## The nodes of the syntax -/

/-- The nodes that the syntax makes. Whatever is inside one of them is one again. -/
inductive NodeOf : Node → Prop
  | operand {signed : Bool} (o : Operand signed) (start : Nat) : NodeOf (o.node start)
  | operator (start : Nat) (op : Operator) : NodeOf (.operator ⟨start, op.symbol⟩ op)
  | text (t : Quoted) (start : Nat) :
      NodeOf (.value ⟨start, String.ofList t.chars⟩ (.text (String.ofList t.content)))
  | wrapped {signed : Bool} (first : Operand signed) (tail : Tail) (start : Nat) :
      tail.nodes (start + utf8Len first.chars) ≠ [] →
      NodeOf (.group ⟨start, String.ofList (Level.chain first tail).chars⟩
        ((Level.chain first tail).nodes start))

theorem Tail.nodeOf : ∀ (t : Tail) {start : Nat} {node : Node}, node ∈ t.nodes start → NodeOf node
  | .nil, _, _, h => by simp [Tail.nodes] at h
  | .more before op after operand apart rest, start, node, h => by
    simp only [Tail.nodes, List.mem_cons] at h
    rcases h with rfl | rfl | h
    · exact .operator _ op
    · exact .operand operand _
    · exact Tail.nodeOf rest h

theorem Level.nodeOf (l : Level) {start : Nat} {node : Node} (h : node ∈ l.nodes start) :
    NodeOf node := by
  cases l with
  | text t =>
    simp only [Level.nodes, List.mem_singleton] at h
    exact h ▸ .text t start
  | chain first tail =>
    simp only [Level.nodes, List.mem_cons] at h
    rcases h with rfl | h
    · exact .operand first start
    · exact tail.nodeOf h

theorem Padded.nodeOf (p : Padded) {start : Nat} {node : Node} (h : node ∈ p.nodes start) :
    NodeOf node := by
  cases p
  exact Level.nodeOf _ h

/-- An argument is a text, an operand or a group around its level. -/
theorem argument_cases {motive : Node → Prop} (l : Level) (start : Nat)
    (text : ∀ t : Quoted,
      motive (.value ⟨start, String.ofList t.chars⟩ (.text (String.ofList t.content))))
    (operand : ∀ {signed : Bool} (o : Operand signed), motive (o.node start))
    (wrapped : ∀ {signed : Bool} (first : Operand signed) (tail : Tail),
      tail.nodes (start + utf8Len first.chars) ≠ [] →
      motive (.group ⟨start, String.ofList (Level.chain first tail).chars⟩
        ((Level.chain first tail).nodes start))) :
    motive (argumentOf start l.chars (l.nodes start)) := by
  cases l with
  | text t => exact text t
  | chain first tail =>
    have hwrapped := wrapped first tail
    simp only [Level.nodes] at hwrapped ⊢
    cases hnodes : tail.nodes (start + utf8Len first.chars) with
    | nil => exact operand first
    | cons node more =>
      rw [hnodes] at hwrapped
      exact hwrapped (List.cons_ne_nil _ _)

/-- What all arguments have in common is shared by the arguments of each call. -/
theorem Levels.forall_params {motive : Node → Prop}
    (h : ∀ (l : Level) (start : Nat), motive (argumentOf start l.chars (l.nodes start))) :
    ∀ (levels : Levels) {start : Nat}, ∀ param ∈ levels.params start, motive param
  | .last (.mk before level after), start, param, hp => by
    simp only [Levels.params, List.mem_singleton] at hp
    exact hp ▸ h level _
  | .more (.mk before level after) rest, start, param, hp => by
    simp only [Levels.params, List.mem_cons] at hp
    rcases hp with rfl | hp
    · exact h level _
    · exact Levels.forall_params h rest param hp

theorem Arguments.forall_params {motive : Node → Prop}
    (h : ∀ (l : Level) (start : Nat), motive (argumentOf start l.chars (l.nodes start)))
    (args : Arguments) {start : Nat} : ∀ param ∈ args.params start, motive param := by
  cases args with
  | none _ => nofun
  | some levels => exact levels.forall_params h

theorem nodeOf_argument (l : Level) (start : Nat) :
    NodeOf (argumentOf start l.chars (l.nodes start)) :=
  argument_cases l start (fun t => .text t start) (fun o => .operand o start)
    (fun first tail hne => .wrapped first tail start hne)

theorem NodeOf.of_body {span : Span} {body : List Node} {node : Node}
    (h : NodeOf (.group span body)) (hnode : node ∈ body) : NodeOf node := by
  generalize hg : Node.group span body = group at h
  cases h with
  | operand o start =>
    cases o with
    | group p =>
      cases hg
      exact p.nodeOf hnode
    | _ => cases hg
  | wrapped first tail start _ =>
    cases hg
    exact Level.nodeOf _ hnode
  | _ => cases hg

theorem NodeOf.of_param {span : Span} {method : String} {params : List Node} {node : Node}
    (h : NodeOf (.call span method params)) (hnode : node ∈ params) : NodeOf node := by
  generalize hc : Node.call span method params = call at h
  cases h with
  | operand o start =>
    cases o with
    | call name args =>
      cases hc
      exact args.forall_params nodeOf_argument node hnode
    | _ => cases hc
  | _ => cases hc

/-- The nodes of a formula are nodes of the syntax at every depth. -/
theorem Padded.nodeOf_within (p : Padded) {start : Nat} {node : Node}
    (h : Within (p.nodes start) node) : NodeOf node := by
  induction h with
  | here hnode => exact p.nodeOf hnode
  | body _ hnode ih => exact ih.of_body hnode
  | param _ hnode ih => exact ih.of_param hnode

/-! ## The shapes of the syntax -/

/-- A level starts where its first node starts. -/
theorem Level.head_start (l : Level) (start : Nat) :
    ∀ first ∈ (l.nodes start).head?, first.span.start = start := by
  intro first h
  cases l with
  | text t =>
    cases h
    rfl
  | chain operand tail =>
    cases h
    rw [operand.node_span]

theorem Operand.operandShape : ∀ {signed : Bool} (o : Operand signed) (start : Nat),
    OperandShape (o.node start)
  | _, .number _, _ => .number _ _
  | _, .reference _, _ => .reference _ _
  | _, .group (.mk before level after), start => by
    refine .group _ _ fun first h => ?_
    rw [level.head_start _ first h]
    exact Nat.lt_of_lt_of_le (Nat.lt_succ_self start) (Nat.le_add_right _ _)
  | _, .call _ _, _ => .call _ _ _

theorem Tail.alternates : ∀ (t : Tail) {node : Node} (start : Nat), OperandShape node →
    Alternates (node :: t.nodes start)
  | .nil, _, _, h => .last h
  | .more _ op _ operand _ rest, _, _, h =>
    .more _ op h (Tail.alternates rest _ (operand.operandShape _))

theorem Level.levelShape (l : Level) (start : Nat) : LevelShape (l.nodes start) := by
  cases l with
  | text t => exact .text _ _
  | chain first tail => exact .chain (tail.alternates _ (first.operandShape start))

theorem Padded.levelShape (p : Padded) (start : Nat) : LevelShape (p.nodes start) := by
  cases p
  exact Level.levelShape _ _

/-- More than one operand are at least three nodes. -/
theorem Tail.two_le_length (t : Tail) {start : Nat} (h : t.nodes start ≠ []) :
    2 ≤ (t.nodes start).length := by
  cases t with
  | nil => exact absurd rfl h
  | more _ _ _ _ _ _ => simp [Tail.nodes]

theorem paramShape_argument (l : Level) (start : Nat) :
    ParamShape (argumentOf start l.chars (l.nodes start)) := by
  refine argument_cases l start (fun t => .text _ _) (fun o => .operand (o.operandShape start))
    fun first tail hne => ?_
  refine .wrapped _ (tail.alternates _ (first.operandShape start)) ?_
    (Level.head_start (.chain first tail) start)
  exact Nat.succ_le_succ (tail.two_le_length hne)

theorem NodeOf.nodeShape {node : Node} (h : NodeOf node) : NodeShape node := by
  cases h with
  | operand o start =>
    cases o with
    | number _ => trivial
    | reference _ => trivial
    | group p => exact p.levelShape _
    | call name args => exact args.forall_params paramShape_argument
  | operator _ _ => trivial
  | text _ _ => trivial
  | wrapped first tail start _ => exact Level.levelShape (.chain first tail) start

end Written

/-! ## The law -/

/-- The law of the tree: its levels are well formed at every depth. No level is empty, no comma
is left, and an argument is one node or wraps a run of at least three. -/
theorem wellFormed_of_tokenize {text : String} {nodes : List Node}
    (h : tokenize text = .ok nodes) :
    LevelShape nodes ∧ ∀ node, Within nodes node → NodeShape node := by
  obtain ⟨p, -, rfl⟩ := exists_written_of_tokenize h
  exact ⟨p.levelShape 0, fun node hnode => (p.nodeOf_within hnode).nodeShape⟩

/-- A call with a wrapped argument and a text. -/
theorem wellFormed_call :
    ∃ nodes, tokenize "$f(1 + {b}, 'x')" = .ok nodes ∧
      LevelShape nodes ∧ ∀ node, Within nodes node → NodeShape node :=
  have h : tokenize "$f(1 + {b}, 'x')" = .ok [.call ⟨0, "$f(1 + {b}, 'x')"⟩ "f"
      [.group ⟨3, "1 + {b}"⟩ [.value ⟨3, "1"⟩ (.number ⟨1, 0⟩), .operator ⟨5, "+"⟩ .add,
        .reference ⟨7, "{b}"⟩ "b"], .value ⟨12, "'x'"⟩ (.text "x")]] := rfl
  ⟨_, h, wellFormed_of_tokenize h⟩

end Formulary
