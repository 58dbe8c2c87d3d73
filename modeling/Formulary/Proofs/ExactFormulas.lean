-- Formulas of numbers, sums, differences and products are computed exactly. Each literal is read
-- as the number that it writes, and no result has more places than the literals it is made of,
-- so that the bound on places takes nothing away.
import Formulary.Proofs.CacheInvisible
import Formulary.Proofs.ExactOperations
import Formulary.Proofs.FaultOrder
import Formulary.Proofs.WellFormed
import Mathlib.Algebra.Order.Ring.Abs

namespace Formulary

/-! ## What literals write -/

/-- A literal with its sign. -/
structure SignedLiteral where
  negative : Bool
  literal : NumberLiteral

namespace SignedLiteral

def read? : List Char → Option SignedLiteral
  | '-' :: cs => (NumberLiteral.read? cs).map (⟨true, ·⟩)
  | '+' :: cs => (NumberLiteral.read? cs).map (⟨false, ·⟩)
  | cs => (NumberLiteral.read? cs).map (⟨false, ·⟩)

/-- All digits of the literal as one whole number. -/
def int (l : SignedLiteral) : Int :=
  let n : Int := digitsValue (l.literal.whole ++ l.literal.fraction)
  if l.negative then -n else n

/-- The fraction digits, less the exponent. -/
def scale (l : SignedLiteral) : Int := l.literal.fraction.length - l.literal.exponent

/-- The number that the literal writes. -/
def toRat (l : SignedLiteral) : ℚ := l.int * 10 ^ (-l.scale)

def places (l : SignedLiteral) : Nat := l.scale.toNat

/-- The number is zero, or neither too small nor too large. -/
def Moderate (l : SignedLiteral) : Prop :=
  l.toRat = 0 ∨ (10 : ℚ) ^ (-300 : Int) ≤ |l.toRat| ∧ |l.toRat| ≤ 10 ^ (300 : Int)

theorem abs_toRat (l : SignedLiteral) : |l.toRat| = l.int.natAbs * 10 ^ (-l.scale) := by
  unfold toRat
  rw [abs_mul, abs_of_pos (Decimal.ten_zpow_pos _), Nat.cast_natAbs, Int.cast_abs]

theorem fitsAt_toRat (l : SignedLiteral) : FitsAt l.places l.toRat :=
  fitsAt_mono ⟨l.int, shift_forth l.scale l.int⟩ (Int.self_le_toNat l.scale)

theorem toRat_of_value? {l : SignedLiteral} {x : Decimal}
    (h : l.literal.value? l.negative = some x) : x.int = l.int ∧ x.scale = l.scale := by
  have hparts : Decimal.ofParts? l.int l.scale = some x := h
  unfold Decimal.ofParts? at hparts
  split_ifs at hparts with hscale
  rw [← Option.some.inj hparts]
  exact ⟨rfl, Decimal.toInt_ofInt hscale⟩

/-- A literal that is not too small is read as the number that it writes, which is within the
doubles. -/
theorem toRat_of_evaluate {l : SignedLiteral} {cs : List Char} {x : Decimal}
    (hread : NumberLiteral.read? cs = some l.literal)
    (h : NumberLiteral.evaluate cs l.negative = .ok x) (hmoderate : l.Moderate) :
    x.toRat = l.toRat ∧ x.isFinite = true := by
  unfold NumberLiteral.evaluate at h
  rw [hread, Option.bind_some] at h
  split at h
  · cases h
  · rename_i y hy
    obtain ⟨hint, hscale⟩ := toRat_of_value? hy
    split_ifs at h with hfinite hzero
    · -- What is read as zero is zero.
      cases h
      refine ⟨?_, rfl⟩
      rw [Decimal.toRat_zero, eq_comm]
      rcases hmoderate with hnull | ⟨hlow, -⟩
      · exact hnull
      · rw [abs_toRat, ← hint, ← hscale] at hlow
        have hnot := Decimal.isZero_approximate hlow
        rw [Decimal.toBinary64, hnot] at hzero
        cases hzero
    · cases h
      refine ⟨?_, by simpa using hfinite⟩
      rw [Decimal.toRat, hint, hscale, toRat]

end SignedLiteral

namespace Written

/-- A numeral of the syntax is a sign and a literal. -/
theorem Numeral.exists_literal (n : Numeral) : ∃ l : SignedLiteral,
    SignedLiteral.read? n.chars = some l ∧ NumberLiteral.read? n.literal = some l.literal ∧
      l.negative = (n.sign == some .subtract) := by
  obtain ⟨literal, hliteral⟩ := exists_read?_of_evaluate n.reads
  obtain ⟨c, more, hchars, hfirst⟩ := exists_head_of_read? hliteral
  refine ⟨⟨n.sign == some .subtract, literal⟩, ?_, hliteral, rfl⟩
  have hsign := n.isSign
  unfold Numeral.chars
  cases hn : n.sign with
  | none =>
    have hminus : c ≠ '-' := by
      rintro rfl
      rcases hfirst with h | h <;> exact absurd h (by decide)
    have hplus : c ≠ '+' := by
      rintro rfl
      rcases hfirst with h | h <;> exact absurd h (by decide)
    rw [signChars, List.nil_append, hchars, SignedLiteral.read?]
    · rw [← hchars, hliteral]
      rfl
    · exact fun _ h => hminus (List.cons.inj h).1
    · exact fun _ h => hplus (List.cons.inj h).1
  | some op =>
    rw [hn] at hsign
    have hop : op = .add ∨ op = .subtract := by
      have := hsign op rfl
      cases op <;> simp_all [Operator.isSign]
    rcases hop with rfl | rfl
    · change (NumberLiteral.read? n.literal).map _ = _
      rw [hliteral]
      rfl
    · change (NumberLiteral.read? n.literal).map _ = _
      rw [hliteral]
      rfl

/-- Where a number stands in a formula there is a numeral of the syntax. -/
theorem NodeOf.exists_numeral {span : Span} {x : Decimal}
    (h : NodeOf (.value span (.number x))) :
    ∃ n : Numeral, span.chars = String.ofList n.chars ∧ x = n.value := by
  generalize hnode : Node.value span (.number x) = node at h
  cases h with
  | operand o start =>
    cases o with
    | number n =>
      cases hnode
      exact ⟨n, rfl, rfl⟩
    | _ => cases hnode
  | _ => cases hnode

end Written

/-! ## Decimal formulas -/

mutual

/-- Only numbers, sums, differences, products and parentheses. -/
def Node.isDecimal : Node → Bool
  | .value _ (.number _) => true
  | .operator _ op => op == .add || op == .subtract || op == .multiply
  | .group _ body => areDecimal body
  | _ => false

def areDecimal : List Node → Bool
  | [] => true
  | node :: rest => node.isDecimal && areDecimal rest

end

mutual

/-- The literals of the numbers, at every depth. -/
def Node.literals : Node → List SignedLiteral
  | .value span (.number _) => (SignedLiteral.read? span.chars.toList).toList
  | .group _ body => literalsIn body
  | .call _ _ params => literalsIn params
  | _ => []

def literalsIn : List Node → List SignedLiteral
  | [] => []
  | node :: rest => node.literals ++ literalsIn rest

end

theorem areDecimal_append (left right : List Node) :
    areDecimal (left ++ right) = (areDecimal left && areDecimal right) := by
  induction left with
  | nil => rfl
  | cons node rest ih => rw [List.cons_append, areDecimal, areDecimal, ih, Bool.and_assoc]

theorem literalsIn_append (left right : List Node) :
    literalsIn (left ++ right) = literalsIn left ++ literalsIn right := by
  induction left with
  | nil => rfl
  | cons node rest ih => rw [List.cons_append, literalsIn, literalsIn, ih, List.append_assoc]

theorem literals_sub {nodes : List Node} {node : Node} (h : node ∈ nodes) :
    ∀ l ∈ node.literals, l ∈ literalsIn nodes := by
  induction nodes with
  | nil => cases h
  | cons first rest ih =>
    intro l hl
    rw [literalsIn, List.mem_append]
    rcases List.mem_cons.mp h with rfl | h
    · exact .inl hl
    · exact .inr (ih h l hl)

/-- The literals of a node are literals of each level that it stands in. -/
theorem Within.literals_sub {nodes : List Node} {node : Node} (h : Within nodes node) :
    ∀ l ∈ node.literals, l ∈ literalsIn nodes := by
  induction h with
  | here hnode => exact Formulary.literals_sub hnode
  | body _ hnode ih => exact fun l hl => ih l (Formulary.literals_sub hnode l hl)
  | param _ hnode ih => exact fun l hl => ih l (Formulary.literals_sub hnode l hl)

def placesIn (nodes : List Node) : Nat := ((literalsIn nodes).map SignedLiteral.places).sum

theorem placesIn_append (left right : List Node) :
    placesIn (left ++ right) = placesIn left + placesIn right := by
  unfold placesIn
  rw [literalsIn_append, List.map_append, List.sum_append]

/-! ## Exact values -/

def Operator.onRat? (op : Operator) (p q : ℚ) : Option ℚ :=
  match op with
  | add => some (p + q)
  | subtract => some (p - q)
  | multiply => some (p * q)
  | _ => none

/-- The exact value of a tree of numbers, sums, differences and products. -/
def Expr.toRat? : Expr → Option ℚ
  | .value v => v.asNumber?.map Decimal.toRat
  | .group body => body.toRat?
  | .binary op left right => do
    let p ← left.toRat?
    let q ← right.toRat?
    op.onRat? p q
  | _ => none

/-- The exact value of the tree or of a part of it is beyond the doubles. -/
def Expr.TooLarge (e : Expr) : Prop :=
  ∃ part ∈ e.parts .right, ∃ x : Decimal, part.toRat? = some x.toRat ∧ x.isFinite = false

/-- The tree is computed to exactly this number, or it is too large. -/
def Expr.Exact (env : Environment) (e : Expr) (q : ℚ) : Prop :=
  e.evaluate env = .error .tooLarge ∧ e.TooLarge ∨
    ∃ x : Decimal, e.evaluate env = .ok (.number x) ∧ x.toRat = q ∧ x.isFinite = true

theorem Expr.TooLarge.of_sub {e whole : Expr} (h : e.TooLarge)
    (hsub : ∀ part ∈ e.parts .right, part ∈ whole.parts .right) : whole.TooLarge := by
  obtain ⟨part, hpart, hlarge⟩ := h
  exact ⟨part, hsub part hpart, hlarge⟩

theorem Expr.Exact.group {env : Environment} {body : Expr} {q : ℚ}
    (h : body.Exact env q) : (Expr.group body).Exact env q := by
  rcases h with ⟨hfault, hlarge⟩ | hvalue
  · exact .inl ⟨hfault, hlarge.of_sub fun _ hpart => List.mem_append_left _ hpart⟩
  · exact .inr hvalue

/-- Sums, differences and products of numbers with few places are exact. -/
theorem Operator.exists_exact {op : Operator}
    (h : (op == .add || op == .subtract || op == .multiply) = true) {a b : Nat}
    (hplaces : (a + b : Nat) ≤ Decimal.maxPlaces) {p q : ℚ} (hp : FitsAt a p) (hq : FitsAt b q) :
    ∃ s, op.onRat? p q = some s ∧ FitsAt (a + b : Nat) s ∧
      ∀ x y : Decimal, x.toRat = p → x.isFinite = true → y.toRat = q → y.isFinite = true →
        ∃ z : Decimal, op.apply x y = .number <$> z.finite ∧ z.toRat = s := by
  have hop : op = .add ∨ op = .subtract ∨ op = .multiply := by simpa [or_assoc] using h
  have hp' : FitsAt (a + b : Nat) p := fitsAt_mono hp (by omega)
  have hq' : FitsAt (a + b : Nat) q := fitsAt_mono hq (by omega)
  have hbounded : ∀ {s : ℚ}, FitsAt (a + b : Nat) s → Decimal.bounded s = s := fun hs =>
    roundedAt_of_fitsAt (fitsAt_mono hs hplaces)
  rcases hop with rfl | rfl | rfl
  · refine ⟨p + q, rfl, hp'.add hq', ?_⟩
    rintro x y rfl - rfl -
    obtain ⟨z, hz, -, hresult⟩ := Decimal.exact_sum_bounded x y
    rw [hbounded hp', hbounded hq'] at hz
    exact ⟨z, by rw [Operator.apply, hresult], hz⟩
  · refine ⟨p - q, rfl, hp'.sub hq', ?_⟩
    rintro x y rfl - rfl -
    obtain ⟨z, hz, -, hresult⟩ := Decimal.exact_difference_bounded x y
    rw [hbounded hp', hbounded hq'] at hz
    exact ⟨z, by rw [Operator.apply, hresult], hz⟩
  · have hs : FitsAt (a + b : Nat) (p * q) := by
      rw [Nat.cast_add]
      exact hp.mul hq
    refine ⟨p * q, rfl, hs, ?_⟩
    rintro x y rfl hx rfl hy
    obtain ⟨z, hz, -, hresult⟩ := Decimal.exact_product_bounded x y
      (Decimal.hasProduct_bound (Decimal.inReach_of_isFinite hx) (Decimal.inReach_of_isFinite hy))
    rw [hbounded hp', hbounded hq', hbounded hs] at hz
    exact ⟨z, by rw [Operator.apply, hresult], hz⟩

/-- An operator on two exact operands, of which the right one is computed first. -/
theorem Expr.Exact.binary {env : Environment} {op : Operator} {left right : Expr} {p q s : ℚ}
    (hl : left.Exact env p) (hr : right.Exact env q)
    (hs : (Expr.binary op left right).toRat? = some s)
    (hop : ∀ x y : Decimal, x.toRat = p → x.isFinite = true → y.toRat = q → y.isFinite = true →
      ∃ z : Decimal, op.apply x y = .number <$> z.finite ∧ z.toRat = s) :
    (Expr.binary op left right).Exact env s := by
  unfold Expr.Exact
  rw [Expr.evaluate]
  rcases hr with ⟨hr, hlarge⟩ | ⟨y, hr, hyq, hyfinite⟩
  · rw [hr]
    exact .inl ⟨rfl, hlarge.of_sub fun _ hpart =>
      List.mem_append_left _ (List.mem_append_left _ hpart)⟩
  · rw [hr, ok_bind]
    rcases hl with ⟨hl, hlarge⟩ | ⟨x, hl, hxp, hxfinite⟩
    · rw [hl]
      exact .inl ⟨rfl, hlarge.of_sub fun _ hpart =>
        List.mem_append_left _ (List.mem_append_right _ hpart)⟩
    · obtain ⟨z, happly, hz⟩ := hop x y hxp hxfinite hyq hyfinite
      rw [hl, ok_bind, numberOperand, numberOperand, ok_bind, ok_bind, happly]
      rcases z.finite_cases with ⟨hok, hfinite⟩ | ⟨hrefused, hfinite⟩
      · rw [hok]
        exact .inr ⟨z, rfl, hz, hfinite⟩
      · rw [hrefused]
        refine .inl ⟨rfl, .binary op left right, List.mem_append_right _ ?_, z, ?_, hfinite⟩
        · exact List.mem_singleton_self _
        · rw [hs, hz]

/-! ## Levels -/

/-- Each number among the nodes is the one that its literal writes, and is within the doubles. -/
def Fitting (nodes : List Node) : Prop :=
  ∀ span x, Within nodes (.value span (.number x)) →
    ∃ l, SignedLiteral.read? span.chars.toList = some l ∧ x.toRat = l.toRat ∧ x.isFinite = true

theorem Fitting.of_sub {nodes more : List Node} (h : Fitting more)
    (hsub : ∀ node ∈ nodes, Within more node) : Fitting nodes :=
  fun span x hx => h span x (hx.of_sub hsub)

mutual

theorem OperandMeans.exact (env : Environment) : ∀ {node : Node} {e : Expr}, OperandMeans node e →
    node.isDecimal = true → Fitting [node] → (placesIn [node] : Int) ≤ Decimal.maxPlaces →
    ∃ q, e.toRat? = some q ∧ FitsAt (placesIn [node]) q ∧ e.Exact env q
  | _, _, .value span v => fun hdecimal hfit _ => by
    cases v with
    | number x =>
      obtain ⟨l, hread, hvalue, hfinite⟩ := hfit span x (.here (List.mem_singleton_self _))
      have hplaces : placesIn [.value span (.number x)] = l.places := by
        simp [placesIn, literalsIn, Node.literals, hread]
      rw [hplaces]
      exact ⟨x.toRat, rfl, hvalue ▸ l.fitsAt_toRat, .inr ⟨x, rfl, rfl, hfinite⟩⟩
    | _ => cases hdecimal
  | _, _, .reference _ _ => nofun
  | _, _, .group span body h => fun hdecimal hfit hplaces => by
    have hsame : placesIn [.group span body] = placesIn body := by
      simp [placesIn, literalsIn, Node.literals]
    have hbody : Fitting body := hfit.of_sub fun node hnode =>
      .body (.here (List.mem_singleton_self _)) hnode
    rw [Node.isDecimal] at hdecimal
    rw [hsame] at hplaces ⊢
    obtain ⟨q, hq, hfits, hvalue⟩ := h.exact env hdecimal hbody hplaces
    exact ⟨q, hq, hfits, hvalue.group⟩
  | _, _, .call _ _ _ => nofun

theorem LevelMeans.exact (env : Environment) : ∀ {w : Nat} {nodes : List Node} {e : Expr},
    LevelMeans w nodes e → areDecimal nodes = true → Fitting nodes →
    (placesIn nodes : Int) ≤ Decimal.maxPlaces →
    ∃ q, e.toRat? = some q ∧ FitsAt (placesIn nodes) q ∧ e.Exact env q
  | _, _, _, .operand _ node h => fun hdecimal hfit hplaces => by
    rw [areDecimal, areDecimal, Bool.and_true] at hdecimal
    exact h.exact env hdecimal hfit hplaces
  | _, _, .binary _ l r, .binary left span op right _ hl hr => fun hdecimal hfit hplaces => by
    have hsum : placesIn (left ++ .operator span op :: right) = placesIn left + placesIn right :=
      placesIn_append left (.operator span op :: right)
    rw [areDecimal_append, areDecimal, Bool.and_eq_true, Bool.and_eq_true] at hdecimal
    obtain ⟨hdecimalLeft, hkind, hdecimalRight⟩ := hdecimal
    rw [hsum] at hplaces ⊢
    obtain ⟨p, hp, hfitsl, hvaluel⟩ := hl.exact env hdecimalLeft
      (hfit.of_sub fun node hnode => .here (List.mem_append_left _ hnode)) (by omega)
    obtain ⟨q, hq, hfitsr, hvaluer⟩ := hr.exact env hdecimalRight
      (hfit.of_sub fun node hnode =>
        .here (List.mem_append_right _ (List.mem_cons_of_mem _ hnode))) (by omega)
    obtain ⟨s, hs, hfits, hop⟩ := Operator.exists_exact hkind hplaces hfitsl hfitsr
    have hwhole : (Expr.binary op l r).toRat? = some s := by
      rw [Expr.toRat?, hp, hq]
      exact hs
    exact ⟨s, hwhole, hfits, hvaluel.binary hvaluer hwhole hop⟩

end

/-! ## The law -/

/-- A number in a formula is the one that its text writes. -/
theorem toRat_within {text : String} {tokens : List Node} (h : tokenize text = .ok tokens)
    (hmoderate : ∀ l ∈ literalsIn tokens, l.Moderate) {span : Span} {x : Decimal}
    (hx : Within tokens (.value span (.number x))) :
    ∃ l, SignedLiteral.read? span.chars.toList = some l ∧ x.toRat = l.toRat ∧
      x.isFinite = true := by
  obtain ⟨p, -, rfl⟩ := exists_written_of_tokenize h
  obtain ⟨n, hchars, rfl⟩ := (p.nodeOf_within hx).exists_numeral
  obtain ⟨l, hread, hliteral, hsign⟩ := n.exists_literal
  have hspan : SignedLiteral.read? span.chars.toList = some l := by
    rw [hchars, String.toList_ofList, hread]
  have hmem : l ∈ literalsIn (p.nodes 0) := by
    refine hx.literals_sub l ?_
    rw [Node.literals, hspan]
    exact List.mem_singleton_self l
  have hreads := n.reads
  rw [← hsign] at hreads
  exact ⟨l, hspan, SignedLiteral.toRat_of_evaluate hliteral hreads (hmoderate l hmem)⟩

namespace Engine

/-- The law of exact formulas. A formula of numbers, sums, differences and products in which no
literal is too small and the literals together have at most 1100 places is computed to the exact
value of its tree, or is refused because that value or the value of a part is beyond the doubles.
Each number in it is the one that its text writes. -/
theorem calculate_exact {e : Engine} (h : e.Reachable) (bindings : NameTable Value)
    {text : String} {tokens : List Node} (htokens : tokenize (Text.trim text) = .ok tokens)
    (hdecimal : areDecimal tokens = true) (hmoderate : ∀ l ∈ literalsIn tokens, l.Moderate)
    (hplaces : placesIn tokens ≤ 1100) :
    (∀ span x, Within tokens (.value span (.number x)) →
      ∃ l, SignedLiteral.read? span.chars.toList = some l ∧ x.toRat = l.toRat) ∧
    ∃ tree q, LevelMeans 0 tokens tree ∧ tree.toRat? = some q ∧
      ((e.calculate text bindings).1 = .error .tooLarge ∧ tree.TooLarge ∨
        ∃ x : Decimal, (e.calculate text bindings).1 = .ok (.number x) ∧ x.toRat = q) := by
  have hbound : (placesIn tokens : Int) ≤ Decimal.maxPlaces := by
    unfold Decimal.maxPlaces
    omega
  have hfit : Fitting tokens := fun _ _ => toRat_within htokens hmoderate
  obtain ⟨tree, htree⟩ := exists_means_of_tokenize htokens
  obtain ⟨q, hq, -, hvalue⟩ := htree.exact (e.environment bindings) hdecimal hfit hbound
  have hcalculate : (e.calculate text bindings).1 = tree.evaluate (e.environment bindings) := by
    rw [calculate_eq h.valid, Formulary.parse, htokens, ← htree.evaluate_eq]
    rfl
  refine ⟨fun span x hx => ?_, tree, q, htree, hq, ?_⟩
  · obtain ⟨l, hread, hsame, -⟩ := hfit span x hx
    exact ⟨l, hread, hsame⟩
  · rw [hcalculate]
    rcases hvalue with hrefused | ⟨x, hx, hxq, -⟩
    · exact .inl hrefused
    · exact .inr ⟨x, hx, hxq⟩

/-- The nodes of `0.5 * (2 - 3e-1)`. -/
def halfOfDifference : List Node :=
  [.value ⟨0, "0.5"⟩ (.number ⟨5, 1⟩), .operator ⟨4, "*"⟩ .multiply,
    .group ⟨6, "(2 - 3e-1)"⟩ [.value ⟨7, "2"⟩ (.number ⟨2, 0⟩), .operator ⟨9, "-"⟩ .subtract,
      .value ⟨11, "3e-1"⟩ (.number ⟨3, 1⟩)]]

theorem moderate_halfOfDifference : ∀ l ∈ literalsIn halfOfDifference, l.Moderate := by
  have hdigit : ∀ l ∈ literalsIn halfOfDifference,
      (1 ≤ l.int.natAbs ∧ l.int.natAbs ≤ 10) ∧ 0 ≤ l.scale ∧ l.scale ≤ 300 := by
    decide
  intro l hl
  obtain ⟨⟨hone, hten⟩, hscale, hfew⟩ := hdigit l hl
  have hone' : (1 : ℚ) ≤ l.int.natAbs := Nat.one_le_cast.mpr hone
  have hten' : (l.int.natAbs : ℚ) ≤ 10 := by exact_mod_cast hten
  right
  rw [l.abs_toRat]
  constructor
  · calc (10 : ℚ) ^ (-300 : Int) ≤ 10 ^ (-l.scale) :=
          zpow_le_zpow_right₀ (by norm_num) (by omega)
      _ ≤ l.int.natAbs * 10 ^ (-l.scale) :=
          le_mul_of_one_le_left (Decimal.ten_zpow_pos _).le hone'
  · calc l.int.natAbs * (10 : ℚ) ^ (-l.scale) ≤ l.int.natAbs :=
          mul_le_of_le_one_right (Nat.cast_nonneg _) (zpow_le_one_of_nonpos₀ (by norm_num) (by omega))
      _ ≤ 10 ^ (1 : Int) := by rwa [zpow_one]
      _ ≤ 10 ^ (300 : Int) := zpow_le_zpow_right₀ (by norm_num) (by norm_num)

/-- Its value is 0.85. -/
theorem calculate_exact_half :
    tokenize (Text.trim "0.5 * (2 - 3e-1)") = .ok halfOfDifference ∧
      areDecimal halfOfDifference = true ∧ placesIn halfOfDifference = 2 ∧
      ∃ x : Decimal, ((empty 0).calculate "0.5 * (2 - 3e-1)" .empty).1 = .ok (.number x) ∧
        x.toRat = 17 / 20 := by
  have htokens : tokenize (Text.trim "0.5 * (2 - 3e-1)") = .ok halfOfDifference := rfl
  have hplaces : placesIn halfOfDifference = 2 := rfl
  have hdifference := LevelMeans.binary [.value ⟨7, "2"⟩ (.number ⟨2, 0⟩)] ⟨9, "-"⟩ .subtract
    [.value ⟨11, "3e-1"⟩ (.number ⟨3, 1⟩)] (Nat.zero_le _) (.operand _ _ (.value _ _))
    (.operand _ _ (.value _ _))
  have hproduct := LevelMeans.binary [.value ⟨0, "0.5"⟩ (.number ⟨5, 1⟩)] ⟨4, "*"⟩ .multiply
    _ (Nat.zero_le _) (.operand _ _ (.value _ _))
    (.operand _ _ (.group ⟨6, "(2 - 3e-1)"⟩ _ hdifference))
  obtain ⟨-, tree, q, htree, hq, hvalue⟩ := calculate_exact (e := empty 0) ⟨0, [], rfl⟩ .empty
    htokens (by decide) moderate_halfOfDifference (by omega)
  have hsum : q = 17 / 20 := by
    rw [htree.unique hproduct] at hq
    rw [← Option.some.inj hq, Decimal.toRat_mk _ (show (1 : Int64).toInt = 1 from rfl),
      Decimal.toRat_mk _ (show (0 : Int64).toInt = 0 from rfl),
      Decimal.toRat_mk _ (show (1 : Int64).toInt = 1 from rfl)]
    norm_num
  have hfound : ((empty 0).calculate "0.5 * (2 - 3e-1)" .empty).1 ≠ .error .tooLarge := by
    rw [calculate_eq (TreeCache.valid_empty 0), Formulary.parse, htokens]
    decide
  rw [hsum] at hvalue
  exact ⟨htokens, by decide, hplaces, hvalue.resolve_left fun h => hfound h.1⟩

end Engine

end Formulary
