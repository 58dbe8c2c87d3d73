-- Parentheses that match. A parenthesis in quotes or in the name of a variable is no mark,
-- and all others of a written formula come in pairs. So the text of a call ends with the
-- parenthesis that matches the one behind its name.
import Formulary.Proofs.Grammar

namespace Formulary

open Scanner

/-! ## The parenthesis that matches -/

/-- Goes on behind an open parenthesis to the one that matches it, and gives what is left. Inside
`depth` parentheses that have been opened since, and up to the mark `hidden` if there is one,
parentheses belong to something else. -/
def afterMatch (hidden : Option Char) (depth : Nat) : List Char → Option (List Char)
  | [] => none
  | c :: rest =>
    match hidden with
    | some mark => afterMatch (if c = mark then none else some mark) depth rest
    | none =>
      if c = '(' then afterMatch none (depth + 1) rest
      else if c = ')' then
        if depth = 0 then some rest else afterMatch none (depth - 1) rest
      else if c = '\'' ∨ c = '"' then afterMatch (some c) depth rest
      else if c = '\x7b' then afterMatch (some '\x7d') depth rest
      else afterMatch none depth rest

/-- The text is a call of the method: a dollar, the name, and a parenthesis that is matched by
the last character of the text. -/
def IsCallText (text method : String) : Prop :=
  ∃ rest, text.toList = '$' :: (method.toList ++ '(' :: rest) ∧ afterMatch none 0 rest = some []

/-! ## Characters without a match to look for -/

/-- Nothing in the characters matches a parenthesis before them. -/
def Balanced (cs : List Char) : Prop :=
  ∀ depth rest, afterMatch none depth (cs ++ rest) = afterMatch none depth rest

/-- The characters that open or close something. -/
def marks : List Char := ['(', ')', '\'', '"', '\x7b']

/-- What is hidden ends with the first mark. -/
theorem afterMatch_hidden {mark : Char} {content : List Char} (hfree : mark ∉ content)
    (depth : Nat) (rest : List Char) :
    afterMatch (some mark) depth (content ++ mark :: rest) = afterMatch none depth rest := by
  induction content with
  | nil => simp [afterMatch]
  | cons c content ih =>
    rw [List.mem_cons, not_or] at hfree
    have hc : c ≠ mark := Ne.symm hfree.1
    simp only [List.cons_append, afterMatch, if_neg hc]
    exact ih hfree.2

namespace Balanced

variable {a b : List Char}

theorem nil : Balanced [] := fun _ _ => rfl

theorem append (ha : Balanced a) (hb : Balanced b) : Balanced (a ++ b) := by
  intro depth rest
  rw [List.append_assoc, ha, hb]

theorem cons {c : Char} (hc : c ∉ marks) (hb : Balanced b) : Balanced (c :: b) := by
  simp only [marks, List.mem_cons, List.not_mem_nil, or_false, not_or] at hc
  obtain ⟨hopen, hclose, hquote, hdouble, hbrace⟩ := hc
  intro depth rest
  simp only [List.cons_append, afterMatch, hopen, hclose, hquote, hdouble, hbrace, or_self,
    if_false]
  exact hb depth rest

/-- Characters of a class that has no marks in it are balanced. -/
theorem of_class {p : Char → Bool} (hp : marks.any p = false) {cs : List Char}
    (h : ∀ c ∈ cs, p c = true) : Balanced cs := by
  induction cs with
  | nil => exact nil
  | cons c cs ih =>
    rw [List.forall_mem_cons] at h
    refine cons ?_ (ih h.2)
    intro hc
    rw [List.any_eq_false] at hp
    exact hp c hc h.1

theorem quotes {quote : Char} {content : List Char} (hquote : quote = '\'' ∨ quote = '"')
    (hfree : quote ∉ content) : Balanced (quote :: content ++ [quote]) := by
  intro depth rest
  have hopens : ∀ cs, afterMatch none depth (quote :: cs) = afterMatch (some quote) depth cs := by
    intro cs
    rcases hquote with rfl | rfl <;> simp [afterMatch]
  have hhidden := afterMatch_hidden hfree depth rest
  simpa [hopens] using hhidden

theorem braces {content : List Char} (hfree : '\x7d' ∉ content) :
    Balanced ('\x7b' :: content ++ ['\x7d']) := by
  intro depth rest
  have hopens : ∀ cs, afterMatch none depth ('\x7b' :: cs) =
      afterMatch (some '\x7d') depth cs := by
    intro cs
    simp [afterMatch]
  have hhidden := afterMatch_hidden hfree depth rest
  simpa [hopens] using hhidden

theorem parentheses (h : Balanced a) : Balanced ('(' :: a ++ [')']) := by
  intro depth rest
  have hopens : ∀ cs, afterMatch none depth ('(' :: cs) = afterMatch none (depth + 1) cs := by
    intro cs
    simp [afterMatch]
  have hcloses : afterMatch none (depth + 1) (')' :: rest) = afterMatch none depth rest := by
    simp [afterMatch]
  simp only [List.cons_append, List.append_assoc, hopens, h (depth + 1), List.nil_append, hcloses]

/-- Behind balanced characters the next parenthesis is the match. -/
theorem afterMatch_eq (h : Balanced a) (rest : List Char) :
    afterMatch none 0 (a ++ ')' :: rest) = some rest := by
  rw [h]
  simp [afterMatch]

example : afterMatch none 0 "(1) + {)}, ')')*(2)".toList = some "*(2)".toList := by decide

end Balanced

/-! ## Pieces of the syntax -/

namespace Written

theorem Blanks.balanced (b : Blanks) : Balanced b.chars := .of_class (by decide) b.blank

theorem MethodName.balanced (name : MethodName) : Balanced name.chars :=
  .of_class (by decide) name.nameChars

theorem balanced_symbol (op : Operator) : Balanced op.symbol.toList :=
  .of_class (by decide) (symbol_chars op).2

theorem balanced_digits {cs : List Char} (h : ∀ c ∈ cs, c.isDigit = true) : Balanced cs :=
  .of_class (by decide) h

theorem balanced_fraction {cs : List Char} (h : IsFraction cs) : Balanced cs := by
  rcases h with rfl | ⟨digits, rfl, hdigits⟩
  · exact .nil
  · exact .cons (by decide) (balanced_digits hdigits)

theorem balanced_exponent {cs : List Char} (h : IsExponent cs) : Balanced cs := by
  rcases h with rfl | ⟨sign, digits, rfl, hsign, -, hdigits⟩
  · exact .nil
  · refine .cons (by decide) (.append ?_ (balanced_digits hdigits))
    rcases hsign with rfl | rfl | rfl
    · exact .nil
    · exact .cons (by decide) .nil
    · exact .cons (by decide) .nil

theorem Numeral.balanced (n : Numeral) : Balanced n.chars := by
  obtain ⟨l, hl⟩ := exists_read?_of_evaluate n.reads
  obtain ⟨whole, fraction, exponent, hparts, hwhole, hfraction, hexponent, -⟩ :=
    exists_parts_of_read? hl
  have hliteral : Balanced n.literal := by
    rw [hparts]
    apply (balanced_digits hwhole).append
    exact (balanced_fraction hfraction).append (balanced_exponent hexponent)
  unfold Numeral.chars signChars
  cases n.sign with
  | none => exact hliteral
  | some op => exact (balanced_symbol op).append hliteral

mutual

theorem Operand.balanced : ∀ {signed : Bool} (o : Operand signed), Balanced o.chars
  | _, .number n => n.balanced
  | _, .reference key => .braces key.free
  | _, .group body => .parentheses body.balanced
  | _, .call name args => by
    have hcall : Balanced ('$' :: (name.chars ++ ('(' :: args.chars ++ [')']))) :=
      .cons (by decide) (name.balanced.append args.balanced.parentheses)
    simpa [Operand.chars] using hcall

theorem Tail.balanced : ∀ t : Tail, Balanced t.chars
  | .nil => .nil
  | .more before op after operand _ rest =>
    (((before.balanced.append (balanced_symbol op)).append after.balanced).append
      operand.balanced).append rest.balanced

theorem Level.balanced : ∀ l : Level, Balanced l.chars
  | .text t => .quotes t.isQuote t.free
  | .chain first rest => first.balanced.append rest.balanced

theorem Padded.balanced : ∀ p : Padded, Balanced p.chars
  | .mk before level after => (before.balanced.append level.balanced).append after.balanced

theorem Arguments.balanced : ∀ args : Arguments, Balanced args.chars
  | .none blanks => blanks.balanced
  | .some levels => levels.balanced

theorem Levels.balanced : ∀ levels : Levels, Balanced levels.chars
  | .last level => level.balanced
  | .more level rest => level.balanced.append (.cons (by decide) rest.balanced)

end

/-- The text of a call ends with the parenthesis that matches the one behind its name. -/
theorem isCallText_call (name : MethodName) (args : Arguments) :
    IsCallText (String.ofList (Operand.call name args).chars) (String.ofList name.chars) := by
  refine ⟨args.chars ++ [')'], ?_, args.balanced.afterMatch_eq []⟩
  simp [Operand.chars]

end Written

end Formulary
