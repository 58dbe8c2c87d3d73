-- The longest text and the methods of the Text plugin. Repetition alone looks at the limit. Pieces,
-- capitals and trimming keep to it because they make no longer text than they are given, and the
-- other methods that make a text go beyond it.
import Formulary.Proofs.Signatures
import Formulary.Proofs.TextGrowth
import Formulary.Proofs.TextSizes
import Formulary.Proofs.WholeArguments

namespace Formulary.Builtin

open Method

/-! ## Methods that keep to the limit -/

/-- No text of an admitted argument is too long. -/
def Bounded (args : List Value) : Prop :=
  ∀ t : String, .text t ∈ args → t.utf8ByteSize ≤ maxTextBytes

/-- From texts that are not too long the method makes none that is. -/
def KeepsLimit (m : Method) : Prop :=
  ∀ (args : List Value) (s : String), Accepts m.inputs args → Bounded args →
    m.run args = .ok (.text s) → s.utf8ByteSize ≤ maxTextBytes

variable {args : List Value} {i : Nat} {s t : String}

theorem mem_of_textArg (h : textArg args i = .ok t) : .text t ∈ args := by
  obtain ⟨v, hv, hcontent⟩ := exists_of_bind_eq_ok h
  unfold argument at hv
  split at hv
  · rename_i w hw
    cases hv
    cases v with
    | text s =>
      cases hcontent
      exact List.mem_of_getElem? hw
    | _ => cases hcontent
  · cases hv

/-- A method that makes no longer text of its first argument. -/
theorem keepsLimit_textMethod {name description : String} {f : String → String}
    (h : ∀ t, (f t).utf8ByteSize ≤ t.utf8ByteSize) :
    KeepsLimit (textMethod name description f) := by
  intro args s _ hbounded hrun
  obtain ⟨t, ht, hs⟩ := exists_of_bind_eq_ok hrun
  cases hs
  exact (h t).trans (hbounded t (mem_of_textArg ht))

theorem slice_bounded (ht : t.utf8ByteSize ≤ maxTextBytes) (start count : Nat) :
    (String.ofList (Text.slice t.toList start count)).utf8ByteSize ≤ maxTextBytes := by
  rw [String.utf8ByteSize_ofList]
  refine (Text.utf8Len_slice_le t.toList start count).trans ?_
  rwa [utf8Len_toList]

theorem keepsLimit_midMethod : KeepsLimit midMethod := by
  intro args s _ hbounded hrun
  obtain ⟨t, ht, hrun⟩ := exists_of_bind_eq_ok hrun
  obtain ⟨start, -, hrun⟩ := exists_of_bind_eq_ok hrun
  obtain ⟨count, -, hs⟩ := exists_of_bind_eq_ok hrun
  cases hs
  exact slice_bounded (hbounded t (mem_of_textArg ht)) start count

theorem keepsLimit_leftMethod : KeepsLimit leftMethod := by
  intro args s _ hbounded hrun
  obtain ⟨t, ht, hrun⟩ := exists_of_bind_eq_ok hrun
  obtain ⟨count, -, hs⟩ := exists_of_bind_eq_ok hrun
  cases hs
  exact slice_bounded (hbounded t (mem_of_textArg ht)) 0 count

theorem keepsLimit_rightMethod : KeepsLimit rightMethod := by
  intro args s _ hbounded hrun
  obtain ⟨t, ht, hrun⟩ := exists_of_bind_eq_ok hrun
  obtain ⟨count, -, hs⟩ := exists_of_bind_eq_ok hrun
  cases hs
  exact slice_bounded (hbounded t (mem_of_textArg ht)) _ count

/-- A method that makes no text at all. -/
theorem keepsLimit_of_output {m : Method} (hm : m ∈ text.methods)
    (houtput : m.output.accepts .text = false) : KeepsLimit m := by
  intro args s haccepts _ hrun
  have hfits := (keeps_of_mem_text hm haccepts).fits _ hrun
  exact absurd hfits (by rw [Value.type, houtput]; decide)

/-! ## Repetition -/

/-- A text that is not too long when it is repeated, is repeated, and any other is refused. -/
theorem repeatText_eq (t : String) (count : Nat) : repeatText t count =
    if t.utf8ByteSize * count ≤ maxTextBytes then .ok (String.join (List.replicate count t))
    else .error (.invalidData "count") := by
  unfold repeatText
  by_cases hlong : maxTextBytes < t.utf8ByteSize * count
  · rw [if_pos hlong, if_neg (Nat.not_le.mpr hlong)]
  · rw [if_neg hlong, if_pos (Nat.not_lt.mp hlong)]
    by_cases hempty : t.isEmpty = true
    · have hjoined : String.join (List.replicate count t) = "" := by
        rw [← String.utf8ByteSize_eq_zero_iff, utf8ByteSize_replicate, String.isEmpty_iff.mp hempty]
        exact Nat.zero_mul count
      rw [if_pos hempty, hjoined]
    · rw [if_neg hempty, repeatOnto_eq, String.empty_append]

theorem keepsLimit_repeatMethod : KeepsLimit repeatMethod := by
  intro args s _ hbounded hrun
  obtain ⟨t, -, hrun⟩ := exists_of_bind_eq_ok hrun
  obtain ⟨count, -, hrun⟩ := exists_of_bind_eq_ok hrun
  rw [repeatText_eq] at hrun
  split at hrun
  · rename_i hfits
    cases hrun
    rwa [utf8ByteSize_replicate]
  · cases hrun

/-- A count that repetition takes: it fits 64 bits, and the whole is not too long. -/
def Repeatable (t : String) (n : ℤ) : Prop :=
  0 ≤ n ∧ n < 2 ^ 63 ∧ n * t.utf8ByteSize ≤ maxTextBytes

/-- So many times the text in a row, or a fault if that cannot be. -/
structure Repeats (t : String) (n : ℤ) (result : Except Fault Value) : Prop where
  repeated : Repeatable t n → result = .ok (.text (String.join (List.replicate n.toNat t)))
  refused : ¬ Repeatable t n → result = .error (.invalidData "count")

theorem run_repeatMethod (t : String) (x : Decimal) : repeatMethod.run [.text t, .number x] =
    countArg "count" [.text t, .number x] 1 >>= fun count => Value.text <$> repeatText t count :=
  rfl

theorem repeats_of_neg {x : Decimal} {n : ℤ} (hx : x.toRat = n) (hn : n < 0) :
    Repeats t n (repeatMethod.run [.text t, .number x]) where
  repeated := fun h => absurd h.1 (not_le.mpr hn)
  refused := by
    intro _
    rw [run_repeatMethod, countArg_of_neg rfl hx hn]
    rfl

theorem repeats_of_count {x : Decimal} {n : Nat} (hx : x.toRat = n) :
    Repeats t n (repeatMethod.run [.text t, .number x]) := by
  have hsize : (n : ℤ) * t.utf8ByteSize ≤ maxTextBytes ↔ t.utf8ByteSize * n ≤ maxTextBytes := by
    rw [mul_comm]
    exact_mod_cast Iff.rfl
  rw [run_repeatMethod, countArg_of_toRat rfl hx]
  constructor
  · rintro ⟨-, hcount, hfits⟩
    rw [if_pos (by omega), ok_bind, repeatText_eq, if_pos (hsize.mp hfits)]
    rfl
  · intro hnot
    by_cases hcount : n < 2 ^ 63
    · have hlong : ¬ t.utf8ByteSize * n ≤ maxTextBytes := fun hfits =>
        hnot ⟨Int.natCast_nonneg n, by omega, hsize.mpr hfits⟩
      rw [if_pos hcount, ok_bind, repeatText_eq, if_neg hlong]
      rfl
    · rw [if_neg hcount]
      rfl

theorem repeats_repeatMethod (t : String) {x : Decimal} {n : ℤ} (hx : x.toRat = n) :
    Repeats t n (repeatMethod.run [.text t, .number x]) := by
  rcases lt_or_ge n 0 with hneg | hpos
  · exact repeats_of_neg hx hneg
  · obtain ⟨count, rfl⟩ := Int.eq_ofNat_of_zero_le hpos
    exact repeats_of_count (by rw [hx, Int.cast_natCast])

/-! ## Methods that go beyond the limit -/

theorem bounded_cons {v : Value} : Bounded (v :: args) ↔
    (∀ t, v = .text t → t.utf8ByteSize ≤ maxTextBytes) ∧ Bounded args := by
  unfold Bounded
  constructor
  · intro h
    exact ⟨fun t ht => h t (ht ▸ List.mem_cons_self), fun t ht => h t (List.mem_cons_of_mem v ht)⟩
  · rintro ⟨hfirst, hrest⟩ t ht
    rcases List.mem_cons.mp ht with rfl | ht
    · exact hfirst t rfl
    · exact hrest t ht

theorem bounded_nil : Bounded [] := nofun

theorem bounded_text (h : t.utf8ByteSize ≤ maxTextBytes) (hargs : Bounded args) :
    Bounded (.text t :: args) := by
  refine bounded_cons.mpr ⟨?_, hargs⟩
  rintro _ ⟨⟩
  exact h

/-- A method that makes three bytes of the two that a character has. -/
theorem not_keepsLimit_textMethod {name description : String} {f : String → String} {c : Char}
    (hc : c.utf8Size = 2) (hgrows : ∀ count, (f (copies count c)).utf8ByteSize = 3 * count) :
    ¬ KeepsLimit (textMethod name description f) := by
  intro h
  have hsize : (copies 5242880 c).utf8ByteSize ≤ maxTextBytes := by
    rw [utf8ByteSize_copies, hc]
    decide
  have haccepts : Accepts (textMethod name description f).inputs [.text (copies 5242880 c)] :=
    ⟨Nat.le_refl 1, Nat.le_refl 1, typesFit_cons.mpr ⟨accepts_type (.text _), typesFit_nil _⟩⟩
  have hkept := h _ _ haccepts (bounded_text hsize bounded_nil) rfl
  rw [hgrows] at hkept
  exact absurd hkept (by decide)

/-- A text of the longest size. -/
theorem utf8ByteSize_full {c : Char} (hc : c.utf8Size = 1) :
    (copies maxTextBytes c).utf8ByteSize = maxTextBytes := by
  rw [utf8ByteSize_copies, hc, Nat.one_mul]

theorem not_keepsLimit_concatMethod : ¬ KeepsLimit concatMethod := by
  intro h
  have hfull := utf8ByteSize_full (c := 'a') rfl
  have haccepts : Accepts concatMethod.inputs [.text (copies maxTextBytes 'a'), .text "a"] :=
    ⟨Nat.le_refl 2, Nat.le_refl 2, typesFit_cons.mpr ⟨accepts_type (.text _),
      typesFit_cons.mpr ⟨accepts_type (.text _), typesFit_nil _⟩⟩⟩
  have hbounded : Bounded [.text (copies maxTextBytes 'a'), .text "a"] :=
    bounded_text hfull.le (bounded_text (by decide) bounded_nil)
  have hkept := h _ _ haccepts hbounded rfl
  rw [String.utf8ByteSize_append, hfull] at hkept
  exact absurd hkept (by decide)

theorem run_replaceMethod {old new : String} {pattern : TextPattern.Compiled}
    (hread : TextPattern.read? old = some pattern) :
    replaceMethod.run [.text t, .text old, .text new] =
      .ok (.text (TextPattern.replaceAll pattern t new)) := by
  have ht : textArg [.text t, .text old, .text new] 0 = .ok t := rfl
  have hold : textArg [.text t, .text old, .text new] 1 = .ok old := rfl
  have hnew : textArg [.text t, .text old, .text new] 2 = .ok new := rfl
  simp only [replaceMethod, ht, hold, hnew, hread, ok_bind]
  rfl

theorem not_keepsLimit_replaceMethod : ¬ KeepsLimit replaceMethod := by
  intro h
  have hfull := utf8ByteSize_full (c := 'b') rfl
  have haccepts : Accepts replaceMethod.inputs
      [.text "aa", .text "a", .text (copies maxTextBytes 'b')] :=
    ⟨Nat.le_refl 3, Nat.le_refl 3, typesFit_cons.mpr ⟨accepts_type (.text _),
      typesFit_cons.mpr ⟨accepts_type (.text _), typesFit_cons.mpr ⟨accepts_type (.text _),
        typesFit_nil _⟩⟩⟩⟩
  have hbounded : Bounded [.text "aa", .text "a", .text (copies maxTextBytes 'b')] :=
    bounded_text (by decide) (bounded_text (by decide) (bounded_text hfull.le bounded_nil))
  have hkept := h _ _ haccepts hbounded (run_replaceMethod TextPattern.read?_letter)
  rw [TextPattern.utf8ByteSize_replaceAll_letters] at hkept
  exact absurd hkept (by decide)

theorem run_textConversion_number (x : Decimal) :
    textConversion.run [.number x] = .ok (.text x.normalized.toText) := rfl

theorem not_keepsLimit_textConversion : ¬ KeepsLimit textConversion := by
  intro h
  have haccepts : Accepts textConversion.inputs [.number ⟨10 ^ maxTextBytes + 1, 0⟩] :=
    ⟨Nat.le_refl 1, Nat.le_refl 1, typesFit_cons.mpr ⟨accepts_value (.number _), typesFit_nil _⟩⟩
  have hbounded : Bounded [.number ⟨10 ^ maxTextBytes + 1, 0⟩] :=
    bounded_cons.mpr ⟨nofun, bounded_nil⟩
  have hkept := h _ _ haccepts hbounded (run_textConversion_number _)
  exact absurd hkept (Nat.not_le.mpr (Decimal.lt_utf8ByteSize_toText (by decide)))

/-! ## The law -/

/-- The methods that make a text without a look at its length. -/
def unlimitedMethods : List String := ["text", "concat", "lower", "upper", "replace"]

theorem keepsLimit_iff {m : Method} (hm : m ∈ text.methods) :
    KeepsLimit m ↔ m.name ∉ unlimitedMethods := by
  have hnames : m ∈ text.methods := hm
  simp only [text, List.mem_cons, List.not_mem_nil, or_false] at hm
  rcases hm with rfl | rfl | rfl | rfl | rfl | rfl | rfl | rfl | rfl | rfl | rfl | rfl | rfl | rfl
  · exact iff_of_false not_keepsLimit_textConversion (by decide)
  · exact iff_of_false not_keepsLimit_concatMethod (by decide)
  · exact iff_of_true (keepsLimit_of_output hnames (by decide)) (by decide)
  · exact iff_of_true (keepsLimit_of_output hnames (by decide)) (by decide)
  · exact iff_of_true keepsLimit_midMethod (by decide)
  · exact iff_of_true keepsLimit_leftMethod (by decide)
  · exact iff_of_true keepsLimit_rightMethod (by decide)
  · exact iff_of_true (keepsLimit_of_output hnames (by decide)) (by decide)
  · exact iff_of_false (not_keepsLimit_textMethod rfl Text.utf8ByteSize_lowercase_strokes)
      (by decide)
  · exact iff_of_false (not_keepsLimit_textMethod rfl Text.utf8ByteSize_uppercase_apostrophes)
      (by decide)
  · exact iff_of_true (keepsLimit_textMethod fun t => (Text.utf8ByteSize_capitalizeWords t).le)
      (by decide)
  · exact iff_of_false not_keepsLimit_replaceMethod (by decide)
  · exact iff_of_true keepsLimit_repeatMethod (by decide)
  · exact iff_of_true (keepsLimit_textMethod utf8ByteSize_trimSpaces_le) (by decide)

/-- The law of the longest text. Pieces, repetition, capitals and trimming make no text beyond the
limit of texts within it, and the other five methods that make a text do. Repetition succeeds just
where the whole is within the limit, and then the text stands so many times in a row. -/
theorem text_limits {m : Method} (hm : m ∈ text.methods) (t : String) {x : Decimal} {n : ℤ}
    (hx : x.toRat = n) : (KeepsLimit m ↔ m.name ∉ unlimitedMethods) ∧
      Repeats t n (repeatMethod.run [.text t, .number x]) :=
  ⟨keepsLimit_iff hm, repeats_repeatMethod t hx⟩

/-- Repetition is one of the methods that keep to the limit. -/
theorem text_limits_repeat : repeatMethod ∈ text.methods ∧ KeepsLimit repeatMethod ∧
    (Decimal.ofInt 3).toRat = (3 : ℤ) ∧ Repeatable "ab" 3 ∧
    repeatMethod.run [.text "ab", .number (.ofInt 3)] = .ok (.text "ababab") := by
  have hm : repeatMethod ∈ text.methods := by
    simp only [text, List.mem_cons, true_or, or_true]
  have hthree := Decimal.toRat_ofInt 3
  have hfits : Repeatable "ab" 3 := ⟨by decide, by decide, by decide⟩
  have hjoined : String.join (List.replicate (3 : ℤ).toNat "ab") = "ababab" := by decide
  obtain ⟨hlimit, hrepeats⟩ := text_limits hm "ab" hthree
  have hrun := hrepeats.repeated hfits
  rw [hjoined] at hrun
  exact ⟨hm, hlimit.mpr (by decide), hthree, hfits, hrun⟩

/-- Not every method looks at the limit: one more letter can be put behind a text of the longest
size. -/
theorem not_all_keep_limit : (copies maxTextBytes 'a').utf8ByteSize = maxTextBytes ∧
    concatMethod.run [.text (copies maxTextBytes 'a'), .text "a"] =
      .ok (.text (copies maxTextBytes 'a' ++ "a")) ∧
    (copies maxTextBytes 'a' ++ "a").utf8ByteSize = maxTextBytes + 1 ∧
    ¬ ∀ m ∈ text.methods, KeepsLimit m := by
  have hfull := utf8ByteSize_full (c := 'a') rfl
  have hm : concatMethod ∈ text.methods := by
    simp only [text, List.mem_cons, true_or, or_true]
  refine ⟨hfull, rfl, ?_, fun h => not_keepsLimit_concatMethod (h concatMethod hm)⟩
  rw [String.utf8ByteSize_append, hfull]
  rfl

end Formulary.Builtin
