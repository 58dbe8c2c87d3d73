-- What is left of a text that is trimmed. Blanks of any kind are taken off the ends, and of the
-- spaces inside one is left wherever there are some. Other blanks inside are characters like all
-- others, so a space beside a tab stays.
import Formulary.Proofs.TextSizes

namespace Formulary

namespace Text

/-! ## Spaces and other characters -/

/-- The characters that are no spaces. -/
def solid (cs : List Char) : List Char := cs.filter (· ≠ ' ')

/-- Of the characters that are no spaces, the one with the number `n` and the next one have a space
between them. -/
def SpaceAfter (cs : List Char) (n : Nat) : Prop :=
  ∃ before after, cs = before ++ ' ' :: after ∧ (solid before).length = n + 1 ∧ solid after ≠ []

/-- No blank stands at either end. -/
def Flush (cs : List Char) : Prop :=
  (∀ c ∈ cs.head?, isBlank c = false) ∧ ∀ c ∈ cs.getLast?, isBlank c = false

/-- The middle one of three parts is the whole without the blanks at its ends. -/
structure Stripped (cs before core after : List Char) : Prop where
  whole : cs = before ++ (core ++ after)
  front : ∀ c ∈ before, isBlank c = true
  back : ∀ c ∈ after, isBlank c = true
  flush : Flush core

/-- What the trimmed text `out` has of a text. -/
structure Trimmed (text out : String) : Prop where
  flush : Flush out.toList
  /-- No two spaces stand side by side. -/
  single : ¬ [' ', ' '] <:+: out.toList
  /-- All characters between the blanks at the ends are there, but for spaces, and there are spaces
  where the text has them. -/
  kept : ∃ before core after, Stripped text.toList before core after ∧
    solid out.toList = solid core ∧
      ∀ n, n + 1 < (solid core).length →
        (SpaceAfter out.toList n ↔ SpaceAfter text.toList ((solid before).length + n))

theorem solid_append (left right : List Char) : solid (left ++ right) = solid left ++ solid right :=
  List.filter_append left right

theorem ne_space_of_isBlank {c : Char} (h : isBlank c = false) : c ≠ ' ' := by
  rintro rfl
  exact absurd h (by decide)

theorem head?_solid {cs : List Char} (h : ∀ c ∈ cs.head?, c ≠ ' ') :
    (solid cs).head? = cs.head? := by
  cases cs with
  | nil => rfl
  | cons c rest =>
    have hsolid : c ≠ ' ' := h c rfl
    rw [solid, List.filter_cons_of_pos (by simpa using hsolid)]
    rfl

theorem getLast?_solid {cs : List Char} (h : ∀ c ∈ cs.getLast?, c ≠ ' ') :
    (solid cs).getLast? = cs.getLast? := by
  rw [← List.head?_reverse] at h ⊢
  rw [← List.head?_reverse, solid, ← List.filter_reverse]
  exact head?_solid h

/-- The spaces between the characters of a part are those that the whole has there. -/
theorem spaceAfter_part (before core after : List Char) {n : Nat}
    (hn : n + 1 < (solid core).length) :
    SpaceAfter (before ++ (core ++ after)) ((solid before).length + n) ↔ SpaceAfter core n := by
  constructor
  · rintro ⟨left, right, heq, hlength, -⟩
    -- By the number of characters before it, the space stands neither in front of the part nor
    -- behind it.
    obtain ⟨inner, rfl, hinner⟩ | ⟨rest, rfl, -⟩ := List.append_eq_append_iff.mp heq
    · rw [solid_append, List.length_append] at hlength
      obtain ⟨rest, rfl, -⟩ | ⟨rest, rfl, hrest⟩ := List.append_eq_append_iff.mp hinner
      · rw [solid_append, List.length_append] at hlength
        omega
      · rw [solid_append, List.length_append] at hn
        cases rest with
        | nil =>
          simp only [solid, List.filter_nil, List.length_nil] at hn hlength
          omega
        | cons c rest =>
          obtain ⟨rfl, -⟩ := List.cons.inj hrest
          refine ⟨inner, rest, rfl, by omega, fun hnone => ?_⟩
          have hspace : solid (' ' :: rest) = [] := hnone
          rw [hspace, List.length_nil] at hn
          omega
    · rw [solid_append, List.length_append] at hlength
      omega
  · rintro ⟨left, right, rfl, hlength, hright⟩
    refine ⟨before ++ left, right ++ after, ?_, ?_, ?_⟩
    · simp only [List.append_assoc, List.cons_append]
    · rw [solid_append, List.length_append, hlength, Nat.add_assoc]
    · rw [solid_append]
      exact List.append_ne_nil_of_left_ne_nil hright _

/-! ## Words -/

/-- The runs of characters between spaces that are not empty. -/
def words (cs : List Char) : List (List Char) := (splitSpaces cs).filter (· ≠ [])

theorem splitSpaces_append (left right : List Char) :
    splitSpaces (left ++ ' ' :: right) = splitSpaces left ++ splitSpaces right := by
  rw [splitSpaces_eq, splitSpaces_eq, splitSpaces_eq, List.splitOn_append_cons_self]

theorem flatten_splitSpaces (cs : List Char) : (splitSpaces cs).flatten = solid cs := by
  rw [splitSpaces_eq]
  induction cs with
  | nil => rfl
  | cons c cs ih =>
    obtain ⟨word, rest, hwords⟩ := List.exists_cons_of_ne_nil (List.splitOn_ne_nil ' ' cs)
    rw [hwords] at ih
    rw [List.splitOn_cons_eq_if_modifyHead, hwords]
    by_cases hspace : c = ' '
    · simpa [solid, hspace] using ih
    · simpa [solid, hspace] using ih

theorem flatten_words (cs : List Char) : (words cs).flatten = solid cs := by
  rw [words, List.flatten_filter_ne_nil, flatten_splitSpaces]

theorem not_mem_of_mem_splitSpaces {cs word : List Char} (h : word ∈ splitSpaces cs) :
    ' ' ∉ word := by
  intro hspace
  have hmem : ' ' ∈ solid cs := by
    rw [← flatten_splitSpaces]
    exact List.mem_flatten_of_mem h hspace
  exact absurd rfl (of_decide_eq_true (List.mem_filter.mp hmem).2)

theorem splitSpaces_intercalate {pieces : List (List Char)} (hne : pieces ≠ [])
    (hpieces : ∀ piece ∈ pieces, ' ' ∉ piece) :
    splitSpaces ([' '].intercalate pieces) = pieces := by
  rw [splitSpaces_eq, List.splitOn_intercalate ' ' hpieces hne]

/-- Where two words meet, there is a space between the last character of the one and the first
character of the other. -/
theorem spaceAfter_iff {cs : List Char} {n : Nat} : SpaceAfter cs n ↔
    ∃ left right, words cs = left ++ right ∧ left.flatten.length = n + 1 ∧ right ≠ [] := by
  constructor
  · rintro ⟨before, after, rfl, hlength, hafter⟩
    refine ⟨words before, words after, ?_, ?_, ?_⟩
    · rw [words, splitSpaces_append, List.filter_append]
      rfl
    · rw [flatten_words, hlength]
    · intro hnone
      rw [← flatten_words, hnone] at hafter
      exact hafter rfl
  · rintro ⟨left, right, hwords, hlength, hright⟩
    -- The runs before the boundary and those after it, empty ones among them, are two texts.
    obtain ⟨first, second, hsplit, rfl, rfl⟩ := List.filter_eq_append_iff.mp hwords
    have hfirst : first ≠ [] := by
      rintro rfl
      cases hlength
    have hsecond : second ≠ [] := by
      rintro rfl
      exact hright rfl
    have hpieces : ∀ piece ∈ first ++ second, ' ' ∉ piece := fun piece hpiece =>
      not_mem_of_mem_splitSpaces (hsplit ▸ hpiece)
    have hbefore := splitSpaces_intercalate hfirst fun piece hpiece =>
      hpieces piece (List.mem_append_left second hpiece)
    have hafter := splitSpaces_intercalate hsecond fun piece hpiece =>
      hpieces piece (List.mem_append_right first hpiece)
    refine ⟨[' '].intercalate first, [' '].intercalate second, ?_, ?_, ?_⟩
    · rw [← intercalate_splitSpaces cs, hsplit, ← hbefore, ← hafter, ← splitSpaces_append,
        intercalate_splitSpaces, hbefore, hafter]
    · rw [← flatten_words, words, hbefore, hlength]
    · rw [← flatten_words, words, hafter]
      obtain ⟨word, hword⟩ := List.exists_mem_of_ne_nil _ hright
      have hne : word ≠ [] := of_decide_eq_true (List.mem_filter.mp hword).2
      intro hnone
      exact hne (List.flatten_eq_nil_iff.mp hnone word hword)

/-! ## Squeezed texts -/

theorem splitSpaces_squeeze {cs : List Char} (h : words cs ≠ []) :
    splitSpaces (squeeze cs) = words cs :=
  splitSpaces_intercalate h fun _ hword => not_mem_of_mem_splitSpaces (List.mem_of_mem_filter hword)

theorem words_squeeze (cs : List Char) : words (squeeze cs) = words cs := by
  by_cases hnone : words cs = []
  · have hempty : squeeze cs = [] := by
      change [' '].intercalate (words cs) = []
      rw [hnone]
      rfl
    rw [hempty, hnone]
    rfl
  · have hsplit := splitSpaces_squeeze hnone
    rw [words, hsplit, words, List.filter_filter]
    simp

theorem squeeze_squeeze (cs : List Char) : squeeze (squeeze cs) = squeeze cs :=
  congrArg [' '].intercalate (words_squeeze cs)

theorem solid_squeeze (cs : List Char) : solid (squeeze cs) = solid cs := by
  rw [← flatten_words, words_squeeze, flatten_words]

theorem spaceAfter_squeeze {cs : List Char} {n : Nat} :
    SpaceAfter (squeeze cs) n ↔ SpaceAfter cs n := by
  rw [spaceAfter_iff, words_squeeze, ← spaceAfter_iff]

/-- On both sides of a space in a squeezed text there are words, and nothing else. -/
theorem not_nil_mem_of_squeeze_eq {cs before after : List Char}
    (h : squeeze cs = before ++ ' ' :: after) :
    [] ∉ splitSpaces before ∧ [] ∉ splitSpaces after := by
  have hwords : words cs ≠ [] := by
    intro hnone
    change [' '].intercalate (words cs) = _ at h
    rw [hnone] at h
    exact absurd h.symm (List.append_ne_nil_of_right_ne_nil before (List.cons_ne_nil ' ' after))
  have hsplit := splitSpaces_squeeze hwords
  rw [h, splitSpaces_append] at hsplit
  have hnil : [] ∉ splitSpaces before ++ splitSpaces after := by
    rw [hsplit]
    intro hmem
    exact absurd rfl (of_decide_eq_true (List.mem_filter.mp hmem).2)
  exact ⟨fun hmem => hnil (List.mem_append_left _ hmem),
    fun hmem => hnil (List.mem_append_right _ hmem)⟩

theorem not_double_space_squeeze (cs : List Char) : ¬ [' ', ' '] <:+: squeeze cs := by
  rintro ⟨before, after, h⟩
  have hspace : squeeze cs = before ++ ' ' :: ([] ++ ' ' :: after) := by
    rw [← h, List.append_assoc]
    rfl
  have hafter := (not_nil_mem_of_squeeze_eq hspace).2
  rw [splitSpaces_append] at hafter
  exact hafter List.mem_cons_self

theorem head?_squeeze {cs : List Char} (h : ∀ c ∈ cs.head?, c ≠ ' ') :
    (squeeze cs).head? = cs.head? := by
  have hhead : ∀ c ∈ (squeeze cs).head?, c ≠ ' ' := by
    rintro c hc rfl
    obtain ⟨rest, hrest⟩ := List.head?_eq_some_iff.mp hc
    have hspace : squeeze cs = [] ++ ' ' :: rest := hrest
    exact (not_nil_mem_of_squeeze_eq hspace).1 List.mem_cons_self
  rw [← head?_solid hhead, solid_squeeze, head?_solid h]

theorem getLast?_squeeze {cs : List Char} (h : ∀ c ∈ cs.getLast?, c ≠ ' ') :
    (squeeze cs).getLast? = cs.getLast? := by
  have hlast : ∀ c ∈ (squeeze cs).getLast?, c ≠ ' ' := by
    rintro c hc rfl
    obtain ⟨front, hfront⟩ := List.getLast?_eq_some_iff.mp hc
    exact (not_nil_mem_of_squeeze_eq hfront).2 List.mem_cons_self
  rw [← getLast?_solid hlast, solid_squeeze, getLast?_solid h]

theorem Flush.squeeze {cs : List Char} (h : Flush cs) : Flush (squeeze cs) := by
  obtain ⟨hfirst, hlast⟩ := h
  rw [Flush, head?_squeeze fun c hc => ne_space_of_isBlank (hfirst c hc),
    getLast?_squeeze fun c hc => ne_space_of_isBlank (hlast c hc)]
  exact ⟨hfirst, hlast⟩

/-! ## Trimmed texts -/

theorem flush_trimChars (cs : List Char) : Flush (trimChars cs) := by
  refine ⟨trimStart_eq_self_iff.mp (trimStart_trimEnd (trimStart_trimStart cs)), ?_⟩
  have hback : trimStart (trimChars cs).reverse = (trimChars cs).reverse :=
    List.reverse_eq_iff.mp (trimEnd_trimEnd (trimStart cs))
  rw [← List.head?_reverse]
  exact trimStart_eq_self_iff.mp hback

theorem exists_stripped (text : String) :
    ∃ before after, Stripped text.toList before (trim text).toList after := by
  obtain ⟨before, after, hfront, hback, hwhole⟩ := exists_blanks_trim text
  refine ⟨before, after, hwhole, hfront, hback, ?_⟩
  rw [trim, String.toList_ofList]
  exact flush_trimChars text.toList

end Text

namespace Builtin

open Text

theorem toList_trimSpaces (text : String) :
    (trimSpaces text).toList = squeeze (Text.trim text).toList := by
  rw [trimSpaces, Text.trim, String.toList_ofList, String.toList_ofList]

theorem trimmed_trimSpaces (text : String) : Trimmed text (trimSpaces text) := by
  obtain ⟨before, after, h⟩ := exists_stripped text
  constructor
  case flush =>
    rw [toList_trimSpaces]
    exact h.flush.squeeze
  case single =>
    rw [toList_trimSpaces]
    exact not_double_space_squeeze _
  case kept =>
    refine ⟨before, (Text.trim text).toList, after, h, ?_, fun n hn => ?_⟩
    · rw [toList_trimSpaces, solid_squeeze]
    · rw [toList_trimSpaces, spaceAfter_squeeze, h.whole, spaceAfter_part before _ after hn]

theorem trimSpaces_trimSpaces (text : String) : trimSpaces (trimSpaces text) = trimSpaces text := by
  obtain ⟨hfirst, hlast⟩ := (trimmed_trimSpaces text).flush
  have htrim : trimChars (trimSpaces text).toList = (trimSpaces text).toList :=
    trimChars_eq_self hfirst hlast
  rw [trimSpaces, htrim, toList_trimSpaces, squeeze_squeeze, ← toList_trimSpaces,
    String.ofList_toList]

/-- The law of trimming. The method `trim` gives every text its normal form: nothing blank at the
ends, one space wherever there are some between two characters, and all characters that are no
spaces. What has been trimmed stays as it is. -/
theorem trim_normalizes : ∃ method, text.methods.find? (·.name == "trim") = some method ∧
    ∀ t, ∃ out, method.run [.text t] = .ok (.text out) ∧ Trimmed t out ∧
      method.run [.text out] = .ok (.text out) := by
  refine ⟨textMethod "trim" "Strip outer spaces and collapse inner runs" trimSpaces, rfl,
    fun t => ⟨trimSpaces t, rfl, trimmed_trimSpaces t, ?_⟩⟩
  change Except.ok (Value.text (trimSpaces (trimSpaces t))) = _
  rw [trimSpaces_trimSpaces]

/-- A space beside a tab stays, and so does a tab inside. -/
example : trimSpaces "\t a   b \t\t  c \t" = "a b \t\t c" := by decide +kernel

end Builtin

end Formulary
