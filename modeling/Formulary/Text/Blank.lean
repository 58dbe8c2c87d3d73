-- Blank characters, and texts without the blanks at their ends.
namespace Formulary.Text

/-- The characters of the Unicode property White_Space. -/
def isBlank (c : Char) : Bool :=
  let n := c.toNat
  (0x9 ≤ n && n ≤ 0xD) || n == 0x20 || n == 0x85 || n == 0xA0 || n == 0x1680 ||
    (0x2000 ≤ n && n ≤ 0x200A) || n == 0x2028 || n == 0x2029 || n == 0x202F ||
    n == 0x205F || n == 0x3000

/-- The characters from the first one that is not blank. -/
def trimStart (cs : List Char) : List Char := cs.dropWhile isBlank

/-- The characters up to the last one that is not blank. -/
def trimEnd (cs : List Char) : List Char := (trimStart cs.reverse).reverse

def trimChars (cs : List Char) : List Char := trimEnd (trimStart cs)

/-- A text without the blanks at both ends. -/
def trim (text : String) : String := String.ofList (trimChars text.toList)

theorem isBlank_of_isDigit {c : Char} (h : c.isDigit = true) : isBlank c = false := by
  have hc : 48 ≤ c.toNat ∧ c.toNat ≤ 57 := by
    simpa [Char.isDigit, UInt32.le_iff_toNat_le] using h
  simp [isBlank]
  omega

/-! ## Nothing is left to trim -/

/-- Nothing is taken off characters that do not begin with a blank. -/
theorem trimStart_eq_self_iff {cs : List Char} :
    trimStart cs = cs ↔ ∀ c ∈ cs.head?, isBlank c = false := by
  unfold trimStart
  cases cs with
  | nil => simp
  | cons c rest =>
    by_cases hc : isBlank c = true
    · have hle : (rest.dropWhile isBlank).length ≤ rest.length :=
        (List.dropWhile_sublist isBlank).length_le
      simp only [List.dropWhile_cons_of_pos hc, List.head?_cons, Option.mem_def, Option.some.injEq,
        forall_eq', hc, reduceCtorEq, iff_false]
      intro h
      rw [h, List.length_cons] at hle
      omega
    · simp [List.dropWhile_cons_of_neg hc, hc]

theorem trimStart_trimStart (cs : List Char) : trimStart (trimStart cs) = trimStart cs := by
  rw [trimStart_eq_self_iff]
  intro c hc
  have h := List.head?_dropWhile_not isBlank cs
  rw [Option.mem_def, trimStart] at hc
  rwa [hc] at h

theorem trimEnd_trimEnd (cs : List Char) : trimEnd (trimEnd cs) = trimEnd cs := by
  unfold trimEnd
  rw [List.reverse_reverse, trimStart_trimStart]

theorem trimEnd_prefix (cs : List Char) : trimEnd cs <+: cs := by
  have h : trimStart cs.reverse <:+ cs.reverse := List.dropWhile_suffix isBlank
  rwa [← List.reverse_prefix, List.reverse_reverse] at h

/-- Blanks at the end have nothing to do with the first character that is not blank. -/
theorem trimStart_trimEnd {cs : List Char} (h : trimStart cs = cs) :
    trimStart (trimEnd cs) = trimEnd cs := by
  rw [trimStart_eq_self_iff] at h ⊢
  intro c hc
  obtain ⟨rest, hrest⟩ := trimEnd_prefix cs
  apply h c
  rw [← hrest, Option.mem_def, List.head?_append, Option.mem_def.mp hc]
  rfl

/-- A text that has been trimmed is trimmed. -/
theorem trim_trim (text : String) : trim (trim text) = trim text := by
  unfold trim trimChars
  rw [String.toList_ofList, trimStart_trimEnd (trimStart_trimStart text.toList), trimEnd_trimEnd]

/-! ## What is trimmed off -/

/-- Nothing is taken off characters that neither begin nor end with a blank. -/
theorem trimChars_eq_self {cs : List Char} (hfirst : ∀ c ∈ cs.head?, isBlank c = false)
    (hlast : ∀ c ∈ cs.getLast?, isBlank c = false) : trimChars cs = cs := by
  have hback : trimStart cs.reverse = cs.reverse := by
    rw [trimStart_eq_self_iff, List.head?_reverse]
    exact hlast
  rw [trimChars, trimStart_eq_self_iff.mpr hfirst, trimEnd, hback, List.reverse_reverse]

/-- A text between two characters that are not blank is trimmed. -/
theorem trim_between {first last : Char} (hfirst : isBlank first = false)
    (hlast : isBlank last = false) (inner : List Char) :
    trim (String.ofList (first :: inner ++ [last])) = String.ofList (first :: inner ++ [last]) := by
  unfold trim
  rw [String.toList_ofList, trimChars_eq_self]
  · rintro c ⟨⟩
    exact hfirst
  · rw [List.getLast?_append]
    rintro c ⟨⟩
    exact hlast

/-- Blanks in front have no part in what is left. -/
theorem trimStart_append {blanks : List Char} (h : ∀ c ∈ blanks, isBlank c = true)
    (cs : List Char) : trimStart (blanks ++ cs) = trimStart cs :=
  List.dropWhile_append_of_pos h

theorem trim_append {blanks : String} (h : ∀ c ∈ blanks.toList, isBlank c = true) (text : String) :
    trim (blanks ++ text) = trim text := by
  rw [trim, trim, trimChars, trimChars, String.toList_append, trimStart_append h]

/-- Characters that are not blank are left of the blanks around them. -/
theorem trimChars_around {before cs after : List Char} (hbefore : ∀ c ∈ before, isBlank c = true)
    (hafter : ∀ c ∈ after, isBlank c = true) (hcs : ∀ c ∈ cs, isBlank c = false) :
    trimChars (before ++ (cs ++ after)) = cs := by
  have hend : trimEnd (cs ++ after) = cs := by
    have hback : ∀ c ∈ after.reverse, isBlank c = true := fun c hc =>
      hafter c (List.mem_reverse.mp hc)
    have hself : trimStart cs.reverse = cs.reverse := by
      rw [trimStart_eq_self_iff]
      intro c hc
      exact hcs c (List.mem_reverse.mp (List.mem_of_mem_head? hc))
    rw [trimEnd, List.reverse_append, trimStart_append hback, hself, List.reverse_reverse]
  rw [trimChars, trimStart_append hbefore]
  cases cs with
  | nil =>
    rw [List.nil_append, ← List.append_nil after, trimStart_append hafter]
    rfl
  | cons c rest =>
    have hself : trimStart (c :: rest ++ after) = c :: rest ++ after := by
      rw [trimStart_eq_self_iff]
      rintro d ⟨⟩
      exact hcs c List.mem_cons_self
    rw [hself, hend]

/-- A text is what is left of it when it is trimmed, between two runs of blanks. -/
theorem exists_blanks_trim (text : String) : ∃ before after,
    (∀ c ∈ before, isBlank c = true) ∧ (∀ c ∈ after, isBlank c = true) ∧
      text.toList = before ++ ((trim text).toList ++ after) := by
  refine ⟨text.toList.takeWhile isBlank,
    ((trimStart text.toList).reverse.takeWhile isBlank).reverse, ?_, ?_, ?_⟩
  · exact fun c hc => (List.all_eq_true.mp List.all_takeWhile) c hc
  · exact fun c hc => (List.all_eq_true.mp List.all_takeWhile) c (List.mem_reverse.mp hc)
  · have hend : trimEnd (trimStart text.toList) ++
        ((trimStart text.toList).reverse.takeWhile isBlank).reverse = trimStart text.toList := by
      rw [trimEnd, trimStart, ← List.reverse_append, List.takeWhile_append_dropWhile,
        List.reverse_reverse]
    rw [trim, trimChars, String.toList_ofList, hend, trimStart, List.takeWhile_append_dropWhile]

end Formulary.Text
