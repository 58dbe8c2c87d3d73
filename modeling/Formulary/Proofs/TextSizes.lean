-- How many bytes the texts have that are made of other texts. Pieces and squeezed texts are made of
-- characters of the text, capitals of English letters have one byte like the letters, and a
-- repeated text has its bytes so many times.
import Formulary.Builtin.Text
import Formulary.Proofs.Spans

namespace Formulary

open String (utf8Len)

namespace Text

/-! ## Pieces -/

theorem utf8Len_slice_le (cs : List Char) (start count : Nat) :
    utf8Len (slice cs start count) ≤ utf8Len cs :=
  String.utf8Len_le_of_sublist ((List.take_sublist _ _).trans (List.drop_sublist _ _))

theorem utf8Len_trimChars_le (cs : List Char) : utf8Len (trimChars cs) ≤ utf8Len cs := by
  have hfront := trimEnd_prefix (trimStart cs)
  exact String.utf8Len_le_of_sublist (hfront.sublist.trans (List.dropWhile_sublist isBlank))

/-! ## Words -/

theorem splitSpaces_eq (cs : List Char) : splitSpaces cs = cs.splitOn ' ' := by
  induction cs with
  | nil => rfl
  | cons c cs ih =>
    rw [List.splitOn_cons_eq_if_modifyHead, ← ih]
    unfold splitSpaces
    rw [List.foldr_cons]
    by_cases hspace : c = ' ' <;> simp [hspace]

/-- Between the words stand single spaces. -/
theorem intercalate_splitSpaces (cs : List Char) : [' '].intercalate (splitSpaces cs) = cs := by
  rw [splitSpaces_eq, List.intercalate_splitOn]

theorem utf8Len_intercalate (words : List (List Char)) :
    utf8Len ([' '].intercalate words) = utf8Len words.flatten + (words.length - 1) := by
  induction words with
  | nil => rfl
  | cons word words ih =>
    cases words with
    | nil => simp [List.intercalate]
    | cons next words =>
      have hspace : utf8Len [' '] = 1 := rfl
      rw [List.intercalate_cons_cons, String.utf8Len_append, String.utf8Len_append, ih, hspace,
        List.flatten_cons (l := word), String.utf8Len_append]
      simp only [List.length_cons]
      omega

/-- Fewer words make no longer text. -/
theorem utf8Len_squeeze_le (cs : List Char) : utf8Len (squeeze cs) ≤ utf8Len cs := by
  have hfewer : ((splitSpaces cs).filter (· ≠ [])).Sublist (splitSpaces cs) := List.filter_sublist
  have hlength := hfewer.length_le
  conv_rhs => rw [← intercalate_splitSpaces cs]
  rw [squeeze, utf8Len_intercalate, utf8Len_intercalate, List.flatten_filter_ne_nil]
  omega

/-! ## Capital letters -/

theorem utf8Size_eq_one {c : Char} (h : c.toNat ≤ 127) : c.utf8Size = 1 :=
  Char.utf8Size_eq_one_iff.mpr (UInt32.le_iff_toNat_le.mpr h)

theorem utf8Size_of_isAlpha {c : Char} (h : c.isAlpha = true) : c.utf8Size = 1 := by
  change (decide ('A'.val ≤ c.val ∧ c.val ≤ 'Z'.val) ||
    (decide ('a'.val ≤ c.val) && decide (c.val ≤ 'z'.val))) = true at h
  have hrange : 65 ≤ c.toNat ∧ c.toNat ≤ 90 ∨ 97 ≤ c.toNat ∧ c.toNat ≤ 122 := by
    simpa [UInt32.le_iff_toNat_le] using h
  exact utf8Size_eq_one (by omega)

theorem utf8Size_toUpper {c : Char} (h : c.isAlpha = true) : c.toUpper.utf8Size = 1 := by
  unfold Char.toUpper
  split
  · rename_i hlower
    have hrange : 97 ≤ c.toNat ∧ c.toNat ≤ 122 := by
      simpa [UInt32.le_iff_toNat_le] using hlower
    refine utf8Size_eq_one ?_
    simp
    omega
  · exact utf8Size_of_isAlpha h

theorem utf8Size_toLower {c : Char} (h : c.isAlpha = true) : c.toLower.utf8Size = 1 := by
  unfold Char.toLower
  split
  · rename_i hupper
    have hrange : 65 ≤ c.toNat ∧ c.toNat ≤ 90 := by
      simpa [UInt32.le_iff_toNat_le] using hupper
    refine utf8Size_eq_one ?_
    simp
    omega
  · exact utf8Size_of_isAlpha h

theorem utf8Len_map {f : Char → Char} {cs : List Char}
    (h : ∀ c ∈ cs, (f c).utf8Size = c.utf8Size) : utf8Len (cs.map f) = utf8Len cs := by
  induction cs with
  | nil => rfl
  | cons c cs ih =>
    rw [List.map_cons, String.utf8Len_cons, String.utf8Len_cons, h c List.mem_cons_self,
      ih fun d hd => h d (List.mem_cons_of_mem c hd)]

theorem utf8Len_capitalizeWord (word : List Char) :
    utf8Len (capitalizeWord word) = utf8Len word := by
  unfold capitalizeWord
  by_cases hword : word.all Char.isAlpha = true
  · rw [if_pos hword]
    rw [List.all_eq_true] at hword
    cases word with
    | nil => rfl
    | cons c rest =>
      have halpha := hword c List.mem_cons_self
      have hrest : utf8Len (rest.map Char.toLower) = utf8Len rest := by
        refine utf8Len_map fun d hd => ?_
        have hdalpha := hword d (List.mem_cons_of_mem c hd)
        rw [utf8Size_toLower hdalpha, utf8Size_of_isAlpha hdalpha]
      rw [String.utf8Len_cons, String.utf8Len_cons, hrest, utf8Size_toUpper halpha,
        utf8Size_of_isAlpha halpha]
  · rw [if_neg hword]

theorem utf8Len_capitalized (words : List (List Char)) :
    utf8Len (words.map capitalizeWord).flatten = utf8Len words.flatten := by
  induction words with
  | nil => rfl
  | cons word words ih =>
    rw [List.map_cons, List.flatten_cons, List.flatten_cons, String.utf8Len_append,
      String.utf8Len_append, utf8Len_capitalizeWord, ih]

theorem utf8ByteSize_capitalizeWords (text : String) :
    (capitalizeWords text).utf8ByteSize = text.utf8ByteSize := by
  rw [capitalizeWords, String.utf8ByteSize_ofList, utf8Len_intercalate, utf8Len_capitalized,
    List.length_map, ← utf8Len_intercalate, intercalate_splitSpaces, utf8Len_toList]

end Text

namespace Builtin

theorem utf8ByteSize_trimSpaces_le (text : String) :
    (trimSpaces text).utf8ByteSize ≤ text.utf8ByteSize := by
  rw [trimSpaces, String.utf8ByteSize_ofList, ← utf8Len_toList]
  exact (Text.utf8Len_squeeze_le _).trans (Text.utf8Len_trimChars_le _)

/-! ## Repetition -/

theorem repeatOnto_eq (text : String) (count : Nat) (out : String) :
    repeatOnto text count out = out ++ String.join (List.replicate count text) := by
  induction count generalizing out with
  | zero => simp [repeatOnto]
  | succ count ih =>
    rw [repeatOnto, ih, List.replicate_succ, String.join_cons, String.append_assoc]

theorem utf8ByteSize_replicate (text : String) (count : Nat) :
    (String.join (List.replicate count text)).utf8ByteSize = text.utf8ByteSize * count := by
  induction count with
  | zero => rfl
  | succ count ih =>
    rw [List.replicate_succ, String.join_cons, String.utf8ByteSize_append, ih, Nat.mul_succ,
      Nat.add_comm]

end Builtin

end Formulary
