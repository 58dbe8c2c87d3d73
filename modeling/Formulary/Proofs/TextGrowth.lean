-- Texts that grow without a limit: letters with more bytes in the other case, templates that are
-- longer than what they replace, and numbers of many digits. To look letters up in the tables, the
-- words of a table are read from the left, and the search in it is counted in steps.
import Formulary.Builtin.Text
import Formulary.Proofs.FixedText
import Formulary.Proofs.Rounding
import Formulary.Proofs.Spans

namespace Formulary

open String (utf8Len)

/-! ## Long texts -/

/-- One character so many times. -/
def copies (count : Nat) (c : Char) : String := String.ofList (List.replicate count c)

theorem toList_copies (count : Nat) (c : Char) :
    (copies count c).toList = List.replicate count c := String.toList_ofList

theorem utf8ByteSize_copies (count : Nat) (c : Char) :
    (copies count c).utf8ByteSize = c.utf8Size * count := by
  rw [copies, String.utf8ByteSize_ofList]
  induction count with
  | zero => rfl
  | succ count ih => rw [List.replicate_succ, String.utf8Len_cons, ih, Nat.mul_succ]

/-! ## The words of a table -/

/-- The words of a text behind the characters of a word that has begun, latest first. -/
def wordsFrom (word : List Char) : List Char → List (List Char)
  | [] => if word = [] then [] else [word.reverse]
  | c :: cs =>
    if c = ' ' ∨ c = '\n' then
      if word = [] then wordsFrom [] cs else word.reverse :: wordsFrom [] cs
    else wordsFrom (c :: word) cs

/-- The last word that a reading from the right has come to goes on to the left. -/
theorem wordsFrom_eq (word cs : List Char) : wordsFrom word cs =
    let (next, words) := cs.foldr
      (fun c (word, words) =>
        if c = ' ' ∨ c = '\n' then ([], if word = [] then words else word :: words)
        else (c :: word, words))
      (([], []) : List Char × List (List Char))
    if word.reverse ++ next = [] then words else (word.reverse ++ next) :: words := by
  induction cs generalizing word with
  | nil => simp [wordsFrom]
  | cons c cs ih =>
    rw [wordsFrom, List.foldr_cons, ih [], ih (c :: word)]
    rcases List.foldr _ _ cs with ⟨next, words⟩
    by_cases hblank : c = ' ' ∨ c = '\n'
    · by_cases hword : word = [] <;> by_cases hnext : next = [] <;> simp [hblank, hword, hnext]
    · simp [hblank]

theorem tableWords_eq (text : String) : tableWords text = wordsFrom [] text.toList :=
  (wordsFrom_eq [] text.toList).symm

/-! ## Looking up a letter -/

namespace Unicode.CaseMap

/-- The search for a run, in at most so many steps. -/
def searchSteps (runs : Array CaseRun) (n : Nat) : Nat → Nat → Nat → Option CaseRun
  | 0, _, _ => none
  | steps + 1, low, high =>
    if low < high then
      let middle := (low + high) / 2
      match runs[middle]? with
      | none => none
      | some run =>
        if n < run.first then searchSteps runs n steps low middle
        else if run.last < n then searchSteps runs n steps (middle + 1) high
        else if (n - run.first) % run.step = 0 then some run
        else none
    else none

theorem search_eq_searchSteps (runs : Array CaseRun) (n : Nat) {steps low high : Nat}
    (h : high - low < steps) : search runs n low high = searchSteps runs n steps low high := by
  induction steps generalizing low high with
  | zero => omega
  | succ steps ih =>
    rw [search, searchSteps]
    by_cases hlt : low < high
    · rw [dif_pos hlt, if_pos hlt]
      dsimp only
      cases runs[(low + high) / 2]? with
      | none => rfl
      | some run =>
        dsimp only
        rw [ih (by omega), ih (by omega)]
    · rw [dif_neg hlt, if_neg hlt]

theorem map_of_searchSteps {m : CaseMap} {c : Char} {size first : Nat} {targets : List Nat}
    (hsize : m.runs.size = size)
    (hfound : (searchSteps m.runs c.toNat (size + 1) 0 size).map
      (fun run => (run.first, run.targets)) = some (first, targets)) :
    m.map c = targets.map fun target => Char.ofNat (target + (c.toNat - first)) := by
  obtain ⟨run, hrun, hparts⟩ := Option.map_eq_some_iff.mp hfound
  cases hparts
  rw [map, hsize, search_eq_searchSteps _ _ (Nat.lt_succ_self size), hrun]

end Unicode.CaseMap

open Unicode

set_option maxRecDepth 20000 in
/-- A letter of two bytes with a small letter of three. -/
theorem lowerMap_stroke : lowerMap.map 'Ⱥ' = ['ⱥ'] := by
  have hsize : lowerMap.runs.size = 186 := by
    unfold lowerMap CaseMap.ofText
    rw [tableWords_eq, String.toList_ofList]
    decide +kernel
  have hfound : (CaseMap.searchSteps lowerMap.runs 'Ⱥ'.toNat 187 0 186).map
      (fun run => (run.first, run.targets)) = some (0x23A, [0x2C65]) := by
    unfold lowerMap CaseMap.ofText
    rw [tableWords_eq, String.toList_ofList]
    decide +kernel
  rw [CaseMap.map_of_searchSteps hsize hfound]
  decide

set_option maxRecDepth 20000 in
/-- A letter of two bytes that two capitals stand for, of three bytes together. -/
theorem upperMap_apostrophe : upperMap.map 'ŉ' = ['ʼ', 'N'] := by
  have hsize : upperMap.runs.size = 303 := by
    unfold upperMap CaseMap.ofText
    rw [tableWords_eq, String.toList_ofList]
    decide +kernel
  have hfound : (CaseMap.searchSteps upperMap.runs 'ŉ'.toNat 304 0 303).map
      (fun run => (run.first, run.targets)) = some (0x149, [0x2BC, 0x4E]) := by
    unfold upperMap CaseMap.ofText
    rw [tableWords_eq, String.toList_ofList]
    decide +kernel
  rw [CaseMap.map_of_searchSteps hsize hfound]
  decide

namespace Text

/-! ## Letters that grow -/

theorem utf8ByteSize_pushed (cs : List Char) (out : String) :
    (cs.foldl String.push out).utf8ByteSize = out.utf8ByteSize + utf8Len cs := by
  induction cs generalizing out with
  | nil => rfl
  | cons c cs ih =>
    rw [List.foldl_cons, ih, String.utf8ByteSize_push, String.utf8Len_cons]
    omega

/-- Three bytes for each letter of two. -/
theorem utf8ByteSize_lowercase_strokes (count : Nat) :
    (lowercase (copies count 'Ⱥ')).utf8ByteSize = 3 * count := by
  have hchar : ∀ before after, lowerCharBetween before 'Ⱥ' after = ['ⱥ'] := by
    intro before after
    rw [lowerCharBetween, if_neg (by decide), lowerMap_stroke]
  have hout : ∀ (out : String) (before : List Char),
      (appendLower out before (List.replicate count 'Ⱥ')).utf8ByteSize =
        out.utf8ByteSize + 3 * count := by
    induction count with
    | zero => exact fun _ _ => rfl
    | succ count ih =>
      intro out before
      rw [List.replicate_succ, appendLower, ih, hchar, utf8ByteSize_pushed,
        show utf8Len ['ⱥ'] = 3 from rfl]
      omega
  rw [lowercase, toList_copies, hout]
  exact Nat.zero_add _

theorem utf8ByteSize_uppercase_apostrophes (count : Nat) :
    (uppercase (copies count 'ŉ')).utf8ByteSize = 3 * count := by
  have hout : ∀ out : String,
      ((List.replicate count 'ŉ').foldl
        (fun out c => (Unicode.upperMap.map c).foldl String.push out) out).utf8ByteSize =
        out.utf8ByteSize + 3 * count := by
    induction count with
    | zero => exact fun _ => rfl
    | succ count ih =>
      intro out
      rw [List.replicate_succ, List.foldl_cons, ih, upperMap_apostrophe, utf8ByteSize_pushed,
        show utf8Len ['ʼ', 'N'] = 3 from rfl]
      omega
  rw [uppercase, toList_copies, hout]
  exact Nat.zero_add _

end Text

namespace TextPattern

/-! ## Templates that grow -/

variable {c : Compiled} {start fuel position copied first stop : Nat} {last : Option Nat}
  {p : Program} {parts : List TemplatePart} {text : Array Char} {marks : Marks}
  {rest : List Char} {output : String} {before : Option Char} {slots : Slots}

/-- A match that is not empty is replaced, and the search goes on behind it. -/
theorem replaceFrom_match
    (hsearch : (search start p c.captures marks before position rest).1 = some slots)
    (hbefore : (if position = 0 then none else text[position - 1]?) = before)
    (hfirst : slots.getD 0 none = some first) (hstop : slots.getD 1 none = some stop)
    (hne : first ≠ stop) :
    replaceFrom c start p parts text (fuel + 1) marks rest ⟨position, last, copied, output⟩ =
      replaceFrom c start p parts text fuel
        (search start p c.captures marks before position rest).2 (rest.drop (stop - position))
        ⟨stop, some stop, stop,
          appendTemplate c text slots (appendPiece text output copied first) parts⟩ := by
  rw [replaceFrom]
  dsimp only
  rw [hbefore, hsearch, Option.bind_some, hfirst, hstop]
  exact if_neg fun h => hne h.1

/-- Behind the last match the rest of the text is taken over. -/
theorem replaceFrom_none
    (hsearch : (search start p c.captures marks before position rest).1 = none)
    (hbefore : (if position = 0 then none else text[position - 1]?) = before) :
    replaceFrom c start p parts text (fuel + 1) marks rest ⟨position, last, copied, output⟩ =
      appendPiece text output copied text.size := by
  rw [replaceFrom]
  dsimp only
  rw [hbefore, hsearch]
  rfl

/-- The pattern of one letter. -/
def letter : Compiled := ⟨.literal ['a'], 0, []⟩

/-- Its program. -/
def letterProgram : Program := #[.accept, .save 1 0, .char 'a' 1, .save 0 2]

theorem program_letter : program letter.pattern = (3, letterProgram) := rfl

theorem read?_letter : read? "a" = some letter := rfl

/-- A template stands for each of two letters. -/
theorem replaceAll_letters (replacement : String) : replaceAll letter "aa" replacement =
    appendTemplate letter #['a', 'a'] #[some 1, some 2]
      (appendTemplate letter #['a', 'a'] #[some 0, some 1] "" (template replacement.toList))
      (template replacement.toList) := by
  have hone : (search 3 letterProgram letter.captures (.clean letterProgram) none 0 ['a', 'a']).1 =
      some #[some 0, some 1] := by decide +kernel
  have htwo : (search 3 letterProgram letter.captures
      (search 3 letterProgram letter.captures (.clean letterProgram) none 0 ['a', 'a']).2
      (some 'a') 1 ['a']).1 = some #[some 1, some 2] := by decide +kernel
  have hnone : (search 3 letterProgram letter.captures
      (search 3 letterProgram letter.captures
        (search 3 letterProgram letter.captures (.clean letterProgram) none 0 ['a', 'a']).2
        (some 'a') 1 ['a']).2 (some 'a') 2 []).1 = none := by decide +kernel
  unfold replaceAll
  rw [program_letter]
  change replaceFrom letter 3 letterProgram _ #['a', 'a'] 7 _ ['a', 'a'] _ = _
  rw [replaceFrom_match hone rfl rfl rfl (by decide)]
  change replaceFrom letter 3 letterProgram _ #['a', 'a'] 6 _ ['a'] _ = _
  rw [replaceFrom_match htwo rfl rfl rfl (by decide)]
  change replaceFrom letter 3 letterProgram _ #['a', 'a'] 5 _ [] _ = _
  rw [replaceFrom_none hnone rfl]
  rfl

theorem templateParts_plain {fuel count : Nat} (h : count < fuel) :
    templateParts fuel (List.replicate count 'b') = List.replicate count (.char 'b') := by
  induction count generalizing fuel with
  | zero =>
    cases fuel with
    | zero => omega
    | succ fuel => rfl
  | succ count ih =>
    cases fuel with
    | zero => omega
    | succ fuel =>
      rw [List.replicate_succ, List.replicate_succ, ← ih (Nat.lt_of_succ_lt_succ h)]
      rfl

theorem utf8ByteSize_appendTemplate_plain (c : Compiled) (text : Array Char) (slots : Slots)
    (output : String) (count : Nat) :
    (appendTemplate c text slots output (List.replicate count (.char 'b'))).utf8ByteSize =
      output.utf8ByteSize + count := by
  induction count generalizing output with
  | zero => rfl
  | succ count ih =>
    have hpush : (output.push 'b').utf8ByteSize = output.utf8ByteSize + 1 :=
      String.utf8ByteSize_push
    rw [List.replicate_succ]
    refine (ih (output.push 'b')).trans ?_
    omega

theorem utf8ByteSize_replaceAll_letters (count : Nat) :
    (replaceAll letter "aa" (copies count 'b')).utf8ByteSize = 2 * count := by
  have hempty : "".utf8ByteSize = 0 := rfl
  rw [replaceAll_letters, toList_copies, template, List.length_replicate,
    templateParts_plain (Nat.lt_succ_self count), utf8ByteSize_appendTemplate_plain,
    utf8ByteSize_appendTemplate_plain, hempty]
  omega

end TextPattern

namespace Decimal

/-! ## Numbers of many digits -/

theorem length_le_utf8Len (cs : List Char) : cs.length ≤ utf8Len cs := by
  induction cs with
  | nil => exact Nat.le_refl 0
  | cons c cs ih =>
    have hsize := c.utf8Size_pos
    rw [List.length_cons, String.utf8Len_cons]
    omega

/-- One more than a power of ten has no zeros at its end. -/
theorem normalized_succ_power {k : Nat} (hk : 0 < k) :
    normalized ⟨10 ^ k + 1, 0⟩ = ⟨10 ^ k + 1, 0⟩ := by
  have hstripped : Stripped ⟨10 ^ k + 1, 0⟩ := by
    obtain ⟨j, rfl⟩ := Nat.exists_eq_succ_of_ne_zero hk.ne'
    change (10 ^ (j + 1) + 1 : ℤ) % 10 ≠ 0
    rw [pow_succ, add_comm, Int.add_mul_emod_self_right]
    decide
  exact hstripped.normalized_eq

/-- It is written with all its digits. -/
theorem lt_utf8ByteSize_toText {k : Nat} (hk : 0 < k) :
    k < (normalized ⟨10 ^ k + 1, 0⟩).toText.utf8ByteSize := by
  have hint : (10 ^ k + 1 : ℤ) ≠ 0 := by positivity
  have habs : (10 ^ k + 1 : ℤ).natAbs = 10 ^ k + 1 := by
    rw [← Int.natCast_inj, Int.natAbs_of_nonneg (by positivity)]
    push_cast
    rfl
  have hdigits : k < digitCount (10 ^ k + 1) := by
    rw [← Nat.pow_lt_pow_iff_right (by decide : 1 < 10)]
    exact (Nat.lt_succ_self _).trans (lt_tenPow_digitCount (10 ^ k + 1))
  have htext : magnitudeText (10 ^ k + 1) ((0 : Nat) : Int) = Nat.toDigits 10 (10 ^ k + 1) := by
    rw [magnitudeText_plain (by omega)]
    rfl
  have hlong : k < utf8Len (magnitudeText (10 ^ k + 1) ((0 : Nat) : Int)) := by
    rw [htext]
    exact hdigits.trans_le (length_le_utf8Len _)
  rw [normalized_succ_power hk, toText, String.utf8ByteSize_ofList, render_of_ne_zero hint,
    String.utf8Len_append, habs]
  exact hlong.trans_le (Nat.le_add_left _ _)

end Decimal

end Formulary
