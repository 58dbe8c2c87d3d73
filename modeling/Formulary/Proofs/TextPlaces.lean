-- Places in a text. Search and pieces count them in the same way, so that a text is found at the
-- first place where the piece of its length is the text.
import Formulary.Builtin.Text
import Formulary.Proofs.ByteSearch
import Formulary.Proofs.WholeArguments

namespace Formulary

namespace Text

/-! ## Pieces -/

theorem slice_all {cs : List Char} {count : Nat} (h : cs.length ≤ count) : slice cs 0 count = cs :=
  List.take_of_length_le h

theorem slice_beyond {cs : List Char} {start : Nat} (h : cs.length ≤ start) (count : Nat) :
    slice cs start count = [] := by
  rw [slice, List.drop_eq_nil_of_le h, List.take_nil]

/-- The last characters are what is behind the others. -/
theorem right_eq_drop {cs : List Char} {n : Nat} (h : n ≤ cs.length) :
    right cs (cs.length - n) = cs.drop n := by
  rw [right, slice, Nat.sub_sub_self h]
  refine List.take_of_length_le ?_
  rw [List.length_drop]

theorem right_all {cs : List Char} {count : Nat} (h : cs.length ≤ count) : right cs count = cs := by
  rw [right, Nat.sub_eq_zero_of_le h]
  exact slice_all h

theorem left_append_right {cs : List Char} {n : Nat} (h : n ≤ cs.length) :
    left cs n ++ right cs (cs.length - n) = cs := by
  rw [right_eq_drop h]
  exact List.take_append_drop n cs

theorem left_right {cs : List Char} {n : Nat} (h : n ≤ cs.length) (count : Nat) :
    left (right cs (cs.length - n)) count = slice cs n count := by
  rw [right_eq_drop h]
  rfl

end Text

namespace Builtin

/-! ## Methods -/

variable {t u : String} {x y z : Decimal} {n m start place : Nat}

theorem run_leftMethod (t : String) (hx : IsCount x n) :
    leftMethod.run [.text t, .number x] = .ok (.text (String.ofList (Text.left t.toList n))) := by
  change (countArg "num_chars" [.text t, .number x] 1 >>= _) = _
  rw [countArg_of_isCount rfl hx]
  rfl

theorem run_rightMethod (t : String) (hx : IsCount x n) :
    rightMethod.run [.text t, .number x] = .ok (.text (String.ofList (Text.right t.toList n))) := by
  change (countArg "num_chars" [.text t, .number x] 1 >>= _) = _
  rw [countArg_of_isCount rfl hx]
  rfl

theorem run_midMethod (t : String) (hx : IsCount x n) (hy : IsCount y m) :
    midMethod.run [.text t, .number x, .number y] =
      .ok (.text (String.ofList (Text.slice t.toList n m))) := by
  change (countArg "start_num" [.text t, .number x, .number y] 1 >>= _) = _
  rw [countArg_of_isCount rfl hx, ok_bind, countArg_of_isCount rfl hy]
  rfl

theorem run_findMethod (t u : String) (hx : IsCount x start) :
    findMethod.run [.text t, .text u, .number x] =
      .ok (.number (.ofInt (match Text.find? t.toList u.toList start with
        | some i => (i : Int)
        | none => -1))) := by
  change (countArg "start_num" [.text t, .text u, .number x] 2 >>= _) = _
  rw [countArg_of_isCount rfl hx]
  rfl

/-! ## The law -/

/-- At this place of `t`, the piece that is as long as `u` is `u`. -/
def HasAt (t u : String) (place : Nat) : Prop :=
  place + u.length ≤ t.length ∧
    midMethod.run [.text t, .number (.ofInt place), .number (.ofInt u.length)] = .ok (.text u)

/-- The first place of `u` from a place on, or -1 if there is none. -/
def FirstFrom (t u : String) (start : Nat) (result : Except Fault Value) : Prop :=
  (∃ place : Nat, result = .ok (.number (.ofInt place)) ∧ start ≤ place ∧ HasAt t u place ∧
      ∀ earlier, start ≤ earlier → earlier < place → ¬ HasAt t u earlier) ∨
    result = .ok (.number (.ofInt (-1))) ∧ ∀ place, start ≤ place → ¬ HasAt t u place

theorem hasAt_iff (ht : t.length < 2 ^ 63) :
    HasAt t u place ↔ Text.StandsAt u.toList t.toList place := by
  rw [Text.standsAt_iff_slice, String.length_toList, String.length_toList]
  refine and_congr_right fun hend => ?_
  rw [run_midMethod t (isCount_ofInt (by omega)) (isCount_ofInt (by omega)), Except.ok.injEq,
    Value.text.injEq, ← String.toList_inj, String.toList_ofList]

theorem firstFrom_findMethod (ht : t.length < 2 ^ 63) (hx : IsCount x start) :
    FirstFrom t u start (findMethod.run [.text t, .text u, .number x]) := by
  have hfound := Text.foundFrom_find? u.toList t.toList start
  rw [run_findMethod t u hx]
  unfold FirstFrom
  simp only [hasAt_iff ht]
  cases hfind : Text.find? t.toList u.toList start with
  | some place =>
    rw [hfind] at hfound
    exact .inl ⟨place, rfl, hfound⟩
  | none =>
    rw [hfind] at hfound
    exact .inr ⟨rfl, hfound⟩

theorem run_findMethod_empty (t : String) (hx : IsCount x start) :
    findMethod.run [.text t, .text "", .number x] =
      .ok (.number (.ofInt (if start ≤ t.length then start else -1))) := by
  rw [run_findMethod t "" hx, String.toList_empty]
  by_cases hend : start ≤ t.length
  · rw [Text.find?_nil (by rwa [String.length_toList]), if_pos hend]
  · rw [Text.find?_of_lt [] (by rw [String.length_toList]; omega), if_neg hend]

/-- A number that is no place in `t`, and no number of its characters. -/
structure RefusesCount (t u : String) (x : Decimal) : Prop where
  find : findMethod.run [.text t, .text u, .number x] = .error (.invalidData "start_num")
  left : leftMethod.run [.text t, .number x] = .error (.invalidData "num_chars")
  right : rightMethod.run [.text t, .number x] = .error (.invalidData "num_chars")
  mid_start : ∀ z, midMethod.run [.text t, .number x, .number z] = .error (.invalidData "start_num")
  mid_count : ∀ {y : Decimal} {m : Nat}, IsCount y m →
    midMethod.run [.text t, .number y, .number x] = .error (.invalidData "num_chars")

theorem refuses_large (t u : String) (hx : x.toRat = n) (hn : 2 ^ 63 ≤ n) : RefusesCount t u x where
  find := by
    change (countArg "start_num" [.text t, .text u, .number x] 2 >>= _) = _
    rw [countArg_of_large rfl hx hn]
    rfl
  left := by
    change (countArg "num_chars" [.text t, .number x] 1 >>= _) = _
    rw [countArg_of_large rfl hx hn]
    rfl
  right := by
    change (countArg "num_chars" [.text t, .number x] 1 >>= _) = _
    rw [countArg_of_large rfl hx hn]
    rfl
  mid_start := by
    intro z
    change (countArg "start_num" [.text t, .number x, .number z] 1 >>= _) = _
    rw [countArg_of_large rfl hx hn]
    rfl
  mid_count := by
    intro y m hy
    change (countArg "start_num" [.text t, .number y, .number x] 1 >>= _) = _
    rw [countArg_of_isCount rfl hy, ok_bind, countArg_of_large rfl hx hn]
    rfl

/-- How search, pieces and joining agree on the places of a text. -/
structure AgreeOnPlaces (t u : String) : Prop where
  find : ∀ {x : Decimal} {start : Nat}, IsCount x start →
    FirstFrom t u start (findMethod.run [.text t, .text u, .number x])
  find_empty : ∀ {x : Decimal} {start : Nat}, IsCount x start →
    findMethod.run [.text t, .text "", .number x] =
      .ok (.number (.ofInt (if start ≤ t.length then start else -1)))
  halves : ∀ {x y : Decimal} {n : Nat}, n ≤ t.length → IsCount x n → IsCount y (t.length - n) →
    ∃ head tail, leftMethod.run [.text t, .number x] = .ok (.text head) ∧
      rightMethod.run [.text t, .number y] = .ok (.text tail) ∧
      concatMethod.run [.text head, .text tail] = .ok (.text t)
  piece : ∀ {x y z : Decimal} {n m : Nat}, n ≤ t.length → IsCount x n →
    IsCount y (t.length - n) → IsCount z m →
    ∃ tail piece, rightMethod.run [.text t, .number y] = .ok (.text tail) ∧
      leftMethod.run [.text tail, .number z] = .ok (.text piece) ∧
      midMethod.run [.text t, .number x, .number z] = .ok (.text piece)
  beyond : ∀ {x z : Decimal} {n m : Nat}, t.length < n → IsCount x n → IsCount z m →
    leftMethod.run [.text t, .number x] = .ok (.text t) ∧
      rightMethod.run [.text t, .number x] = .ok (.text t) ∧
      midMethod.run [.text t, .number x, .number z] = .ok (.text "")
  large : ∀ {x : Decimal} {n : Nat}, x.toRat = n → 2 ^ 63 ≤ n → RefusesCount t u x

/-- Search and pieces count the places of a text in the same way, for all texts of fewer than
2 ^ 63 characters and all counts that fit 64 bits. Larger counts are refused. -/
theorem text_places (t u : String) (ht : t.length < 2 ^ 63) : AgreeOnPlaces t u where
  find := firstFrom_findMethod ht
  find_empty := run_findMethod_empty t
  halves := by
    intro x y n hn hx hy
    refine ⟨_, _, run_leftMethod t hx, run_rightMethod t hy, ?_⟩
    have hjoined : String.ofList (Text.left t.toList n) ++
        String.ofList (Text.right t.toList (t.length - n)) = t := by
      rw [← String.ofList_append, ← String.length_toList, Text.left_append_right hn,
        String.ofList_toList]
    exact congrArg (Except.ok ∘ Value.text) hjoined
  piece := by
    intro x y z n m hn hx hy hz
    refine ⟨_, _, run_rightMethod t hy, run_leftMethod _ hz, ?_⟩
    rw [run_midMethod t hx hz, String.toList_ofList, ← String.length_toList,
      Text.left_right hn]
  beyond := by
    intro x z n m hn hx hz
    have hlong : t.toList.length ≤ n := by
      rw [String.length_toList]
      exact hn.le
    rw [run_leftMethod t hx, run_rightMethod t hx, run_midMethod t hx hz, Text.right_all hlong,
      Text.slice_beyond hlong, Text.left, Text.slice_all hlong, String.ofList_toList]
    exact ⟨rfl, rfl, rfl⟩
  large := refuses_large t u

/-- A text with letters of two bytes, that is found only behind a part of it. -/
theorem text_places_accents : "ñaañaña".length < 2 ^ 63 ∧ AgreeOnPlaces "ñaañaña" "ñaña" ∧
    findMethod.run [.text "ñaañaña", .text "ñaña", .number .zero] = .ok (.number (.ofInt 3)) :=
  ⟨by decide, text_places _ _ (by decide), by decide +kernel⟩

/-- A search does not start at every place: from 2 ^ 63 on it is refused, also where no text is. -/
theorem not_from_every_place : ¬ ∀ (t u : String) (x : Decimal) (start : Nat), x.toRat = start →
    FirstFrom t u start (findMethod.run [.text t, .text u, .number x]) := by
  intro h
  have hlarge : (Decimal.ofInt (2 ^ 63)).toRat = ((2 ^ 63 : Nat) : ℚ) := by
    rw [Decimal.toRat_ofInt]
    norm_num
  have hrun : findMethod.run [.text "", .text "", .number (.ofInt (2 ^ 63))] =
      .error (.invalidData "start_num") := by decide +kernel
  have hfirst := h "" "" _ _ hlarge
  rw [hrun] at hfirst
  rcases hfirst with ⟨place, hplace, -⟩ | ⟨hnone, -⟩
  · cases hplace
  · cases hnone

end Builtin

end Formulary
