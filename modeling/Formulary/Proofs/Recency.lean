-- The memory for trees against the history of its calls. What it holds are the formulas that
-- were read last, and a formula that comes back finds its tree if the memory was not cleared
-- and fewer other formulas were read meanwhile than it has room for.
import Formulary.Proofs.CacheInvariant
import Mathlib.Data.List.Dedup

namespace Formulary

/-! ## Histories -/

/-- What is asked of a memory for trees. -/
inductive CacheCall where
  | parse (text : String)
  | clear
  deriving DecidableEq

/-- The formula that a call reads with success, without the blanks around it. -/
def CacheCall.read? : CacheCall → Option String
  | .parse text =>
    match Formulary.parse text with
    | .ok _ => some (Text.trim text)
    | .error _ => none
  | .clear => none

/-- The formulas that were read since the memory was cleared last, in the order of the
calls. -/
def readSinceClear (calls : List CacheCall) : List String :=
  (calls.rtakeWhile (· ≠ .clear)).filterMap CacheCall.read?

namespace TreeCache

def afterCall (c : TreeCache) : CacheCall → TreeCache
  | .parse text => (c.parse text).2
  | .clear => c.clear

/-- The memory after some calls. -/
def after (c : TreeCache) (calls : List CacheCall) : TreeCache := calls.foldl afterCall c

theorem after_append (c : TreeCache) (calls later : List CacheCall) :
    c.after (calls ++ later) = (c.after calls).after later := List.foldl_append

end TreeCache

namespace CacheCall

theorem read?_of_ok {text : String} {nodes : List Node} (h : Formulary.parse text = .ok nodes) :
    (CacheCall.parse text).read? = some (Text.trim text) := by
  rw [read?, h]

theorem read?_of_error {text : String} {fault : Fault} (h : Formulary.parse text = .error fault) :
    (CacheCall.parse text).read? = none := by
  rw [read?, h]

end CacheCall

theorem readSinceClear_concat (calls : List CacheCall) (call : CacheCall) :
    readSinceClear (calls ++ [call]) =
      if call = .clear then [] else readSinceClear calls ++ call.read?.toList := by
  unfold readSinceClear
  rw [List.rtakeWhile_concat]
  by_cases hclear : call = .clear
  · simp [hclear]
  · rw [if_pos (by simpa using hclear), if_neg hclear, List.filterMap_append,
      List.filterMap_cons, List.filterMap_nil]
    cases call.read? <;> rfl

theorem readSinceClear_append (calls later : List CacheCall) :
    readSinceClear (calls ++ later) =
      if .clear ∈ later then readSinceClear later
      else readSinceClear calls ++ later.filterMap CacheCall.read? := by
  induction later using List.reverseRecOn with
  | nil => simp
  | append_singleton later call ih =>
    rw [← List.append_assoc, readSinceClear_concat, ih, readSinceClear_concat later call]
    by_cases hclear : call = .clear
    · simp [hclear]
    · by_cases hlater : CacheCall.clear ∈ later
      · simp [hclear, hlater]
      · have hnone : CacheCall.clear ∉ later ++ [call] := by
          simp [hlater, Ne.symm hclear]
        rw [if_neg hclear, if_neg hlater, if_neg hnone, List.filterMap_append, List.append_assoc]
        congr 2

theorem exists_read_of_mem {calls : List CacheCall} {key : String}
    (h : key ∈ readSinceClear calls) : ∃ call ∈ calls, call.read? = some key := by
  obtain ⟨call, hcall, hread⟩ := List.mem_filterMap.mp h
  exact ⟨call, (List.rtakeWhile_suffix _ _).subset hcall, hread⟩

/-! ## The latest places -/

section LatestPlaces

variable {α : Type}

theorem mem_rtake_iff {before behind : List α} {a : α} (h : (before ++ a :: behind).Nodup)
    (n : Nat) : a ∈ (before ++ a :: behind).rtake n ↔ behind.length < n := by
  have hbehind : a ∉ behind := (List.nodup_cons.mp (List.nodup_append.mp h).2.1).1
  rw [List.rtake, List.length_append, List.length_cons]
  by_cases hn : behind.length < n
  · have hle : before.length + (behind.length + 1) - n ≤ before.length := by omega
    rw [List.drop_append_of_le_length hle]
    simp [hn]
  · have hd : before.length + (behind.length + 1) - n =
        before.length + (behind.length - n + 1) := by omega
    rw [hd, List.drop_length_add_append, List.drop_succ_cons]
    simpa [hn] using fun hmem => hbehind (List.mem_of_mem_drop hmem)

variable [DecidableEq α]

/-- Each element stands at its latest place, so a new last one leaves its earlier place. -/
theorem dedup_concat (l : List α) (a : α) :
    (l ++ [a]).dedup = l.dedup.filter (· ≠ a) ++ [a] := by
  induction l with
  | nil => rfl
  | cons b l ih =>
    rw [List.cons_append]
    by_cases hb : b ∈ l
    · rw [List.dedup_cons_of_mem (List.mem_append_left _ hb), List.dedup_cons_of_mem hb, ih]
    · rw [List.dedup_cons_of_notMem hb]
      by_cases hba : b = a
      · have hmem : b ∈ l ++ [a] := by simp [hba]
        rw [List.dedup_cons_of_mem hmem, ih, List.filter_cons_of_neg (by simpa using hba)]
      · have hnot : b ∉ l ++ [a] := by simp [hb, hba]
        rw [List.dedup_cons_of_notMem hnot, ih, List.filter_cons_of_pos (by simpa using hba),
          List.cons_append]

-- Without repetitions only one element can be `a`, so one more than `n` is enough to keep `n`
-- others.
theorem take_filter_ne {l : List α} (h : l.Nodup) (a : α) (n : Nat) :
    ((l.take (n + 1)).filter (· ≠ a)).take n = (l.filter (· ≠ a)).take n := by
  induction l generalizing n with
  | nil => simp
  | cons b l ih =>
    rw [List.nodup_cons] at h
    rw [List.take_succ_cons]
    by_cases hb : b = a
    · have hall : ∀ x ∈ l, decide (x ≠ a) = true := fun x hx => by
        simpa using fun heq : x = a => h.1 (hb ▸ heq ▸ hx)
      rw [List.filter_cons_of_neg (by simpa using hb), List.filter_cons_of_neg (by simpa using hb),
        List.filter_eq_self.mpr hall,
        List.filter_eq_self.mpr fun x hx => hall x (List.mem_of_mem_take hx), List.take_take,
        Nat.min_self]
    · rw [List.filter_cons_of_pos (by simpa using hb), List.filter_cons_of_pos (by simpa using hb)]
      cases n with
      | zero => rfl
      | succ n => rw [List.take_succ_cons, List.take_succ_cons, ih h.2]

theorem rtake_filter_ne {l : List α} (h : l.Nodup) (a : α) (n : Nat) :
    ((l.rtake (n + 1)).filter (· ≠ a)).rtake n = (l.filter (· ≠ a)).rtake n := by
  simp only [List.rtake_eq_reverse_take_reverse, ← List.filter_reverse, List.reverse_reverse]
  rw [take_filter_ne (List.nodup_reverse.mpr h)]

/-- An element that was there and has not come again is among the last `n` different ones if
fewer than `n` different ones came after it. -/
theorem mem_rtake_dedup_iff (before : List α) {behind : List α} {a : α} (h : a ∉ behind)
    (n : Nat) : a ∈ (before ++ a :: behind).dedup.rtake n ↔ behind.dedup.length < n := by
  have hnodup := List.nodup_dedup (before ++ a :: behind)
  obtain ⟨others, hothers⟩ : a :: behind.dedup <:+ (before ++ a :: behind).dedup := by
    rw [List.dedup_append, List.dedup_cons_of_notMem h]
    exact List.suffix_union_right _ _
  rw [← hothers] at hnodup ⊢
  exact mem_rtake_iff hnodup n

end LatestPlaces

/-! ## The order of use -/

namespace TreeCache

/-- A formula that is read becomes the last one, and the last ones that fit stay. -/
theorem Valid.order_of_ok {c : TreeCache} (h : c.Valid) (hpos : 0 < c.capacity) {text : String}
    {nodes : List Node} (hparse : Formulary.parse text = .ok nodes) :
    (c.parse text).2.order =
      (c.order.filter (· ≠ Text.trim text)).rtake (c.capacity - 1) ++ [Text.trim text] := by
  rcases h.parse_cases hpos text with ⟨fault, hfault, -⟩ | ⟨tree, -, -, hmem, heq⟩ |
    ⟨nodes, entries, hnew, -, -, -, heq⟩
  · rw [hparse] at hfault
    cases hfault
  · -- One place gets free, so nothing has to go.
    have herase : c.order.erase (Text.trim text) = c.order.filter (· ≠ Text.trim text) := by
      rw [h.inStep.nodup.erase_eq_filter]
      exact List.filter_congr fun key _ => Bool.eq_iff_iff.mpr (by simp)
    have hlen := List.length_erase_of_mem hmem
    have hbound := h.bounded
    have hdrop : (c.order.erase (Text.trim text)).length - (c.capacity - 1) = 0 := by omega
    rw [heq, ← herase, List.rtake, hdrop, List.drop_zero]
  · have hall : c.order.filter (· ≠ Text.trim text) = c.order := by
      rw [List.filter_eq_self]
      intro key hkey
      simpa using fun heq : key = Text.trim text => hnew (heq ▸ hkey)
    rw [heq, hall]

theorem Valid.capacity_parse {c : TreeCache} (h : c.Valid) (hpos : 0 < c.capacity)
    (text : String) : (c.parse text).2.capacity = c.capacity := by
  rcases h.parse_cases hpos text with ⟨_, -, heq⟩ | ⟨_, -, -, -, heq⟩ | ⟨_, _, -, -, -, -, heq⟩ <;>
    rw [heq]

theorem Valid.parse_of_error {c : TreeCache} (h : c.Valid) (hpos : 0 < c.capacity) {text : String}
    {fault : Fault} (hparse : Formulary.parse text = .error fault) :
    c.parse text = (.error fault, c) := by
  rcases h.parse_cases hpos text with ⟨fault', hfault, heq⟩ | ⟨tree, -, hok, -, -⟩ |
    ⟨nodes, entries, -, hok, -, -, -⟩
  · rw [hparse] at hfault
    cases hfault
    exact heq
  · rw [hparse] at hok
    cases hok
  · rw [hparse] at hok
    cases hok

/-- The memory holds the formulas that were read last, each at the place of its latest call. -/
theorem after_empty {capacity : Nat} (hpos : 0 < capacity) (calls : List CacheCall) :
    ((empty capacity).after calls).Valid ∧
      ((empty capacity).after calls).capacity = capacity ∧
      ((empty capacity).after calls).order = (readSinceClear calls).dedup.rtake capacity := by
  induction calls using List.reverseRecOn with
  | nil => exact ⟨valid_empty capacity, rfl, (List.rtake_nil capacity).symm⟩
  | append_singleton calls call ih =>
    obtain ⟨hvalid, hcapacity, horder⟩ := ih
    rw [after_append, readSinceClear_concat]
    -- Of the calls only one that reads its text makes the history longer.
    cases call with
    | clear =>
      rw [if_pos rfl]
      exact ⟨valid_clear _, hcapacity, (List.rtake_nil capacity).symm⟩
    | parse text =>
      have hpos' : 0 < ((empty capacity).after calls).capacity := by rwa [hcapacity]
      rw [if_neg (by simp)]
      refine ⟨hvalid.parse text, (hvalid.capacity_parse hpos' text).trans hcapacity, ?_⟩
      show (((empty capacity).after calls).parse text).2.order = _
      cases hparse : Formulary.parse text with
      | error fault =>
        rw [hvalid.parse_of_error hpos' hparse, CacheCall.read?_of_error hparse]
        simpa using horder
      | ok nodes =>
        -- Dropping all but the last `room` before the new text or after it is the same.
        obtain ⟨room, rfl⟩ := Nat.exists_eq_succ_of_ne_zero (Nat.ne_of_gt hpos)
        rw [hvalid.order_of_ok hpos' hparse, hcapacity, horder, CacheCall.read?_of_ok hparse,
          Option.toList_some, dedup_concat, List.rtake_concat_succ]
        show ((_ : List String).filter _).rtake room ++ _ = _
        rw [rtake_filter_ne (List.nodup_dedup _)]

/-! ## The tree of a formula that comes back -/

theorem Valid.get?_parse_self {c : TreeCache} (h : c.Valid) (hpos : 0 < c.capacity)
    {text : String} {tree : Tree} (htree : (c.parse text).1 = .ok tree) :
    (c.parse text).2.entries.get? (Text.trim text) = some tree := by
  rcases h.parse_cases hpos text with ⟨fault, -, heq⟩ | ⟨tree', hget, -, -, heq⟩ |
    ⟨nodes, entries, hnew, -, hstep, -, heq⟩
  · rw [heq] at htree
    cases htree
  · rw [heq] at htree ⊢
    cases htree
    exact hget
  · have hnames : Text.trim text ∉ entries.names := fun hmem =>
      hnew (List.mem_of_mem_drop (hstep.perm.mem_iff.mp hmem))
    rw [heq] at htree ⊢
    cases htree
    rw [NameTable.get?_insert _ hnames, if_pos rfl]

/-- Another formula leaves a remembered tree as it is, or takes its room. -/
theorem Valid.get?_parse_other {c : TreeCache} (h : c.Valid) (hpos : 0 < c.capacity)
    {text key : String} (hread : (CacheCall.parse text).read? ≠ some key) :
    (c.parse text).2.entries.get? key = c.entries.get? key ∨
      (c.parse text).2.entries.get? key = none := by
  rcases h.parse_cases hpos text with ⟨fault, -, heq⟩ | ⟨tree, -, -, -, heq⟩ |
    ⟨nodes, entries, hnew, hparse, hstep, hkept, heq⟩
  · rw [heq]
    exact Or.inl rfl
  · rw [heq]
    exact Or.inl rfl
  · have hnames : Text.trim text ∉ entries.names := fun hmem =>
      hnew (List.mem_of_mem_drop (hstep.perm.mem_iff.mp hmem))
    have hne : key ≠ Text.trim text := by
      rintro rfl
      exact hread (CacheCall.read?_of_ok hparse)
    rw [heq, NameTable.get?_insert _ hnames, if_neg hne]
    by_cases hmem : key ∈ c.order.rtake (c.capacity - 1)
    · exact Or.inl (hkept key hmem)
    · exact Or.inr ((NameTable.get?_eq_none_iff _ _).mpr fun hm => hmem (hstep.perm.mem_iff.mp hm))

theorem Valid.next_le_parse {c : TreeCache} (h : c.Valid) (hpos : 0 < c.capacity)
    (text : String) : c.next ≤ (c.parse text).2.next := by
  rcases h.parse_cases hpos text with ⟨_, -, heq⟩ | ⟨_, -, -, -, heq⟩ | ⟨_, _, -, -, -, -, heq⟩
  · rw [heq]
  · rw [heq]
  · rw [heq]
    exact Nat.le_succ _

/-- While a formula is not read again, its tree stays the same as long as it is remembered. -/
theorem Valid.get?_after {key : String} {tree : Tree} (later : List CacheCall) :
    ∀ {c : TreeCache}, c.Valid → 0 < c.capacity →
      c.entries.get? key = some tree ∨ c.entries.get? key = none → tree.serial < c.next →
      (∀ call ∈ later, call.read? ≠ some key) →
      ((c.after later).entries.get? key = some tree ∨ (c.after later).entries.get? key = none) ∧
        tree.serial < (c.after later).next := by
  induction later with
  | nil => exact fun _ _ hget hserial _ => ⟨hget, hserial⟩
  | cons call later ih =>
    intro c h hpos hget hserial hread
    rw [List.forall_mem_cons] at hread
    cases call with
    | clear => exact ih (valid_clear c) hpos (Or.inr rfl) hserial hread.2
    | parse text =>
      refine ih (h.parse text) ((h.capacity_parse hpos text).symm ▸ hpos) ?_
        (Nat.lt_of_lt_of_le hserial (h.next_le_parse hpos text)) hread.2
      rcases h.get?_parse_other hpos hread.1 with heq | heq
      · rw [afterCall, heq]
        exact hget
      · exact Or.inr heq

/-- A formula that comes back has the same tree as before exactly if its tree is still
remembered: a new tree has a number of its own. -/
theorem Valid.serial_eq_iff {c : TreeCache} (h : c.Valid) (hpos : 0 < c.capacity)
    {text : String} {tree tree' : Tree}
    (hget : c.entries.get? (Text.trim text) = some tree ∨ c.entries.get? (Text.trim text) = none)
    (hserial : tree.serial < c.next) (htree' : (c.parse text).1 = .ok tree') :
    tree'.serial = tree.serial ↔ Text.trim text ∈ c.order := by
  rcases h.parse_cases hpos text with ⟨fault, -, heq⟩ | ⟨found, hfound, -, hmem, heq⟩ |
    ⟨nodes, entries, hnew, -, -, -, heq⟩
  · rw [heq] at htree'
    cases htree'
  · rw [heq] at htree'
    cases htree'
    rcases hget with hget | hget
    · rw [hget] at hfound
      cases hfound
      simp [hmem]
    · rw [hget] at hfound
      cases hfound
  · rw [heq] at htree'
    cases htree'
    simp [hnew, Nat.ne_of_gt hserial]

/-- A formula that was read is still among the last ones if there has been no clearing and
fewer than so many others were read. -/
theorem mem_recent_iff (calls : List CacheCall) {call : CacheCall} {later : List CacheCall}
    {key : String} (hcall : call.read? = some key) (hlater : ∀ call ∈ later, call.read? ≠ some key)
    (n : Nat) :
    key ∈ (readSinceClear ((calls ++ [call]) ++ later)).dedup.rtake n ↔
      .clear ∉ later ∧ (later.filterMap CacheCall.read?).dedup.length < n := by
  rw [readSinceClear_append, readSinceClear_concat, hcall]
  by_cases hclear : CacheCall.clear ∈ later
  · rw [if_pos hclear]
    simp only [hclear, not_true_eq_false, false_and, iff_false]
    intro hmem
    obtain ⟨other, hother, hread⟩ :=
      exists_read_of_mem (List.mem_dedup.mp (List.mem_of_mem_drop hmem))
    exact hlater other hother hread
  · have hne : call ≠ .clear := by
      rintro rfl
      cases hcall
    have hfree : key ∉ later.filterMap CacheCall.read? := by
      intro hmem
      obtain ⟨other, hother, hread⟩ := List.mem_filterMap.mp hmem
      exact hlater other hother hread
    rw [if_neg hclear, if_neg hne, Option.toList_some, List.append_assoc, List.singleton_append,
      mem_rtake_dedup_iff _ hfree]
    simp [hclear]

/-! ## The law -/

/-- What a memory with room for some trees is like after some calls. -/
structure RemembersLatest (capacity : Nat) (calls : List CacheCall) (c : TreeCache) : Prop where
  /-- The formulas are the ones that were read last, in the order of their latest calls. -/
  order : c.order = (readSinceClear calls).dedup.rtake capacity
  /-- Trees are remembered for the formulas in the order of use, and for no others. -/
  names : c.entries.names.Perm c.order
  nodup : c.order.Nodup
  size : c.size = min capacity (readSinceClear calls).dedup.length
  /-- Each text is answered as if nothing were remembered. -/
  answer : ∀ text, (c.parse text).1.map Tree.nodes = Formulary.parse text
  /-- A text that cannot be read changes nothing. -/
  unread : ∀ text fault, (c.parse text).1 = .error fault → (c.parse text).2 = c
  /-- A formula that comes back has the very same tree as at its latest call exactly if the
  memory was not cleared in between and fewer other formulas were read than it has room for. -/
  sameTree : ∀ text tree later text' tree', (c.parse text).1 = .ok tree →
    (∀ call ∈ later, CacheCall.read? call ≠ some (Text.trim text)) →
    Text.trim text' = Text.trim text →
    (((c.parse text).2.after later).parse text').1 = .ok tree' →
    (tree'.serial = tree.serial ↔
      CacheCall.clear ∉ later ∧ (later.filterMap CacheCall.read?).dedup.length < capacity)

/-- The law of the memory for trees: after any calls it remembers what was read last. -/
theorem leastRecentlyUsed {capacity : Nat} (hpos : 0 < capacity) (calls : List CacheCall) :
    RemembersLatest capacity calls ((empty capacity).after calls) := by
  obtain ⟨hvalid, hcapacity, horder⟩ := after_empty hpos calls
  have hpos' : 0 < ((empty capacity).after calls).capacity := by rwa [hcapacity]
  refine ⟨horder, hvalid.inStep.perm, hvalid.inStep.nodup, ?_, hvalid.parse_nodes, ?_, ?_⟩
  · rw [size, hvalid.inStep.size_eq, horder, List.rtake, List.length_drop]
    omega
  · intro text fault hfault
    have hparse := hvalid.parse_nodes text
    rw [hfault] at hparse
    rw [hvalid.parse_of_error hpos' hparse.symm]
  · intro text tree later text' tree' htree hlater htext htree'
    have hparse := hvalid.parse_nodes text
    rw [htree] at hparse
    have hself := hvalid.get?_parse_self hpos' htree
    have hserial := ((hvalid.parse text).trees _ _ hself).2
    have hkept := Valid.get?_after later (hvalid.parse text)
      ((hvalid.capacity_parse hpos' text).symm ▸ hpos') (Or.inl hself) hserial hlater
    -- The whole history once more, for the order of use at the second call.
    have hafter : (((empty capacity).after calls).parse text).2.after later =
        (empty capacity).after ((calls ++ [.parse text]) ++ later) := by
      rw [after_append, after_append]
      rfl
    obtain ⟨hvalid', hcapacity', horder'⟩ := after_empty hpos ((calls ++ [.parse text]) ++ later)
    rw [hafter, ← htext] at hkept
    rw [hafter] at htree'
    rw [hvalid'.serial_eq_iff (hcapacity'.symm ▸ hpos) hkept.1 hkept.2 htree', htext, horder']
    exact mem_recent_iff calls (CacheCall.read?_of_ok hparse.symm) hlater capacity

/-- With room for two trees, that of `2` has to go, and that of `1` stays. -/
theorem leastRecentlyUsed_pair :
    RemembersLatest 2 [.parse "1", .parse "2", .parse " 1 ", .parse "3"]
        ((empty 2).after [.parse "1", .parse "2", .parse " 1 ", .parse "3"]) ∧
      ((empty 2).after [.parse "1", .parse "2", .parse " 1 ", .parse "3"]).order = ["1", "3"] :=
  ⟨leastRecentlyUsed (by decide) _, by decide⟩

end TreeCache

end Formulary
