-- What the memory for trees is like between two requests: its table and its order of use
-- hold the same texts, and each tree in it is the one that its text has. So it answers as
-- if nothing were remembered.
import Formulary.TreeCache
import Mathlib.Data.List.DropRight
import Mathlib.Data.List.Perm.Basic

namespace Formulary

/-- Blanks around a formula do not change its tree. -/
theorem parse_trim (text : String) : parse (Text.trim text) = parse text := by
  unfold parse
  rw [Text.trim_trim]

namespace TreeCache

/-! ## The table and the order -/

/-- The table and the order of use hold the same texts, none of them twice. -/
structure InStep (entries : NameTable Tree) (order : List String) : Prop where
  perm : entries.names.Perm order
  nodup : order.Nodup

theorem inStep_empty : InStep .empty [] := ⟨List.Perm.refl [], List.nodup_nil⟩

namespace InStep

variable {entries : NameTable Tree} {order : List String}

theorem size_eq (h : InStep entries order) : entries.size = order.length := by
  rw [← NameTable.length_names, h.perm.length_eq]

theorem mem_names_iff (h : InStep entries order) (key : String) :
    key ∈ entries.names ↔ key ∈ order := h.perm.mem_iff

theorem erase (h : InStep entries order) (key : String) :
    InStep (entries.erase key) (order.filter (· ≠ key)) := by
  refine ⟨?_, h.nodup.filter _⟩
  rw [NameTable.names_erase]
  exact h.perm.filter _

theorem insert (h : InStep entries order) {key : String} (hnew : key ∉ order) (tree : Tree) :
    InStep (entries.insert key tree) (order ++ [key]) := by
  refine ⟨?_, ?_⟩
  · rw [NameTable.names_insert]
    exact h.perm.append_right [key]
  · rw [List.nodup_append]
    refine ⟨h.nodup, by simp, ?_⟩
    intro other hother last hlast heq
    rw [List.mem_singleton.mp hlast] at heq
    exact hnew (heq ▸ hother)

/-- The text used last moves to the end of the order. -/
theorem touch (h : InStep entries order) {key : String} (hkey : key ∈ order) :
    InStep entries (order.erase key ++ [key]) := by
  have hperm : order.Perm (order.erase key ++ [key]) :=
    (List.perm_cons_erase hkey).trans (List.perm_append_singleton key _).symm
  exact ⟨h.perm.trans hperm, hperm.nodup_iff.mp h.nodup⟩

end InStep

/-- Making room leaves the texts that were used last, as many as fit beside a new one, with
their trees. -/
theorem evict_spec (capacity : Nat) : ∀ {entries : NameTable Tree} {order : List String},
    InStep entries order →
      InStep (evict capacity entries order).1 (evict capacity entries order).2 ∧
      (evict capacity entries order).2 = order.rtake (capacity - 1) ∧
      ∀ key ∈ (evict capacity entries order).2,
        (evict capacity entries order).1.get? key = entries.get? key := by
  intro entries order
  induction order generalizing entries with
  | nil => exact fun h => ⟨h, by simp [evict], by simp [evict]⟩
  | cons oldest order ih =>
    intro h
    have hsize : entries.size = order.length + 1 := h.size_eq
    have hnotin : oldest ∉ order := (List.nodup_cons.mp h.nodup).1
    unfold evict
    by_cases hfull : capacity ≤ entries.size
    · rw [if_pos hfull]
      have hrest : (oldest :: order).filter (· ≠ oldest) = order := by
        rw [List.filter_cons_of_neg (by simp), List.filter_eq_self]
        intro key hkey
        simpa using fun heq : key = oldest => hnotin (heq ▸ hkey)
      obtain ⟨hstep, horder, hget⟩ := ih (hrest ▸ h.erase oldest)
      refine ⟨hstep, ?_, ?_⟩
      · have hdrop : order.length + 1 - (capacity - 1) = order.length - (capacity - 1) + 1 := by
          omega
        rw [horder, List.rtake, List.rtake, List.length_cons, hdrop, List.drop_succ_cons]
      · intro key hkey
        have hmem : key ∈ order := by
          rw [horder] at hkey
          exact List.mem_of_mem_drop hkey
        have hne : key ≠ oldest := fun heq => hnotin (heq ▸ hmem)
        rw [hget key hkey, NameTable.get?_erase, if_neg hne]
    · rw [if_neg hfull]
      refine ⟨h, ?_, fun _ _ => rfl⟩
      have hdrop : (oldest :: order).length - (capacity - 1) = 0 := by
        rw [List.length_cons]
        omega
      rw [List.rtake, hdrop, List.drop_zero]

/-! ## The invariant -/

/-- The table and the order are in step and within the capacity, each tree is the one that
its text has, and no number of a tree will be given away again. -/
structure Valid (c : TreeCache) : Prop where
  inStep : InStep c.entries c.order
  bounded : c.order.length ≤ c.capacity
  trees : ∀ key tree, c.entries.get? key = some tree →
    Formulary.parse key = .ok tree.nodes ∧ tree.serial < c.next

theorem valid_empty (capacity : Nat) : (empty capacity).Valid :=
  ⟨inStep_empty, Nat.zero_le _, nofun⟩

theorem valid_clear (c : TreeCache) : c.clear.Valid := ⟨inStep_empty, Nat.zero_le _, nofun⟩

/-- What a request for a tree does to a memory with room for some: a text that cannot be read
changes nothing, a remembered text moves to the end, and a new one takes the place at the
end. -/
theorem Valid.parse_cases {c : TreeCache} (h : c.Valid) (hpos : 0 < c.capacity) (text : String) :
    (∃ fault, Formulary.parse text = .error fault ∧ c.parse text = (.error fault, c)) ∨
    (∃ tree, c.entries.get? (Text.trim text) = some tree ∧ Formulary.parse text = .ok tree.nodes ∧
      Text.trim text ∈ c.order ∧
      c.parse text = (.ok tree,
        { c with order := c.order.erase (Text.trim text) ++ [Text.trim text] })) ∨
    (∃ nodes entries, Text.trim text ∉ c.order ∧ Formulary.parse text = .ok nodes ∧
      InStep entries (c.order.rtake (c.capacity - 1)) ∧
      (∀ key ∈ c.order.rtake (c.capacity - 1), entries.get? key = c.entries.get? key) ∧
      c.parse text = (.ok ⟨c.next, nodes⟩,
        { c with
          entries := entries.insert (Text.trim text) ⟨c.next, nodes⟩
          order := c.order.rtake (c.capacity - 1) ++ [Text.trim text]
          next := c.next + 1 })) := by
  have hne : c.capacity ≠ 0 := Nat.ne_of_gt hpos
  cases hget : c.entries.get? (Text.trim text) with
  | some tree =>
    have hparse := (h.trees _ tree hget).1
    have hmem : Text.trim text ∈ c.order := by
      rw [← h.inStep.mem_names_iff, ← NameTable.contains_iff, NameTable.contains, hget]
      rfl
    refine Or.inr (Or.inl ⟨tree, rfl, ?_, hmem, ?_⟩)
    · rwa [parse_trim] at hparse
    · simp only [parse, hne, if_false, hget, touch, hmem, if_true]
  | none =>
    have hnew : Text.trim text ∉ c.entries.names := (NameTable.get?_eq_none_iff _ _).mp hget
    cases hparse : Formulary.parse text with
    | error fault =>
      refine Or.inl ⟨fault, rfl, ?_⟩
      simp only [parse, hne, if_false, hget, grow, parse_trim, hparse]
    | ok nodes =>
      obtain ⟨hstep, horder, hkept⟩ := evict_spec c.capacity h.inStep
      have hcontains := (NameTable.contains_eq_false_iff _ _).mpr hnew
      refine Or.inr (Or.inr ⟨nodes, _, fun hmem => hnew ((h.inStep.mem_names_iff _).mpr hmem), rfl,
        horder ▸ hstep, horder ▸ hkept, ?_⟩)
      simp only [parse, hne, if_false, hget, grow, parse_trim, hparse, remember, hcontains,
        Bool.false_eq_true, horder]

/-- Without capacity each request makes a new tree. -/
theorem parse_of_capacity_zero {c : TreeCache} (hzero : c.capacity = 0) (text : String) :
    c.parse text = c.grow (Text.trim text) := by
  rw [parse, if_pos hzero]

/-- A memory answers with the tree that the text has. -/
theorem Valid.parse_nodes {c : TreeCache} (h : c.Valid) (text : String) :
    (c.parse text).1.map Tree.nodes = Formulary.parse text := by
  rcases Nat.eq_zero_or_pos c.capacity with hzero | hpos
  · rw [parse_of_capacity_zero hzero, grow, parse_trim]
    cases Formulary.parse text <;> rfl
  · rcases h.parse_cases hpos text with ⟨fault, hparse, heq⟩ | ⟨tree, -, hparse, -, heq⟩ |
      ⟨nodes, entries, -, hparse, -, -, heq⟩
    · rw [heq, hparse]
      rfl
    · rw [heq, hparse]
      rfl
    · rw [heq, hparse]
      rfl

theorem Valid.parse {c : TreeCache} (h : c.Valid) (text : String) : (c.parse text).2.Valid := by
  rcases Nat.eq_zero_or_pos c.capacity with hzero | hpos
  · rw [parse_of_capacity_zero hzero, grow]
    cases Formulary.parse (Text.trim text) with
    | error fault => exact h
    | ok nodes =>
      refine ⟨h.inStep, h.bounded, fun key tree hget => ?_⟩
      exact ⟨(h.trees key tree hget).1, Nat.lt_succ_of_lt (h.trees key tree hget).2⟩
  · rcases h.parse_cases hpos text with ⟨fault, -, heq⟩ | ⟨tree, -, -, hmem, heq⟩ |
      ⟨nodes, entries, hnew, hparse, hstep, hkept, heq⟩
    · rw [heq]
      exact h
    · rw [heq]
      refine ⟨h.inStep.touch hmem, ?_, h.trees⟩
      have hlen := h.bounded
      rw [List.length_append, List.length_erase_of_mem hmem, List.length_singleton,
        Nat.sub_add_cancel (List.length_pos_of_mem hmem)]
      exact hlen
    · have hnew' : Text.trim text ∉ c.order.rtake (c.capacity - 1) :=
        fun hmem => hnew (List.mem_of_mem_drop hmem)
      rw [heq]
      refine ⟨hstep.insert hnew' _, ?_, fun key tree hget => ?_⟩
      · rw [List.length_append, List.length_singleton, List.rtake, List.length_drop]
        show c.order.length - (c.order.length - (c.capacity - 1)) + 1 ≤ c.capacity
        omega
      · have hnames : Text.trim text ∉ entries.names := fun hm => hnew' (hstep.perm.mem_iff.mp hm)
        rw [NameTable.get?_insert _ hnames] at hget
        split at hget
        · rename_i hkey
          cases hget
          rw [hkey, parse_trim]
          exact ⟨hparse, Nat.lt_succ_self _⟩
        · have hmem : key ∈ c.order.rtake (c.capacity - 1) := by
            rw [← hstep.mem_names_iff, ← NameTable.contains_iff, NameTable.contains, hget]
            rfl
          rw [hkept key hmem] at hget
          exact ⟨(h.trees key tree hget).1, Nat.lt_succ_of_lt (h.trees key tree hget).2⟩

end TreeCache

end Formulary
