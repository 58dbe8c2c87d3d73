-- Tables of named things, in the order in which the names were added.
namespace Formulary

/-- Entries under names. -/
structure NameTable (α : Type) where
  entries : List (String × α)

namespace NameTable

variable {α : Type}

def empty : NameTable α := ⟨[]⟩

instance : Inhabited (NameTable α) := ⟨empty⟩

def size (t : NameTable α) : Nat := t.entries.length

def isEmpty (t : NameTable α) : Bool := t.entries.isEmpty

/-- The entry under a name. -/
def get? (t : NameTable α) (name : String) : Option α := t.entries.lookup name

def contains (t : NameTable α) (name : String) : Bool := (t.get? name).isSome

/-- Adds an entry under a name that is not in the table. -/
def insert (t : NameTable α) (name : String) (entry : α) : NameTable α :=
  ⟨t.entries ++ [(name, entry)]⟩

/-- Takes the entry under a name out. -/
def erase (t : NameTable α) (name : String) : NameTable α :=
  ⟨t.entries.filter (·.1 ≠ name)⟩

/-- Takes the entries under all the names out. -/
def eraseAll (t : NameTable α) (names : List String) : NameTable α := names.foldl erase t

/-- Puts another entry in the place of the one under a name. -/
def replace (t : NameTable α) (name : String) (entry : α) : NameTable α :=
  ⟨t.entries.map fun (key, old) => (key, if key = name then entry else old)⟩

/-! ## Names and look-ups -/

/-- The names in the table, in order. -/
def names (t : NameTable α) : List String := t.entries.map (·.1)

@[simp] theorem length_names (t : NameTable α) : t.names.length = t.size := List.length_map _

@[simp] theorem names_insert (t : NameTable α) (name : String) (entry : α) :
    (t.insert name entry).names = t.names ++ [name] := by
  simp [names, insert]

@[simp] theorem names_erase (t : NameTable α) (name : String) :
    (t.erase name).names = t.names.filter (· ≠ name) := by
  rw [names, names, erase, List.filter_map]
  rfl

@[simp] theorem names_replace (t : NameTable α) (name : String) (entry : α) :
    (t.replace name entry).names = t.names := by
  simp [names, replace]

theorem contains_iff (t : NameTable α) (name : String) :
    t.contains name = true ↔ name ∈ t.names := by
  rw [contains, get?, List.lookup_isSome_iff, names, List.mem_map]
  constructor
  · rintro ⟨pair, hpair, hname⟩
    exact ⟨pair, hpair, (eq_of_beq hname).symm⟩
  · rintro ⟨pair, hpair, rfl⟩
    exact ⟨pair, hpair, beq_self_eq_true _⟩

theorem contains_eq_false_iff (t : NameTable α) (name : String) :
    t.contains name = false ↔ name ∉ t.names := by
  rw [← contains_iff, Bool.not_eq_true]

theorem get?_eq_none_iff (t : NameTable α) (name : String) :
    t.get? name = none ↔ name ∉ t.names := by
  rw [← contains_eq_false_iff, contains, Option.isSome_eq_false_iff, Option.isNone_iff_eq_none]

/-- In a table in which no name stands twice, a look-up finds what stands under the name. -/
theorem get?_eq_some_iff {t : NameTable α} (h : t.names.Nodup) (name : String) (entry : α) :
    t.get? name = some entry ↔ (name, entry) ∈ t.entries := by
  rw [get?, List.lookup_eq_some_iff]
  constructor
  · rintro ⟨before, after, heq, -⟩
    rw [heq]
    simp
  · intro hmem
    obtain ⟨before, after, heq⟩ := List.append_of_mem hmem
    refine ⟨before, after, heq, ?_⟩
    rw [names, heq, List.map_append, List.nodup_append] at h
    intro pair hpair
    have := h.2.2 pair.1 (List.mem_map_of_mem hpair) name (by simp)
    simpa using this.symm

/-- A name that is new keeps the names apart. -/
theorem nodup_insert {t : NameTable α} (h : t.names.Nodup) {name : String}
    (hnew : name ∉ t.names) (entry : α) : (t.insert name entry).names.Nodup := by
  rw [names_insert, List.nodup_append]
  refine ⟨h, by simp, fun other hother last hlast heq => ?_⟩
  rw [List.mem_singleton.mp hlast] at heq
  exact hnew (heq ▸ hother)

/-- What stands first under a name is what was there before a new entry. -/
theorem get?_insert (t : NameTable α) {name : String} (h : name ∉ t.names) (entry : α)
    (key : String) :
    (t.insert name entry).get? key = if key = name then some entry else t.get? key := by
  simp only [get?, insert, List.lookup_append, List.lookup_cons, List.lookup_nil]
  by_cases hkey : key = name
  · have hnone : t.entries.lookup key = none := hkey ▸ (t.get?_eq_none_iff name).mpr h
    simp [hkey, hkey ▸ hnone]
  · have hne : (key == name) = false := beq_eq_false_iff_ne.mpr hkey
    simp [hkey, hne]

theorem get?_erase (t : NameTable α) (name key : String) :
    (t.erase name).get? key = if key = name then none else t.get? key := by
  by_cases hkey : key = name
  · rw [if_pos hkey, get?_eq_none_iff, names_erase]
    simp [hkey]
  · rw [if_neg hkey]
    unfold get? erase
    induction t.entries with
    | nil => rfl
    | cons pair rest ih =>
      by_cases hpair : pair.1 = name
      · have hne : (key == pair.1) = false := beq_eq_false_iff_ne.mpr (hpair ▸ hkey)
        rw [List.filter_cons_of_neg (by simpa using hpair), ih, List.lookup_cons, hne]
      · rw [List.filter_cons_of_pos (by simpa using hpair), List.lookup_cons, List.lookup_cons, ih]

/-- All the names are taken out at once. -/
theorem entries_eraseAll (t : NameTable α) (names : List String) :
    (t.eraseAll names).entries = t.entries.filter (·.1 ∉ names) := by
  unfold eraseAll
  induction names generalizing t with
  | nil => exact (List.filter_eq_self.mpr (by simp)).symm
  | cons name rest ih =>
    rw [List.foldl_cons, ih, erase, List.filter_filter]
    refine List.filter_congr fun pair _ => ?_
    rw [← Bool.decide_and, decide_eq_decide, List.mem_cons, not_or]
    exact and_comm

theorem nodup_eraseAll {t : NameTable α} (h : t.names.Nodup) (names : List String) :
    (t.eraseAll names).names.Nodup := by
  rw [NameTable.names, entries_eraseAll]
  exact h.sublist (List.filter_sublist.map _)

end NameTable

end Formulary
