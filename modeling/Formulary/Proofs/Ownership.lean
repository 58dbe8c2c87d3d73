-- Who owns the names in an engine. The plugins that are in it share its methods and variables
-- among them: each name has come with one plugin, and goes with it.
import Formulary.Proofs.Session
import Mathlib.Data.List.Nodup

namespace Formulary

/-! ## Inputs in order -/

/-- Inputs that are declared as they should be: before one that must have an argument there is
none that need not. -/
theorem Method.requiredFirst_iff (inputs : List Input) :
    Method.requiredFirst inputs = true ↔
      inputs.Pairwise fun a b => b.required = true → a.required = true := by
  induction inputs with
  | nil => simp [requiredFirst]
  | cons input rest ih =>
    rw [requiredFirst, List.pairwise_cons]
    by_cases hrequired : input.required = true
    · simp [hrequired, ih]
    · have hpairwise : (∀ b ∈ rest, b.required = false) →
          rest.Pairwise fun a b => b.required = true → a.required = true := by
        intro hnone
        refine List.pairwise_of_forall_mem_list fun a _ b hb htrue => ?_
        rw [hnone b hb] at htrue
        cases htrue
      simpa [hrequired] using hpairwise

namespace Engine

/-! ## The plugins of a session -/

/-- The plugins in an engine after a request, if `plugins` were in it before. -/
def pluginsAfter (e : Engine) (plugins : List Plugin) : Request → List Plugin
  | .register p =>
    match e.register p with
    | .error _ => plugins
    | .ok _ => if p.name ∈ e.pluginNames then plugins else plugins ++ [p]
  | .unregister name => plugins.filter (·.name ≠ name)
  | _ => plugins

/-- The plugins in an engine after some requests, if `plugins` were in it before. -/
def pluginsIn (e : Engine) (plugins : List Plugin) : List Request → List Plugin
  | [] => plugins
  | request :: rest => pluginsIn (e.handle request).2 (e.pluginsAfter plugins request) rest

/-- Each name in the engine belongs to one of the plugins. -/
structure Owned (e : Engine) (plugins : List Plugin) : Prop where
  names : e.pluginNames = plugins.map (·.name)
  namesOnce : e.pluginNames.Nodup
  /-- The methods are those that the plugins' records list, and no name is listed twice. -/
  methods : e.methods.names.Perm (e.installed.flatMap (·.methods))
  methodsOnce : (e.installed.flatMap (·.methods)).Nodup
  vars : e.vars.names.Perm (e.installed.flatMap (·.vars))
  varsOnce : (e.installed.flatMap (·.vars)).Nodup
  /-- A method is the first one of its name in the plugin that owns the name. -/
  first : ∀ name m, e.methods.get? name = some m → ∃ p ∈ plugins, ∃ record ∈ e.installed,
    record.name = p.name ∧ name ∈ record.methods ∧ p.methods.find? (·.name == name) = some m
  /-- A variable is declared by the plugin that owns the name; only its value may differ. -/
  declared : ∀ name v, e.vars.get? name = some v → ∃ p ∈ plugins, ∃ record ∈ e.installed,
    record.name = p.name ∧ name ∈ record.vars ∧
      ∃ d ∈ p.vars, d.name = name ∧ v = { d with value := v.value }
  accepted : ∀ name v, e.vars.get? name = some v → v.type.accepts v.value.type = true
  requiredFirst : ∀ name m, e.methods.get? name = some m →
    m.inputs.Pairwise fun a b => b.required = true → a.required = true

end Engine

/-! ## Shares -/

/-- What a plugin has brought in: the methods whose names were free, and its variables with
the values that they have by now. -/
structure Share where
  plugin : Plugin
  methods : List Method
  vars : List Variable

namespace Share

/-- The record of a share. -/
def record (s : Share) : Installed := ⟨s.plugin.name, s.methods.map (·.name), s.vars.map (·.name)⟩

def methodEntries (s : Share) : List (String × Method) := s.methods.map fun m => (m.name, m)

def varEntries (s : Share) : List (String × Variable) := s.vars.map fun v => (v.name, v)

/-- The share with a new value for the variable of a name. -/
def set (s : Share) (name : String) (value : Value) : Share :=
  { s with vars := s.vars.map fun v => if v.name = name then { v with value } else v }

theorem record_set (s : Share) (name : String) (value : Value) :
    (s.set name value).record = s.record := by
  unfold record set
  rw [List.map_map]
  congr 1
  refine List.map_congr_left fun v _ => ?_
  rw [Function.comp_apply]
  split <;> rfl

theorem names_methodEntries (s : Share) : s.methodEntries.map (·.1) = s.record.methods := by
  simp [methodEntries, record]

theorem names_varEntries (s : Share) : s.varEntries.map (·.1) = s.record.vars := by
  simp [varEntries, record]

/-- The share is what its plugin declares. -/
structure Sound (s : Share) : Prop where
  first : ∀ m ∈ s.methods, s.plugin.methods.find? (·.name == m.name) = some m
  requiredFirst : ∀ m ∈ s.methods, Method.requiredFirst m.inputs = true
  declared : ∀ v ∈ s.vars, ∃ d ∈ s.plugin.vars, v = { d with value := v.value }
  accepted : ∀ v ∈ s.vars, v.type.accepts v.value.type = true

end Share

/-- The plugins' shares are all that is in the engine. -/
structure Engine.SharedAmong (e : Engine) (shares : List Share) : Prop where
  installed : e.installed = shares.map Share.record
  methods : e.methods.entries = shares.flatMap Share.methodEntries
  vars : e.vars.entries = shares.flatMap Share.varEntries
  pluginsOnce : e.pluginNames.Nodup
  methodsOnce : e.methods.names.Nodup
  varsOnce : e.vars.names.Nodup
  sound : ∀ s ∈ shares, s.Sound

namespace Engine.SharedAmong

variable {e : Engine} {shares : List Share}

theorem pluginNames_eq (h : e.SharedAmong shares) :
    e.pluginNames = shares.map (·.plugin.name) := by
  rw [pluginNames, h.installed, List.map_map]
  rfl

theorem methodNames_eq (h : e.SharedAmong shares) :
    e.methods.names = e.installed.flatMap (·.methods) := by
  rw [NameTable.names, h.methods, h.installed, List.map_flatMap, List.flatMap_map]
  simp only [Share.names_methodEntries]

theorem varNames_eq (h : e.SharedAmong shares) :
    e.vars.names = e.installed.flatMap (·.vars) := by
  rw [NameTable.names, h.vars, h.installed, List.map_flatMap, List.flatMap_map]
  simp only [Share.names_varEntries]

/-- A method belongs to a share. -/
theorem exists_method (h : e.SharedAmong shares) {name : String} {m : Method}
    (hget : e.methods.get? name = some m) : ∃ s ∈ shares, m ∈ s.methods ∧ m.name = name := by
  rw [NameTable.get?_eq_some_iff h.methodsOnce, h.methods] at hget
  obtain ⟨s, hs, hentry⟩ := List.mem_flatMap.mp hget
  obtain ⟨m', hm', heq⟩ := List.mem_map.mp hentry
  cases heq
  exact ⟨s, hs, hm', rfl⟩

/-- A variable belongs to a share. -/
theorem exists_var (h : e.SharedAmong shares) {name : String} {v : Variable}
    (hget : e.vars.get? name = some v) : ∃ s ∈ shares, v ∈ s.vars ∧ v.name = name := by
  rw [NameTable.get?_eq_some_iff h.varsOnce, h.vars] at hget
  obtain ⟨s, hs, hentry⟩ := List.mem_flatMap.mp hget
  obtain ⟨v', hv', heq⟩ := List.mem_map.mp hentry
  cases heq
  exact ⟨s, hs, hv', rfl⟩

/-- An engine that is shared among plugins is owned by them. -/
theorem owned (h : e.SharedAmong shares) : e.Owned (shares.map (·.plugin)) := by
  refine ⟨?_, h.pluginsOnce, ?_, ?_, ?_, ?_, ?_, ?_, ?_, ?_⟩
  · rw [h.pluginNames_eq, List.map_map]
    rfl
  · rw [h.methodNames_eq]
  · rw [← h.methodNames_eq]
    exact h.methodsOnce
  · rw [h.varNames_eq]
  · rw [← h.varNames_eq]
    exact h.varsOnce
  · intro name m hget
    obtain ⟨s, hs, hm, rfl⟩ := h.exists_method hget
    refine ⟨s.plugin, List.mem_map_of_mem hs, s.record, ?_, rfl, ?_, (h.sound s hs).first m hm⟩
    · rw [h.installed]
      exact List.mem_map_of_mem hs
    · exact List.mem_map_of_mem hm
  · intro name v hget
    obtain ⟨s, hs, hv, rfl⟩ := h.exists_var hget
    obtain ⟨d, hd, heq⟩ := (h.sound s hs).declared v hv
    refine ⟨s.plugin, List.mem_map_of_mem hs, s.record, ?_, rfl, ?_, d, hd, ?_, heq⟩
    · rw [h.installed]
      exact List.mem_map_of_mem hs
    · exact List.mem_map_of_mem hv
    · rw [heq]
  · intro name v hget
    obtain ⟨s, hs, hv, -⟩ := h.exists_var hget
    exact (h.sound s hs).accepted v hv
  · intro name m hget
    obtain ⟨s, hs, hm, -⟩ := h.exists_method hget
    exact (Method.requiredFirst_iff _).mp ((h.sound s hs).requiredFirst m hm)

end Engine.SharedAmong

/-! ## Adding methods and variables -/

/-- A name that is taken stays with its method; a free one goes to the new method, if its
inputs are in order. -/
theorem MethodTable.add_cases {t t' : MethodTable} {m : Method} {free : Bool}
    (h : t.add m = .ok (free, t')) :
    (free = false ∧ t' = t ∧ m.name ∈ t.names) ∨
      (free = true ∧ t' = t.insert m.name m ∧ m.name ∉ t.names ∧
        Method.requiredFirst m.inputs = true) := by
  unfold add at h
  split at h
  · rename_i htaken
    cases h
    exact Or.inl ⟨rfl, rfl, (NameTable.contains_iff _ _).mp htaken⟩
  · rename_i hfree
    split at h
    · rename_i horder
      cases h
      exact Or.inr ⟨rfl, rfl, fun hmem => hfree ((NameTable.contains_iff _ _).mpr hmem), horder⟩
    · cases h

theorem VariableTable.eq_insert_of_add {t t' : VariableTable} {v : Variable}
    (h : t.add v = .ok t') :
    t' = t.insert v.name v ∧ v.name ∉ t.names ∧ v.type.accepts v.value.type = true := by
  unfold add at h
  split at h
  · cases h
  · rename_i hfree
    split at h
    · rename_i haccepts
      cases h
      exact ⟨rfl, fun hmem => hfree ((NameTable.contains_iff _ _).mpr hmem), haccepts⟩
    · cases h

theorem VariableTable.eq_replace_of_set {t t' : VariableTable} {name : String} {value : Value}
    (h : t.set name value = .ok t') : ∃ v, t.get? name = some v ∧
      v.type.accepts value.type = true ∧ t' = t.replace name { v with value } := by
  unfold set at h
  split at h
  · cases h
  · rename_i v hget
    split at h
    · rename_i haccepts
      cases h
      exact ⟨v, hget, haccepts, rfl⟩
    · cases h

namespace Engine

/-- Adding methods in turn adds the first one of each name that is free, and lists these
names. -/
theorem addMethods_spec (methods : List Method) : ∀ {t t' : MethodTable} {names : List String},
    t.names.Nodup → addMethods t methods = .ok (names, t') →
    ∃ added : List Method, names = added.map (·.name) ∧
      t'.entries = t.entries ++ added.map (fun m => (m.name, m)) ∧ t'.names.Nodup ∧
      (∀ m ∈ added, m.name ∉ t.names) ∧
      ∀ m ∈ added, methods.find? (·.name == m.name) = some m ∧
        Method.requiredFirst m.inputs = true := by
  induction methods with
  | nil =>
    intro t t' names hnodup h
    cases h
    exact ⟨[], rfl, by simp, hnodup, nofun, nofun⟩
  | cons m rest ih =>
    intro t t' names hnodup h
    rw [addMethods] at h
    obtain ⟨⟨free, t₁⟩, hadd, h⟩ := exists_of_bind_eq_ok h
    obtain ⟨⟨more, t₂⟩, hrest, h⟩ := exists_of_bind_eq_ok h
    cases h
    rcases MethodTable.add_cases hadd with ⟨rfl, rfl, htaken⟩ | ⟨rfl, rfl, hfree, horder⟩
    · obtain ⟨added, hnames, hentries, hnodup', hnew, hfirst⟩ := ih hnodup hrest
      refine ⟨added, hnames, hentries, hnodup', hnew, fun m' hm' => ?_⟩
      -- What is added later has a name that was free, unlike that of `m`.
      have hne : m.name ≠ m'.name := fun heq => hnew m' hm' (heq ▸ htaken)
      rw [List.find?_cons_of_neg (by simpa using hne)]
      exact hfirst m' hm'
    · obtain ⟨added, hnames, hentries, hnodup', hnew, hfirst⟩ :=
        ih (NameTable.nodup_insert hnodup hfree m) hrest
      simp only [NameTable.names_insert, List.mem_append, List.mem_singleton, not_or] at hnew
      refine ⟨m :: added, ?_, ?_, hnodup', ?_, ?_⟩
      · rw [hnames]
        rfl
      · simp [hentries, NameTable.insert]
      · intro m' hm'
        rcases List.mem_cons.mp hm' with rfl | hm'
        · exact hfree
        · exact (hnew m' hm').1
      · intro m' hm'
        rcases List.mem_cons.mp hm' with rfl | hm'
        · exact ⟨List.find?_cons_of_pos (by simp), horder⟩
        · have hne : m.name ≠ m'.name := fun heq => (hnew m' hm').2 heq.symm
          rw [List.find?_cons_of_neg (by simpa using hne)]
          exact hfirst m' hm'

/-- Declaring variables in turn adds all of them. -/
theorem addVariables_spec (vars : List Variable) : ∀ {t t' : VariableTable},
    t.names.Nodup → addVariables t vars = .ok t' →
    t'.entries = t.entries ++ vars.map (fun v => (v.name, v)) ∧ t'.names.Nodup ∧
      ∀ v ∈ vars, v.type.accepts v.value.type = true := by
  induction vars with
  | nil =>
    intro t t' hnodup h
    cases h
    exact ⟨by simp, hnodup, by simp⟩
  | cons v rest ih =>
    intro t t' hnodup h
    rw [addVariables] at h
    obtain ⟨t₁, hadd, h⟩ := exists_of_bind_eq_ok h
    obtain ⟨rfl, hfree, haccepts⟩ := VariableTable.eq_insert_of_add hadd
    obtain ⟨hentries, hnodup', hrest⟩ := ih (NameTable.nodup_insert hnodup hfree v) h
    refine ⟨by simp [hentries, NameTable.insert], hnodup', ?_⟩
    exact List.forall_mem_cons.mpr ⟨haccepts, hrest⟩

/-! ## Registering -/

theorem any_installed_iff (e : Engine) (name : String) :
    e.installed.any (·.name == name) = true ↔ name ∈ e.pluginNames := by
  simp [pluginNames]

namespace SharedAmong

variable {e e' : Engine} {shares : List Share}

/-- A plugin with a new name gets a share of its own; one whose name is there changes
nothing. -/
theorem register (h : e.SharedAmong shares) {p : Plugin} (hok : e.register p = .ok e') :
    (p.name ∈ e.pluginNames ∧ e' = e) ∨
      (p.name ∉ e.pluginNames ∧
        ∃ s : Share, s.plugin = p ∧ e'.SharedAmong (shares ++ [s])) := by
  rw [Engine.register, (staged_install p).result_eq] at hok
  split at hok
  · rename_i hinstalled
    cases hok
    exact Or.inl ⟨(any_installed_iff e p.name).mp hinstalled, rfl⟩
  · rename_i hinstalled
    have hname : p.name ∉ e.pluginNames :=
      fun hmem => hinstalled ((any_installed_iff e p.name).mpr hmem)
    obtain ⟨⟨names, methods⟩, hmethods, hok⟩ := exists_of_bind_eq_ok hok
    obtain ⟨vars, hvars, hok⟩ := exists_of_bind_eq_ok hok
    cases hok
    obtain ⟨added, rfl, hmentries, hmnodup, -, hfirst⟩ :=
      addMethods_spec p.methods h.methodsOnce hmethods
    obtain ⟨hventries, hvnodup, haccepts⟩ := addVariables_spec p.vars h.varsOnce hvars
    refine Or.inr ⟨hname, ⟨p, added, p.vars⟩, rfl, ?_, ?_, ?_, ?_, hmnodup, hvnodup, ?_⟩
    · simp [h.installed, Share.record]
    · simp [hmentries, h.methods, Share.methodEntries]
    · simp [hventries, h.vars, Share.varEntries]
    · rw [pluginNames, List.map_append, List.map_singleton, List.nodup_append]
      refine ⟨h.pluginsOnce, by simp, fun other hother last hlast heq => hname ?_⟩
      have hsame : other = p.name := heq.trans (List.mem_singleton.mp hlast)
      exact hsame ▸ hother
    · intro s hs
      rcases List.mem_append.mp hs with hs | hs
      · exact h.sound s hs
      · rw [List.mem_singleton.mp hs]
        exact ⟨fun m hm => (hfirst m hm).1, fun m hm => (hfirst m hm).2,
          fun v hv => ⟨v, hv, rfl⟩, haccepts⟩

/-! ## Unregistering -/

/-- Taking the names of one block out leaves the blocks around it. -/
theorem filter_block {α : Type} {before block behind : List (String × α)}
    (h : ((before ++ (block ++ behind)).map (·.1)).Nodup) :
    (before ++ (block ++ behind)).filter (·.1 ∉ block.map (·.1)) = before ++ behind := by
  simp only [List.map_append, List.nodup_append] at h
  obtain ⟨-, ⟨-, -, hbehind⟩, hbefore⟩ := h
  have hkeep : ∀ pairs : List (String × α),
      (∀ pair ∈ pairs, pair.1 ∉ block.map (·.1)) → pairs.filter (·.1 ∉ block.map (·.1)) = pairs := by
    intro pairs hpairs
    rw [List.filter_eq_self]
    simpa using hpairs
  have hdrop : block.filter (·.1 ∉ block.map (·.1)) = [] := by
    rw [List.filter_eq_nil_iff]
    intro pair hpair
    simpa using ⟨pair.2, hpair⟩
  rw [List.filter_append, List.filter_append, hdrop, List.nil_append, hkeep before, hkeep behind]
  · intro pair hpair hmem
    exact hbehind pair.1 hmem pair.1 (List.mem_map_of_mem hpair) rfl
  · intro pair hpair hmem
    exact hbefore pair.1 (List.mem_map_of_mem hpair) pair.1 (List.mem_append_left _ hmem) rfl

/-- The record of a name comes from one share, and the shares around it are of other names. -/
theorem exists_block (h : e.SharedAmong shares) {name : String} {record : Installed}
    (hfind : e.installed.find? (·.name == name) = some record) :
    ∃ before s behind, shares = before ++ s :: behind ∧ record = s.record ∧
      s.plugin.name = name ∧ (∀ other ∈ before, other.plugin.name ≠ name) ∧
      ∀ other ∈ behind, other.plugin.name ≠ name := by
  have hname := List.find?_some hfind
  have hmem := List.mem_of_find?_eq_some hfind
  rw [h.installed] at hmem
  obtain ⟨s, hs, rfl⟩ := List.mem_map.mp hmem
  obtain ⟨before, behind, rfl⟩ := List.append_of_mem hs
  have hsname : s.plugin.name = name := by simpa [Share.record] using hname
  have honce := h.pluginsOnce
  rw [h.pluginNames_eq, List.map_append, List.map_cons, List.nodup_append,
    List.nodup_cons] at honce
  refine ⟨before, s, behind, rfl, rfl, hsname, ?_, ?_⟩
  · intro other hother heq
    exact honce.2.2 _ (List.mem_map_of_mem hother) s.plugin.name (by simp) (heq.trans hsname.symm)
  · intro other hother heq
    exact honce.2.1.1 (List.mem_map.mpr ⟨other, hother, heq.trans hsname.symm⟩)

/-- A plugin goes with its share, and the other shares stay. -/
theorem unregister (h : e.SharedAmong shares) (name : String) :
    (e.unregister name).2.SharedAmong (shares.filter (·.plugin.name ≠ name)) := by
  unfold Engine.unregister
  cases hfind : e.installed.find? (·.name == name) with
  | none =>
    have hall : shares.filter (·.plugin.name ≠ name) = shares := by
      rw [List.filter_eq_self]
      intro s hs
      have := List.find?_eq_none.mp hfind s.record (h.installed ▸ List.mem_map_of_mem hs)
      simpa [Share.record] using this
    rw [hall]
    exact h
  | some record =>
    obtain ⟨before, s, behind, rfl, rfl, hsname, hbefore, hbehind⟩ := h.exists_block hfind
    have hfilter : (before ++ s :: behind).filter (·.plugin.name ≠ name) = before ++ behind := by
      rw [List.filter_append, List.filter_cons_of_neg (by simpa using hsname),
        List.filter_eq_self.mpr (by simpa using hbefore),
        List.filter_eq_self.mpr (by simpa using hbehind)]
    have herase : e.installed.eraseP (·.name == name) = (before ++ behind).map Share.record := by
      rw [h.installed, List.map_append, List.map_cons, List.eraseP_append_right,
        List.eraseP_cons_of_pos (by simpa [Share.record] using hsname), List.map_append]
      simpa [Share.record] using hbefore
    have hmethods := h.methodsOnce
    have hvars := h.varsOnce
    rw [NameTable.names, h.methods, List.flatMap_append, List.flatMap_cons] at hmethods
    rw [NameTable.names, h.vars, List.flatMap_append, List.flatMap_cons] at hvars
    rw [hfilter]
    -- The names in the record are those of the share's own entries, so these are what is erased.
    refine ⟨herase, ?_, ?_, ?_, NameTable.nodup_eraseAll h.methodsOnce _,
      NameTable.nodup_eraseAll h.varsOnce _, ?_⟩
    · rw [NameTable.entries_eraseAll, h.methods, ← Share.names_methodEntries,
        List.flatMap_append, List.flatMap_cons, List.flatMap_append, filter_block hmethods]
    · rw [NameTable.entries_eraseAll, h.vars, ← Share.names_varEntries,
        List.flatMap_append, List.flatMap_cons, List.flatMap_append, filter_block hvars]
    · exact h.pluginsOnce.sublist ((List.eraseP_sublist).map _)
    · intro other hother
      refine h.sound other ?_
      rw [List.mem_append] at hother
      rw [List.mem_append, List.mem_cons]
      tauto

/-! ## Setting variables -/

theorem get?_var (h : e.SharedAmong shares) {s : Share} (hs : s ∈ shares) {v : Variable}
    (hv : v ∈ s.vars) : e.vars.get? v.name = some v := by
  rw [NameTable.get?_eq_some_iff h.varsOnce, h.vars]
  exact List.mem_flatMap.mpr ⟨s, hs, List.mem_map_of_mem hv⟩

/-- A variable that is set has its new value in the share that it belongs to. -/
theorem setVariable (h : e.SharedAmong shares) {name : String} {value : Value}
    (hok : e.setVariable name value = .ok e') :
    e'.SharedAmong (shares.map (·.set name value)) := by
  rw [Engine.setVariable, (staged_assign name value).result_eq] at hok
  cases hset : e.vars.set name value with
  | error fault =>
    rw [hset] at hok
    cases hok
  | ok vars =>
    rw [hset] at hok
    cases hok
    obtain ⟨found, hfound, haccepts, rfl⟩ := VariableTable.eq_replace_of_set hset
    refine ⟨?_, ?_, ?_, h.pluginsOnce, h.methodsOnce, ?_, ?_⟩
    · rw [h.installed, List.map_map]
      exact List.map_congr_left fun s _ => (s.record_set name value).symm
    · rw [h.methods, List.flatMap_map]
      rfl
    · rw [NameTable.replace, h.vars, List.map_flatMap, List.flatMap_map]
      refine List.flatMap_congr fun s hs => ?_
      rw [Share.varEntries, Share.varEntries, Share.set, List.map_map, List.map_map]
      refine List.map_congr_left fun v hv => ?_
      by_cases hname : v.name = name
      · have hget := h.get?_var hs hv
        rw [hname, hfound] at hget
        cases hget
        simp [hname]
      · simp [hname]
    · rw [NameTable.names_replace]
      exact h.varsOnce
    · intro _ hmem
      obtain ⟨s, hs, rfl⟩ := List.mem_map.mp hmem
      have hsound := h.sound s hs
      refine ⟨hsound.first, hsound.requiredFirst, ?_, ?_⟩
      · intro _ hvar
        obtain ⟨v, hv, rfl⟩ := List.mem_map.mp hvar
        obtain ⟨d, hd, heq⟩ := hsound.declared v hv
        refine ⟨d, hd, ?_⟩
        split
        · rw [heq]
        · exact heq
      · intro _ hvar
        obtain ⟨v, hv, rfl⟩ := List.mem_map.mp hvar
        split
        · rename_i hname
          have hget := h.get?_var hs hv
          rw [hname, hfound] at hget
          cases hget
          exact haccepts
        · exact hsound.accepted v hv

/-! ## The law -/

/-- One request leaves the engine shared among the plugins that are in it then. -/
theorem handle (h : e.SharedAmong shares) (request : Request) :
    ∃ shares' : List Share, (e.handle request).2.SharedAmong shares' ∧
      shares'.map (·.plugin) = e.pluginsAfter (shares.map (·.plugin)) request := by
  -- What is remembered of formulas has no part in it.
  have hcache : ∀ c : TreeCache, { e with cache := c }.SharedAmong shares := fun c =>
    ⟨h.installed, h.methods, h.vars, h.pluginsOnce, h.methodsOnce, h.varsOnce, h.sound⟩
  cases request with
  | register p =>
    rw [handle_register, pluginsAfter]
    cases hok : e.register p with
    | error fault => exact ⟨shares, h, rfl⟩
    | ok e' =>
      rcases h.register hok with ⟨hname, rfl⟩ | ⟨hname, s, hs, hshares⟩
      · exact ⟨shares, h, by simp [hname]⟩
      · exact ⟨shares ++ [s], hshares, by simp [hname, hs]⟩
  | unregister name =>
    refine ⟨_, h.unregister name, ?_⟩
    rw [pluginsAfter, List.filter_map]
    rfl
  | setVariable name value =>
    rw [handle_setVariable]
    cases hok : e.setVariable name value with
    | error fault => exact ⟨shares, h, rfl⟩
    | ok e' => exact ⟨_, h.setVariable hok, by rw [List.map_map]; rfl⟩
  | calculate text bindings => exact ⟨shares, hcache _, rfl⟩
  | parse text => exact ⟨shares, hcache _, rfl⟩
  | clearCache => exact ⟨shares, hcache _, rfl⟩
  | _ => exact ⟨shares, h, rfl⟩

/-- So it is after any requests. -/
theorem after (requests : List Request) : ∀ {e : Engine} {shares : List Share},
    e.SharedAmong shares → ∃ shares' : List Share, (e.after requests).SharedAmong shares' ∧
      shares'.map (·.plugin) = e.pluginsIn (shares.map (·.plugin)) requests := by
  induction requests with
  | nil => exact fun h => ⟨_, h, rfl⟩
  | cons request rest ih =>
    intro e shares h
    obtain ⟨shares₁, h₁, hplugins₁⟩ := h.handle request
    obtain ⟨shares₂, h₂, hplugins₂⟩ := ih h₁
    exact ⟨shares₂, h₂, by rw [hplugins₂, hplugins₁, pluginsIn]⟩

end SharedAmong

theorem sharedAmong_empty (capacity : Nat) : (empty capacity).SharedAmong [] :=
  ⟨rfl, rfl, rfl, List.nodup_nil, List.nodup_nil, List.nodup_nil, nofun⟩

/-- The law of names. Whatever an engine has been asked, each method and each variable in it
belongs to one of its plugins; and a request that is refused changes nothing. -/
theorem owned_after (capacity : Nat) (requests : List Request) :
    ((empty capacity).after requests).Owned ((empty capacity).pluginsIn [] requests) ∧
      ∀ request fault,
        (((empty capacity).after requests).handle request).1 = .done (.error fault) →
        (((empty capacity).after requests).handle request).2 =
          (empty capacity).after requests := by
  obtain ⟨shares, hshares, hplugins⟩ := (sharedAmong_empty capacity).after requests
  refine ⟨?_, fun request fault h => handle_of_refused h⟩
  have howned := hshares.owned
  rwa [hplugins] at howned

/-- A plugin with a method and a variable. -/
def counter (name : String) : Plugin :=
  ⟨name, [⟨"count", none, [], .number, fun args => .ok (.number (.ofInt args.length))⟩],
    [⟨"n", none, .number, .number (.ofInt 1)⟩]⟩

/-- A second plugin with the variable is refused, and its method is not there either. -/
theorem owned_after_twin :
    ((empty 0).after [.register (counter "first")]).Owned [counter "first"] ∧
      (((empty 0).after [.register (counter "first")]).handle (.register (counter "second"))).1 =
        .done (.error (.redeclaredVariable "n")) ∧
      (((empty 0).after [.register (counter "first")]).handle (.register (counter "second"))).2 =
        (empty 0).after [.register (counter "first")] :=
  have hrefused : (((empty 0).after [.register (counter "first")]).handle
      (.register (counter "second"))).1 = .done (.error (.redeclaredVariable "n")) := rfl
  ⟨(owned_after 0 [.register (counter "first")]).1, hrefused,
    (owned_after 0 [.register (counter "first")]).2 _ _ hrefused⟩

end Engine

end Formulary
