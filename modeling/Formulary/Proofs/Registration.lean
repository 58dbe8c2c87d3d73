-- Plugins come and go without traces. What a plugin brings in is settled by the names that
-- are taken when it comes, so it goes with all of it, and plugins that have no name in common
-- do not see each other.
import Formulary.Proofs.CacheInvisible
import Formulary.Proofs.Ownership

namespace Formulary

/-- Where no name stands twice, the order of the entries does not show. -/
theorem NameTable.get?_eq_of_perm {α : Type} {t u : NameTable α} (h : t.entries.Perm u.entries)
    (hnodup : t.names.Nodup) (name : String) : t.get? name = u.get? name := by
  have hnodup' : u.names.Nodup := (h.map _).nodup_iff.mp hnodup
  refine Option.ext fun entry => ?_
  rw [get?_eq_some_iff hnodup, get?_eq_some_iff hnodup', h.mem_iff]

namespace Engine

/-! ## An engine is what its plugins share -/

/-- Two engines that are shared in the same way differ in their memories at most. -/
theorem SharedAmong.eq_withCache {e e' : Engine} {shares : List Share}
    (h : e.SharedAmong shares) (h' : e'.SharedAmong shares) : e' = e.withCache e'.cache := by
  obtain ⟨⟨methods⟩, ⟨vars⟩, installed, cache⟩ := e
  obtain ⟨⟨methods'⟩, ⟨vars'⟩, installed', cache'⟩ := e'
  have hmethods : methods' = methods := h'.methods.trans h.methods.symm
  have hvars : vars' = vars := h'.vars.trans h.vars.symm
  have hinstalled : installed' = installed := h'.installed.trans h.installed.symm
  rw [hmethods, hvars, hinstalled]
  rfl

theorem cache_unregister (e : Engine) (name : String) : (e.unregister name).2.cache = e.cache := by
  have hsame := congrArg (·.2.cache) (unregister_withCache e e.cache name)
  exact hsame

/-! ## Unregistering -/

/-- After some plugins have been taken out, the shares of the others are left. -/
theorem SharedAmong.unregisterAll {e : Engine} {shares : List Share} (h : e.SharedAmong shares)
    (names : List String) :
    (e.after (names.map .unregister)).SharedAmong (shares.filter (·.plugin.name ∉ names)) ∧
      (e.after (names.map .unregister)).cache = e.cache := by
  induction names generalizing e shares with
  | nil =>
    refine ⟨?_, rfl⟩
    rw [List.filter_eq_self.mpr (by simp)]
    exact h
  | cons name rest ih =>
    obtain ⟨hshares, hcache⟩ := ih (h.unregister name)
    refine ⟨?_, hcache.trans (cache_unregister e name)⟩
    have hfilter : (shares.filter (·.plugin.name ≠ name)).filter (·.plugin.name ∉ rest) =
        shares.filter (·.plugin.name ∉ name :: rest) := by
      rw [List.filter_filter]
      refine List.filter_congr fun s _ => ?_
      rw [← Bool.decide_and, decide_eq_decide, List.mem_cons, not_or]
      exact and_comm
    rw [← hfilter]
    exact hshares

/-- The order in which plugins are taken out makes no difference. -/
theorem SharedAmong.unregisterAll_eq {e : Engine} {shares : List Share} (h : e.SharedAmong shares)
    {names names' : List String} (hsame : ∀ name, name ∈ names ↔ name ∈ names') :
    e.after (names.map .unregister) = e.after (names'.map .unregister) := by
  obtain ⟨hleft, hcache⟩ := h.unregisterAll names
  obtain ⟨hleft', hcache'⟩ := h.unregisterAll names'
  have hfilter : shares.filter (·.plugin.name ∉ names') = shares.filter (·.plugin.name ∉ names) :=
    List.filter_congr fun s _ => by rw [decide_eq_decide, hsame]
  rw [hfilter] at hleft'
  rw [hleft.eq_withCache hleft', hcache', ← hcache]
  rfl

theorem SharedAmong.pluginNames_unregisterAll {e : Engine} {shares : List Share}
    (h : e.SharedAmong shares) (names : List String) :
    (e.after (names.map .unregister)).pluginNames = e.pluginNames.filter (· ∉ names) := by
  rw [(h.unregisterAll names).1.pluginNames_eq, h.pluginNames_eq, List.filter_map]
  rfl

/-- A plugin that came last goes without a trace. -/
theorem SharedAmong.unregister_register {e e' : Engine} {shares : List Share}
    (h : e.SharedAmong shares) {p : Plugin} (hname : p.name ∉ e.pluginNames)
    (hok : e.register p = .ok e') : e'.unregister p.name = (true, e) := by
  rcases h.register hok with ⟨hmem, -⟩ | ⟨-, s, rfl, hshares⟩
  · exact absurd hmem hname
  · have hshare : s.record ∈ e'.installed := by
      rw [hshares.installed]
      simp
    have hfound : (e'.unregister s.plugin.name).1 = true := by
      unfold Engine.unregister
      cases hfind : e'.installed.find? (·.name == s.plugin.name) with
      | none => exact absurd (List.find?_eq_none.mp hfind s.record hshare) (by simp [Share.record])
      | some record => rfl
    have hfilter : (shares ++ [s]).filter (·.plugin.name ≠ s.plugin.name) = shares := by
      rw [List.filter_append, List.filter_cons_of_neg (by simp), List.filter_nil, List.append_nil,
        List.filter_eq_self]
      intro other hother
      rw [h.pluginNames_eq] at hname
      have hne : other.plugin.name ≠ s.plugin.name :=
        fun heq => hname (heq ▸ List.mem_map_of_mem hother)
      simpa using hne
    have hleft := hshares.unregister s.plugin.name
    rw [hfilter] at hleft
    refine Prod.ext hfound ?_
    rw [h.eq_withCache hleft, cache_unregister, cache_of_register hok]
    rfl

/-! ## What a plugin brings in -/

/-- The methods that come in where some names are taken: the first one of each other name. -/
def newMethods (taken : List String) : List Method → Except Fault (List Method)
  | [] => .ok []
  | m :: rest =>
    if m.name ∈ taken then newMethods taken rest
    else if Method.requiredFirst m.inputs then (m :: ·) <$> newMethods (taken ++ [m.name]) rest
    else .error (.requiredAfterOptional m.name)

/-- Judges variables that come in where some names are taken. -/
def checkVariables (taken : List String) : List Variable → Except Fault Unit
  | [] => .ok ()
  | v :: rest =>
    if v.name ∈ taken then .error (.redeclaredVariable v.name)
    else if v.type.accepts v.value.type then checkVariables (taken ++ [v.name]) rest
    else .error (.valueType v.value.type v.type)

theorem addMethods_eq (t : MethodTable) (methods : List Method) :
    addMethods t methods = (fun added => (added.map (·.name),
      ⟨t.entries ++ added.map fun m => (m.name, m)⟩)) <$> newMethods t.names methods := by
  induction methods generalizing t with
  | nil => simp [addMethods, newMethods]
  | cons m rest ih =>
    rw [addMethods, newMethods, MethodTable.add]
    by_cases htaken : m.name ∈ t.names
    · rw [if_pos ((t.contains_iff _).mpr htaken), if_pos htaken, ok_bind]
      dsimp only
      rw [ih]
      cases newMethods t.names rest <;> rfl
    · rw [if_neg (fun h => htaken ((t.contains_iff _).mp h)), if_neg htaken]
      by_cases horder : Method.requiredFirst m.inputs = true
      · rw [if_pos horder, if_pos horder, ok_bind]
        dsimp only
        rw [ih, NameTable.names_insert]
        cases newMethods (t.names ++ [m.name]) rest with
        | error fault => rfl
        | ok added => simp [NameTable.insert]
      · rw [if_neg horder, if_neg horder]
        rfl

theorem addVariables_eq (t : VariableTable) (vars : List Variable) :
    addVariables t vars =
      (fun _ => ⟨t.entries ++ vars.map fun v => (v.name, v)⟩) <$> checkVariables t.names vars := by
  induction vars generalizing t with
  | nil => simp [addVariables, checkVariables]
  | cons v rest ih =>
    rw [addVariables, checkVariables, VariableTable.add]
    by_cases htaken : v.name ∈ t.names
    · rw [if_pos ((t.contains_iff _).mpr htaken), if_pos htaken]
      rfl
    · rw [if_neg (fun h => htaken ((t.contains_iff _).mp h)), if_neg htaken]
      by_cases haccepts : v.type.accepts v.value.type = true
      · rw [if_pos haccepts, if_pos haccepts, ok_bind, ih, NameTable.names_insert]
        simp [NameTable.insert]
      · rw [if_neg haccepts, if_neg haccepts]
        rfl

/-- Names that a plugin does not have may be taken or free. -/
theorem newMethods_congr {taken taken' : List String} (methods : List Method)
    (h : ∀ m ∈ methods, m.name ∈ taken ↔ m.name ∈ taken') :
    newMethods taken methods = newMethods taken' methods := by
  induction methods generalizing taken taken' with
  | nil => rfl
  | cons m rest ih =>
    rw [List.forall_mem_cons] at h
    rw [newMethods, newMethods, ih h.2]
    have hmore : newMethods (taken ++ [m.name]) rest = newMethods (taken' ++ [m.name]) rest :=
      ih fun m' hm' => by rw [List.mem_append, List.mem_append, h.2 m' hm']
    simp only [h.1, hmore]

theorem checkVariables_congr {taken taken' : List String} (vars : List Variable)
    (h : ∀ v ∈ vars, v.name ∈ taken ↔ v.name ∈ taken') :
    checkVariables taken vars = checkVariables taken' vars := by
  induction vars generalizing taken taken' with
  | nil => rfl
  | cons v rest ih =>
    rw [List.forall_mem_cons] at h
    have hmore : checkVariables (taken ++ [v.name]) rest = checkVariables (taken' ++ [v.name]) rest :=
      ih fun v' hv' => by rw [List.mem_append, List.mem_append, h.2 v' hv']
    rw [checkVariables, checkVariables, hmore]
    simp only [h.1]

/-- What comes in is declared by the plugin. -/
theorem subset_of_newMethods {taken : List String} {methods added : List Method}
    (h : newMethods taken methods = .ok added) : added ⊆ methods := by
  induction methods generalizing taken added with
  | nil =>
    cases h
    exact List.Subset.refl _
  | cons m rest ih =>
    rw [newMethods] at h
    split at h
    · exact List.subset_cons_of_subset m (ih h)
    · split at h
      · cases hmore : newMethods (taken ++ [m.name]) rest with
        | error fault =>
          rw [hmore] at h
          cases h
        | ok more =>
          rw [hmore] at h
          cases h
          exact List.cons_subset_cons m (ih hmore)
      · cases h

/-! ## Registering -/

/-- The share that a plugin gets, if it is let in. -/
def shareOf (e : Engine) (p : Plugin) : Except Fault Share := do
  let methods ← newMethods e.methods.names p.methods
  checkVariables e.vars.names p.vars
  pure ⟨p, methods, p.vars⟩

/-- The engine with one more share. -/
def join (e : Engine) (s : Share) : Engine :=
  { e with methods := ⟨e.methods.entries ++ s.methodEntries⟩
           vars := ⟨e.vars.entries ++ s.varEntries⟩
           installed := e.installed ++ [s.record] }

/-- The engine after a plugin has been let in or not. -/
def settle (e : Engine) : Except Fault Share → Engine
  | .error _ => e
  | .ok s => e.join s

theorem register_eq {e : Engine} {p : Plugin} (hname : p.name ∉ e.pluginNames) :
    e.register p = e.join <$> e.shareOf p := by
  rw [register, (staged_install p).result_eq,
    if_neg (fun h => hname ((any_installed_iff e p.name).mp h)), addMethods_eq, addVariables_eq,
    shareOf]
  cases newMethods e.methods.names p.methods with
  | error fault => rfl
  | ok added => cases checkVariables e.vars.names p.vars <;> rfl

theorem handle_register_eq {e : Engine} {p : Plugin} (hname : p.name ∉ e.pluginNames) :
    e.handle (.register p) =
      (.done ((e.shareOf p).map fun _ => ()), e.settle (e.shareOf p)) := by
  rw [handle_register, register_eq hname]
  cases e.shareOf p <;> rfl

/-- What a plugin gets is declared by it. -/
theorem of_shareOf {e : Engine} {p : Plugin} {s : Share} (h : e.shareOf p = .ok s) :
    s.plugin = p ∧ s.methods ⊆ p.methods ∧ s.vars = p.vars := by
  unfold shareOf at h
  obtain ⟨methods, hmethods, h⟩ := exists_of_bind_eq_ok h
  obtain ⟨_, -, h⟩ := exists_of_bind_eq_ok h
  cases h
  exact ⟨rfl, subset_of_newMethods hmethods, rfl⟩

/-! ## Plugins that do not meet -/

/-- The plugins have different names, and neither declares a name that the other one does. -/
structure Apart (p q : Plugin) : Prop where
  names : p.name ≠ q.name
  methods : ∀ m ∈ p.methods, ∀ m' ∈ q.methods, m.name ≠ m'.name
  vars : ∀ v ∈ p.vars, ∀ v' ∈ q.vars, v.name ≠ v'.name

namespace Apart

variable {e : Engine} {p q : Plugin}

theorem symm (h : Apart p q) : Apart q p :=
  ⟨h.names.symm, fun m hm m' hm' => (h.methods m' hm' m hm).symm,
    fun v hv v' hv' => (h.vars v' hv' v hv).symm⟩

/-- The name of one is free whether the other one is let in or not. -/
theorem notMem_pluginNames (h : Apart p q) (hq : q.name ∉ e.pluginNames) :
    q.name ∉ (e.settle (e.shareOf p)).pluginNames := by
  cases hs : e.shareOf p with
  | error fault => exact hq
  | ok s =>
    obtain ⟨hplugin, -⟩ := of_shareOf hs
    rw [settle, pluginNames, join, List.map_append, List.mem_append]
    rintro (hold | hnew)
    · exact hq hold
    · rw [List.map_singleton, List.mem_singleton, Share.record, hplugin] at hnew
      exact h.names hnew.symm

/-- One gets the same share whether the other one is let in or not. -/
theorem shareOf_eq (h : Apart p q) : (e.settle (e.shareOf p)).shareOf q = e.shareOf q := by
  cases hs : e.shareOf p with
  | error fault => rfl
  | ok s =>
    obtain ⟨-, hmethods, hvars⟩ := of_shareOf hs
    have hm : ∀ m' ∈ q.methods, m'.name ∈ (e.join s).methods.names ↔ m'.name ∈ e.methods.names := by
      intro m' hm'
      rw [NameTable.names, join, List.map_append, List.mem_append]
      refine or_iff_left fun hnew => ?_
      rw [Share.names_methodEntries, Share.record, List.mem_map] at hnew
      obtain ⟨m, hmem, heq⟩ := hnew
      exact h.methods m (hmethods hmem) m' hm' heq
    have hv : ∀ v' ∈ q.vars, v'.name ∈ (e.join s).vars.names ↔ v'.name ∈ e.vars.names := by
      intro v' hv'
      rw [NameTable.names, join, List.map_append, List.mem_append]
      refine or_iff_left fun hnew => ?_
      rw [Share.names_varEntries, Share.record, hvars, List.mem_map] at hnew
      obtain ⟨v, hmem, heq⟩ := hnew
      exact h.vars v hmem v' hv' heq
    rw [settle, shareOf, shareOf, newMethods_congr _ hm, checkVariables_congr _ hv]

/-- Both come in, or are refused, in the same way in either order. -/
theorem answers_eq (h : Apart p q) (hp : p.name ∉ e.pluginNames) (hq : q.name ∉ e.pluginNames) :
    e.answers [.register p, .register q] =
        [.done ((e.shareOf p).map fun _ => ()), .done ((e.shareOf q).map fun _ => ())] ∧
      e.after [.register p, .register q] = (e.settle (e.shareOf p)).settle (e.shareOf q) := by
  have hfirst := handle_register_eq hp
  have hsecond := handle_register_eq (h.notMem_pluginNames hq)
  rw [h.shareOf_eq] at hsecond
  refine ⟨?_, ?_⟩
  · rw [answers, answers, answers, hfirst, hsecond]
  · rw [after_cons, after_cons, hfirst, hsecond]
    rfl

end Apart

/-! ## Either order -/

/-- Two shares end up in the tables in either order. -/
theorem perm_settle (e : Engine) (r r' : Except Fault Share) :
    ((e.settle r).settle r').methods.entries.Perm ((e.settle r').settle r).methods.entries ∧
      ((e.settle r).settle r').vars.entries.Perm ((e.settle r').settle r).vars.entries := by
  cases r with
  | error fault => exact ⟨.refl _, .refl _⟩
  | ok s =>
    cases r' with
    | error fault => exact ⟨.refl _, .refl _⟩
    | ok s' =>
      simp only [settle, join, List.append_assoc]
      exact ⟨List.perm_append_comm.append_left _, List.perm_append_comm.append_left _⟩

/-- The engines know the same methods and variables, though perhaps in another order. -/
structure KnowsSame (e e' : Engine) : Prop where
  methods : e.methods.entries.Perm e'.methods.entries
  vars : e.vars.entries.Perm e'.vars.entries
  getMethod : ∀ name, e.methods.get? name = e'.methods.get? name
  getVar : ∀ name, e.vars.get? name = e'.vars.get? name

theorem SharedAmong.knowsSame {e e' : Engine} {shares : List Share} (h : e.SharedAmong shares)
    (hmethods : e.methods.entries.Perm e'.methods.entries)
    (hvars : e.vars.entries.Perm e'.vars.entries) : e.KnowsSame e' :=
  ⟨hmethods, hvars, NameTable.get?_eq_of_perm hmethods h.methodsOnce,
    NameTable.get?_eq_of_perm hvars h.varsOnce⟩

/-! ## The law -/

/-- The law of registration. A plugin that comes and goes leaves no trace. Plugins go in any
order with the same outcome, and the others stay. Two that have no name in common are answered
alike in either order, and bring in the same. -/
theorem registration_traceless {e : Engine} (h : e.Reachable) :
    (∀ p e', p.name ∉ e.pluginNames → e.register p = .ok e' →
      e'.unregister p.name = (true, e)) ∧
    (∀ names names' : List String, (∀ name, name ∈ names ↔ name ∈ names') →
      e.after (names.map .unregister) = e.after (names'.map .unregister) ∧
      (e.after (names.map .unregister)).pluginNames = e.pluginNames.filter (· ∉ names)) ∧
    ∀ p q, Apart p q → p.name ∉ e.pluginNames → q.name ∉ e.pluginNames →
      (∃ first second, e.answers [.register p, .register q] = [first, second] ∧
        e.answers [.register q, .register p] = [second, first]) ∧
      (e.after [.register p, .register q]).KnowsSame (e.after [.register q, .register p]) := by
  obtain ⟨capacity, requests, rfl⟩ := h
  obtain ⟨shares, hshares, -⟩ := (sharedAmong_empty capacity).after requests
  refine ⟨fun p e' hname hok => hshares.unregister_register hname hok, fun names names' hsame =>
    ⟨hshares.unregisterAll_eq hsame, hshares.pluginNames_unregisterAll names⟩,
    fun p q hapart hp hq => ?_⟩
  obtain ⟨hanswers, hafter⟩ := hapart.answers_eq hp hq
  obtain ⟨hanswers', hafter'⟩ := hapart.symm.answers_eq hq hp
  refine ⟨⟨_, _, hanswers, hanswers'⟩, ?_⟩
  obtain ⟨_, hboth, -⟩ := hshares.after [.register p, .register q]
  have hperm := perm_settle ((empty capacity).after requests)
    (shareOf ((empty capacity).after requests) p) (shareOf ((empty capacity).after requests) q)
  rw [← hafter, ← hafter'] at hperm
  exact hboth.knowsSame hperm.1 hperm.2

/-- A plugin with a method that another plugin has, and one that it declares twice. -/
def abacus : Plugin :=
  ⟨"abacus", [⟨"count", none, [], .text, fun _ => .ok (.text "beads")⟩,
    ⟨"rows", none, [], .number, fun _ => .ok (.number (.ofInt 10))⟩,
    ⟨"rows", none, [], .number, fun _ => .ok (.number (.ofInt 12))⟩], []⟩

/-- A plugin that declares a variable of `counter` once more. -/
def recount : Plugin := ⟨"recount", [], [⟨"n", none, .number, .number (.ofInt 2)⟩]⟩

/-- The first one goes with the method that it brought in, and the method that was there stays.
The second one is refused, whether it comes before the first one or after it. -/
theorem registration_traceless_abacus :
    (∃ e', ((empty 0).after [.register (counter "first")]).register abacus = .ok e' ∧
      e'.methods.names = ["count", "rows"] ∧
      e'.unregister "abacus" = (true, (empty 0).after [.register (counter "first")])) ∧
    (((empty 0).after [.register (counter "first")]).after [.register abacus,
      .register recount]).KnowsSame
        (((empty 0).after [.register (counter "first")]).after [.register recount,
          .register abacus]) := by
  have hreach : ((empty 0).after [.register (counter "first")]).Reachable := ⟨0, _, rfl⟩
  have hapart : Apart abacus recount := ⟨by decide, by simp [recount], by simp [abacus]⟩
  obtain ⟨hgone, -, heither⟩ := registration_traceless hreach
  exact ⟨⟨_, rfl, rfl, hgone abacus _ (by decide) rfl⟩,
    (heither abacus recount hapart (by decide) (by decide)).2⟩

end Engine

end Formulary
