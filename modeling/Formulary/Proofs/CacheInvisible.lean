-- The memory for trees does not show in what an engine answers. Two engines that differ in
-- their memories only give the same answers, and stay engines that differ in their memories
-- only.
import Formulary.Proofs.CacheInvariant
import Formulary.Proofs.Session

namespace Formulary.Engine

/-! ## Another memory -/

/-- The engine with another memory for trees. -/
def withCache (e : Engine) (c : TreeCache) : Engine := { e with cache := c }

@[simp] theorem withCache_cache (e : Engine) : e.withCache e.cache = e := rfl

@[simp] theorem cache_withCache (e : Engine) (c : TreeCache) : (e.withCache c).cache = c := rfl

theorem register_withCache (e : Engine) (c : TreeCache) (p : Plugin) :
    (e.withCache c).register p = (e.register p).map fun e => e.withCache c := by
  rw [register, register, (staged_install p).result_eq, (staged_install p).result_eq]
  dsimp only
  by_cases hinstalled : e.installed.any (·.name == p.name) = true
  · have hother : (e.withCache c).installed.any (·.name == p.name) = true := hinstalled
    rw [if_pos hinstalled, if_pos hother]
    rfl
  · have hother : ¬ (e.withCache c).installed.any (·.name == p.name) = true := hinstalled
    rw [if_neg hinstalled, if_neg hother]
    simp only [withCache]
    cases addMethods e.methods p.methods with
    | error fault => rfl
    | ok added =>
      simp only [bind, Except.bind]
      cases addVariables e.vars p.vars <;> rfl

theorem unregister_withCache (e : Engine) (c : TreeCache) (name : String) :
    (e.withCache c).unregister name =
      ((e.unregister name).1, (e.unregister name).2.withCache c) := by
  unfold unregister withCache
  dsimp only
  cases e.installed.find? (·.name == name) <;> rfl

theorem setVariable_withCache (e : Engine) (c : TreeCache) (name : String) (value : Value) :
    (e.withCache c).setVariable name value =
      (e.setVariable name value).map fun e => e.withCache c := by
  rw [setVariable, setVariable, (staged_assign name value).result_eq,
    (staged_assign name value).result_eq]
  dsimp only [withCache]
  cases e.vars.set name value <;> rfl

/-- Registering, unregistering and setting variables have nothing to do with the memory. -/
theorem cache_of_register {e e' : Engine} {p : Plugin} (h : e.register p = .ok e') :
    e'.cache = e.cache := by
  have hsame := register_withCache e e.cache p
  rw [withCache_cache, h] at hsame
  have heq : e' = e'.withCache e.cache := Except.ok.inj hsame
  rw [heq, cache_withCache]

theorem cache_of_setVariable {e e' : Engine} {name : String} {value : Value}
    (h : e.setVariable name value = .ok e') : e'.cache = e.cache := by
  have hsame := setVariable_withCache e e.cache name value
  rw [withCache_cache, h] at hsame
  have heq : e' = e'.withCache e.cache := Except.ok.inj hsame
  rw [heq, cache_withCache]

/-! ## Values of formulas -/

/-- A formula has the value of its text, with what the engine knows now. -/
theorem calculate_eq {e : Engine} (h : e.cache.Valid) (text : String)
    (bindings : NameTable Value) :
    (e.calculate text bindings).1 =
      (Formulary.parse text).bind (evaluate (e.environment bindings)) := by
  rw [← h.parse_nodes text, calculate_fst]
  cases (e.cache.parse text).1 <;> rfl

/-! ## One request -/

/-- One request to an engine and to one that differs in its memory: the answers are the same,
and afterwards the engines differ in their memories only. -/
theorem handle_withCache {e : Engine} (h : e.cache.Valid) {c : TreeCache} (hc : c.Valid)
    (request : Request) :
    ((e.withCache c).handle request).1 = (e.handle request).1 ∧
      (e.handle request).2.cache.Valid ∧
      ∃ c' : TreeCache, c'.Valid ∧
        ((e.withCache c).handle request).2 = (e.handle request).2.withCache c' := by
  cases request with
  | register plugin =>
    rw [handle_register, handle_register, register_withCache]
    cases hregister : e.register plugin with
    | error fault => exact ⟨rfl, h, c, hc, rfl⟩
    | ok e' => exact ⟨rfl, (cache_of_register hregister).symm ▸ h, c, hc, rfl⟩
  | unregister name =>
    simp only [handle, unregister_withCache]
    refine ⟨trivial, ?_, c, hc, rfl⟩
    have hsame := congrArg (·.2.cache) (unregister_withCache e e.cache name)
    exact hsame ▸ h
  | calculate text bindings =>
    rw [handle_calculate, handle_calculate, calculate_eq hc, calculate_eq h]
    exact ⟨rfl, h.parse text, (c.parse text).2, hc.parse text, rfl⟩
  | parse text =>
    rw [handle_parse, handle_parse, cache_withCache, hc.parse_nodes, h.parse_nodes]
    exact ⟨rfl, h.parse text, (c.parse text).2, hc.parse text, rfl⟩
  | setVariable name value =>
    rw [handle_setVariable, handle_setVariable, setVariable_withCache]
    cases hset : e.setVariable name value with
    | error fault => exact ⟨rfl, h, c, hc, rfl⟩
    | ok e' => exact ⟨rfl, (cache_of_setVariable hset).symm ▸ h, c, hc, rfl⟩
  | clearCache => exact ⟨rfl, TreeCache.valid_clear _, c.clear, TreeCache.valid_clear _, rfl⟩
  | _ => exact ⟨rfl, h, c, hc, rfl⟩

/-! ## Whole sessions -/

theorem answers_withCache (requests : List Request) : ∀ {e : Engine}, e.cache.Valid →
    ∀ {c : TreeCache}, c.Valid → (e.withCache c).answers requests = e.answers requests := by
  induction requests with
  | nil => exact fun _ _ _ => rfl
  | cons request rest ih =>
    intro e h c hc
    obtain ⟨hanswer, hvalid, c', hc', heq⟩ := handle_withCache h hc request
    rw [answers, answers, hanswer, heq, ih hvalid hc']

theorem valid_after (requests : List Request) :
    ∀ {e : Engine}, e.cache.Valid → (e.after requests).cache.Valid := by
  induction requests with
  | nil => exact fun h => h
  | cons request rest ih =>
    intro e h
    exact ih (handle_withCache h h request).2.1

theorem Reachable.valid {e : Engine} (h : e.Reachable) : e.cache.Valid := by
  obtain ⟨capacity, requests, rfl⟩ := h
  exact valid_after requests (TreeCache.valid_empty capacity)

/-! ## The law -/

/-- The law of sessions. How many trees an engine may remember shows in none of its answers,
and what it computes at any time is the value of the text, read anew, with the methods and
variables of that time. -/
theorem answers_of_capacity (requests : List Request) (capacity capacity' : Nat) :
    (empty capacity).answers requests = (empty capacity').answers requests ∧
      ∀ text bindings, (((empty capacity).after requests).calculate text bindings).1 =
        (Formulary.parse text).bind
          (evaluate (((empty capacity).after requests).environment bindings)) := by
  have hvalid : (empty capacity).cache.Valid := TreeCache.valid_empty capacity
  have hvalid' : (empty capacity').cache.Valid := TreeCache.valid_empty capacity'
  refine ⟨?_, fun text bindings => calculate_eq (valid_after requests hvalid) text bindings⟩
  exact answers_withCache requests hvalid' hvalid

end Formulary.Engine
