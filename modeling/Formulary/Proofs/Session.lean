-- Sessions with an engine: what it can be asked, what it answers, and how it is afterwards.
import Formulary.Engine

namespace Formulary

/-- What an engine can be asked. -/
inductive Request where
  | register (plugin : Plugin)
  | unregister (name : String)
  | calculate (text : String) (bindings : NameTable Value)
  | parse (text : String)
  | setVariable (name : String) (value : Value)
  | getVariable (name : String)
  | hasMethod (name : String)
  | hasVariable (name : String)
  | pluginNames
  | clearCache

/-- What an engine answers. -/
inductive Answer where
  /-- Done, or refused. -/
  | done (outcome : Except Fault Unit)
  | flag (flag : Bool)
  | value (outcome : Except Fault Value)
  /-- The nodes of a tree. Which one it is of several trees with these nodes does not show. -/
  | nodes (outcome : Except Fault (List Node))
  | names (names : List String)

namespace Engine

/-- The answer to a request, and the engine after it. -/
def handle (e : Engine) : Request → Answer × Engine
  | .register plugin =>
    let (outcome, e) := (install plugin).apply e
    (.done outcome, e)
  | .unregister name =>
    let (found, e) := e.unregister name
    (.flag found, e)
  | .calculate text bindings =>
    let (outcome, e) := e.calculate text bindings
    (.value outcome, e)
  | .parse text =>
    let (outcome, e) := e.parse text
    (.nodes (outcome.map Tree.nodes), e)
  | .setVariable name value =>
    let (outcome, e) := (assign name value).apply e
    (.done outcome, e)
  | .getVariable name => (.value (e.getVariable name), e)
  | .hasMethod name => (.flag (e.hasMethod name), e)
  | .hasVariable name => (.flag (e.hasVariable name), e)
  | .pluginNames => (.names e.pluginNames, e)
  | .clearCache => (.done (.ok ()), e.clearCache)

def after (e : Engine) (requests : List Request) : Engine :=
  requests.foldl (fun e request => (e.handle request).2) e

/-- The answers to some requests, one after the other. -/
def answers (e : Engine) : List Request → List Answer
  | [] => []
  | request :: rest => (e.handle request).1 :: answers (e.handle request).2 rest

/-- An engine that was empty once and has been asked some things since. -/
def Reachable (e : Engine) : Prop := ∃ capacity requests, e = (empty capacity).after requests

theorem after_cons (e : Engine) (request : Request) (rest : List Request) :
    e.after (request :: rest) = (e.handle request).2.after rest := rfl

theorem calculate_fst (e : Engine) (text : String) (bindings : NameTable Value) :
    (e.calculate text bindings).1 = (e.cache.parse text).1.bind fun tree =>
      evaluate (e.environment bindings) tree.nodes := rfl

/-- Of an engine that computes, only the memory for trees changes. -/
theorem handle_calculate (e : Engine) (text : String) (bindings : NameTable Value) :
    e.handle (.calculate text bindings) = (.value (e.calculate text bindings).1,
      { e with cache := (e.cache.parse text).2 }) := rfl

theorem handle_parse (e : Engine) (text : String) :
    e.handle (.parse text) = (.nodes ((e.cache.parse text).1.map Tree.nodes),
      { e with cache := (e.cache.parse text).2 }) := rfl

/-! ## Changes -/

theorem Change.apply_get (next : Engine → Change) (e : Engine) :
    Change.apply (get >>= next) e = (next e).apply e := rfl

theorem Change.apply_lift {α : Type} (outcome : Except Fault α) (next : α → Change) (e : Engine) :
    Change.apply (liftM outcome >>= next) e =
      match outcome with
      | .error fault => (.error fault, e)
      | .ok a => (next a).apply e := by
  cases outcome <;> rfl

/-- A change that is worked out apart and then made at once: where it fails, the engine is as it
was before. -/
def Change.Staged (change : Change) (work : Engine → Except Fault Engine) : Prop :=
  ∀ e, change.apply e =
    match work e with
    | .error fault => (.error fault, e)
    | .ok e' => (.ok (), e')

namespace Change.Staged

variable {change : Change} {work : Engine → Except Fault Engine}

theorem result_eq (h : change.Staged work) (e : Engine) : change.result e = work e := by
  rw [result, h e]
  cases work e <;> rfl

theorem apply_eq (h : change.Staged work) (e : Engine) :
    change.apply e =
      match change.result e with
      | .error fault => (.error fault, e)
      | .ok e' => (.ok (), e') := by
  rw [h.result_eq e, h e]

theorem eq_of_refused (h : change.Staged work) {e : Engine} {fault : Fault}
    (hrefused : (change.apply e).1 = .error fault) : (change.apply e).2 = e := by
  rw [h e] at hrefused ⊢
  cases hwork : work e with
  | error fault => rfl
  | ok e' =>
    rw [hwork] at hrefused
    cases hrefused

end Change.Staged

/-- Nothing of a plugin is put in place before all of it has been accepted. -/
theorem staged_install (p : Plugin) :
    (install p).Staged fun e =>
      if e.installed.any (·.name == p.name) then .ok e
      else (do
        let (names, methods) ← addMethods e.methods p.methods
        let vars ← addVariables e.vars p.vars
        let record : Installed := ⟨p.name, names, p.vars.map (·.name)⟩
        pure { e with methods, vars, installed := e.installed ++ [record] }) := by
  intro e
  dsimp only
  rw [install, Change.apply_get]
  by_cases hinstalled : e.installed.any (·.name == p.name) = true
  · rw [if_pos hinstalled, if_pos hinstalled]
    rfl
  · rw [if_neg hinstalled, if_neg hinstalled, Change.apply_lift]
    cases addMethods e.methods p.methods with
    | error fault => rfl
    | ok added =>
      dsimp only
      rw [Change.apply_lift]
      cases addVariables e.vars p.vars <;> rfl

theorem staged_assign (name : String) (value : Value) : (assign name value).Staged fun e =>
    (fun vars => { e with vars }) <$> e.vars.set name value := by
  intro e
  dsimp only
  rw [assign, Change.apply_get, Change.apply_lift]
  cases e.vars.set name value <;> rfl

theorem handle_register (e : Engine) (p : Plugin) :
    e.handle (.register p) =
      match e.register p with
      | .error fault => (.done (.error fault), e)
      | .ok e' => (.done (.ok ()), e') := by
  rw [handle, register, (staged_install p).apply_eq e]
  cases (install p).result e <;> rfl

theorem handle_setVariable (e : Engine) (name : String) (value : Value) :
    e.handle (.setVariable name value) =
      match e.setVariable name value with
      | .error fault => (.done (.error fault), e)
      | .ok e' => (.done (.ok ()), e') := by
  rw [handle, setVariable, (staged_assign name value).apply_eq e]
  cases (assign name value).result e <;> rfl

/-- A request that is refused leaves the engine as it is. -/
theorem handle_of_refused {e : Engine} {request : Request} {fault : Fault}
    (h : (e.handle request).1 = .done (.error fault)) : (e.handle request).2 = e := by
  cases request with
  | register plugin => exact (staged_install plugin).eq_of_refused (Answer.done.inj h)
  | setVariable name value => exact (staged_assign name value).eq_of_refused (Answer.done.inj h)
  | clearCache => cases h
  | _ => cases h

/-- An engine that is made with plugins is one that was asked to install them. -/
theorem eq_after_of_create {options : EngineOptions} {e : Engine}
    (h : create options = .ok e) :
    e = (empty options.capacity).after (options.plugins.map .register) := by
  unfold create registerAll at h
  generalize empty options.capacity = start at h ⊢
  generalize options.plugins = plugins at h ⊢
  induction plugins generalizing start with
  | nil =>
    cases h
    rfl
  | cons plugin rest ih =>
    rw [List.foldlM_cons] at h
    cases hregister : start.register plugin with
    | error fault =>
      rw [hregister] at h
      cases h
    | ok next =>
      rw [hregister] at h
      rw [List.map_cons, after_cons, handle_register, hregister]
      exact ih next h

end Engine

end Formulary
