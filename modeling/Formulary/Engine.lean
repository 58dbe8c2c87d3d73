-- The engine: plugins are installed in it, and formulas computed with what they bring.
import Formulary.Evaluation
import Formulary.Plugin
import Formulary.TreeCache

namespace Formulary

/-! ## Options -/

/-- How many parsed formulas an engine remembers if it is not told. -/
def defaultCapacity : Nat := 256

/-- What an engine is made with. -/
structure EngineOptions where
  /-- How many parsed formulas are remembered; with zero, none are. -/
  capacity : Nat := defaultCapacity
  /-- The plugins to install, in order. -/
  plugins : List Plugin := []

/-! ## State -/

/-- What a plugin has brought in: the names that were free when it came. -/
structure Installed where
  name : String
  methods : List String
  vars : List String
  deriving DecidableEq, Repr

/-- An engine: the methods and variables that formulas can name, the plugins they come from,
and the parsed formulas. -/
structure Engine where
  methods : MethodTable
  vars : VariableTable
  installed : List Installed
  cache : TreeCache

namespace Engine

/-- An engine without plugins. -/
def empty (capacity : Nat) : Engine := ⟨.empty, .empty, [], .empty capacity⟩

/-- A change to an engine. It can fail, and the engine stays as it was left by then. -/
abbrev Change := ExceptT Fault (StateM Engine) Unit

/-- The answer to a change, and the engine after it. -/
def Change.apply (change : Change) (e : Engine) : Except Fault Unit × Engine := change.run.run e

/-- The engine after a change that does not fail. -/
def Change.result (change : Change) (e : Engine) : Except Fault Engine :=
  match change.apply e with
  | (.error fault, _) => .error fault
  | (.ok (), e) => .ok e

/-! ## Plugins -/

/-- Adds methods in turn, and gathers the names of those whose name was free. -/
def addMethods (t : MethodTable) : List Method → Except Fault (List String × MethodTable)
  | [] => .ok ([], t)
  | m :: rest => do
    let (free, t) ← t.add m
    let (names, t) ← addMethods t rest
    pure (if free then m.name :: names else names, t)

/-- Declares variables in turn. -/
def addVariables (t : VariableTable) : List Variable → Except Fault VariableTable
  | [] => .ok t
  | v :: rest => do addVariables (← t.add v) rest

/-- Installs a plugin. If its name is installed already nothing happens. Its methods and
variables are added to copies of the tables, which take the place of the tables once all of them
are in. -/
def install (p : Plugin) : Change := do
  let e ← get
  if e.installed.any (·.name == p.name) then return
  let (names, methods) ← addMethods e.methods p.methods
  let vars ← addVariables e.vars p.vars
  let record : Installed := ⟨p.name, names, p.vars.map (·.name)⟩
  set { e with methods, vars, installed := e.installed ++ [record] }

/-- The engine with a plugin installed. -/
def register (e : Engine) (p : Plugin) : Except Fault Engine := (install p).result e

/-- Takes out a plugin and what it brought in, and says whether there was one. -/
def unregister (e : Engine) (name : String) : Bool × Engine :=
  match e.installed.find? (·.name == name) with
  | none => (false, e)
  | some record =>
    (true, { e with methods := e.methods.eraseAll record.methods
                    vars := e.vars.eraseAll record.vars
                    installed := e.installed.eraseP (·.name == name) })

/-- Installs plugins in order. -/
def registerAll (e : Engine) (plugins : List Plugin) : Except Fault Engine :=
  plugins.foldlM register e

/-- An engine made with options. -/
def create (options : EngineOptions) : Except Fault Engine :=
  (empty options.capacity).registerAll options.plugins

/-- The names of the plugins, in the order in which they came. -/
def pluginNames (e : Engine) : List String := e.installed.map (·.name)

/-! ## Formulas -/

/-- The tree of a formula, remembered or new. -/
def parse (e : Engine) (text : String) : Except Fault Tree × Engine :=
  let (result, cache) := e.cache.parse text
  (result, { e with cache })

/-- The names that a formula can use, with bindings for this calculation. -/
def environment (e : Engine) (bindings : NameTable Value) : Environment :=
  ⟨e.methods, e.vars, bindings⟩

/-- The value of a formula. -/
def calculate (e : Engine) (text : String) (bindings : NameTable Value) :
    Except Fault Value × Engine :=
  let (result, e) := e.parse text
  (result.bind fun tree => evaluate (e.environment bindings) tree.nodes, e)

/-- Forgets the parsed formulas. -/
def clearCache (e : Engine) : Engine := { e with cache := e.cache.clear }

/-! ## Variables -/

/-- Gives a variable another value. -/
def assign (name : String) (value : Value) : Change := do
  let e ← get
  let vars ← e.vars.set name value
  set { e with vars }

/-- The engine with another value for a variable. -/
def setVariable (e : Engine) (name : String) (value : Value) : Except Fault Engine :=
  (assign name value).result e

def getVariable (e : Engine) (name : String) : Except Fault Value := e.vars.value name

def hasMethod (e : Engine) (name : String) : Bool := e.methods.contains name

def hasVariable (e : Engine) (name : String) : Bool := e.vars.contains name

end Engine

end Formulary
