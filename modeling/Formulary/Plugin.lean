-- Plugins: methods and variables that are installed together, under one name.
import Formulary.Method
import Formulary.Variable

namespace Formulary

/-- A named bundle of methods and variables. -/
structure Plugin where
  name : String
  methods : List Method
  vars : List Variable

end Formulary
