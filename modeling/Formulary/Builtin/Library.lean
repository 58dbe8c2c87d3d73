-- The plugins that come with the engine.
import Formulary.Builtin.Arithmetic
import Formulary.Builtin.Datetime
import Formulary.Builtin.Logic
import Formulary.Builtin.Math
import Formulary.Builtin.Text

namespace Formulary.Builtin

/-- All plugins, in the order in which they are installed, for a host whose clock shows
`now`. -/
def all (now : Datetime) : List Plugin := [arithmetic, logic, text, datetime now, math]

/-- The plugin of a name. -/
def find? (now : Datetime) (name : String) : Option Plugin :=
  (all now).find? (·.name == name)

end Formulary.Builtin
