-- The characters that a name is made of.
import Formulary.Unicode.Alphabetic

namespace Formulary.Text

/-- The character is a letter or a number of some script. The first 128 are told apart without
the table. -/
def isAlphanumeric (c : Char) : Bool :=
  if c.toNat < 128 then c.isAlphanum else Unicode.alphanumeric.contains c

/-- The character is a letter of some script. -/
def isAlphabetic (c : Char) : Bool :=
  if c.toNat < 128 then c.isAlpha else Unicode.alphabetic.contains c

end Formulary.Text
