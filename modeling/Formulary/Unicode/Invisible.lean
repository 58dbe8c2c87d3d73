-- Separators, controls, and code points that no character is assigned to.
import Formulary.Unicode.Letters
import Formulary.Unicode.Marks
import Formulary.Unicode.Numbers
import Formulary.Unicode.Punctuation
import Formulary.Unicode.Symbols

namespace Formulary.Unicode

/-- The category Zs. -/
def spaceSeparators : CharSet := .ofText
  "20 A0 1680 2000-200A 202F 205F 3000"

/-- The category Zl. -/
def lineSeparators : CharSet := .ofText
  "2028"

/-- The category Zp. -/
def paragraphSeparators : CharSet := .ofText
  "2029"

/-- All separators. -/
def separators : CharSet := .unions [spaceSeparators, lineSeparators, paragraphSeparators]

/-- The category Cc. -/
def controls : CharSet := .ofText
  "0-1F 7F-9F"

/-- The category Cf. -/
def formats : CharSet := .ofText
  "AD 600-605 61C 6DD 70F 890-891 8E2 180E 200B-200F 202A-202E 2060-2064 2066-206F FEFF FFF9-FFFB
  110BD 110CD 13430-1343F 1BCA0-1BCA3 1D173-1D17A E0001 E0020-E007F"

/-- The category Co. -/
def privateUse : CharSet := .ofText
  "E000-F8FF F0000-FFFFD 100000-10FFFD"

/-- The code points that are no characters. -/
def surrogates : CharSet := .ofText "D800-DFFF"

/-- The category Cn: all that is left. -/
def unassigned : CharSet :=
  CharSet.complement (.unions [letters, marks, numbers, punctuation, symbols, separators,
    controls, formats, privateUse, surrogates])

end Formulary.Unicode
