-- The character database as patterns know it. Patterns follow the edition before the one that
-- the rest of the library follows: the characters that were added since are not assigned.
import Formulary.Unicode.Alphabetic

namespace Formulary.TextPattern

/-- The characters that the edition of patterns does not know yet. -/
def newcomers : CharSet := .ofText
  "88F C5C CDC 1ACF-1ADD 1AE0-1AEB 20C1 2B96 A7CE-A7CF A7D2 A7D4 A7F1 FBC3-FBD2 FD90-FD91
  FDC8-FDCE 10940-10959 10EC5-10EC7 10ED0-10ED8 10EFA-10EFB 11B60-11B67 11DB0-11DDB 11DE0-11DE9
  16EA0-16EB8 16EBB-16ED3 16FF2-16FF6 187F8-187FF 18D09-18D1E 18D80-18DF2 1CCFA-1CCFC
  1CEBA-1CED0 1CEE0-1CEF0 1E6C0-1E6DE 1E6E0-1E6F5 1E6FE-1E6FF 1F6D8 1F777-1F77A 1F8D0-1F8D8
  1FA54-1FA57 1FA8A 1FA8E 1FAC8 1FACD 1FAEA 1FAEF 1FBFA 2B73A-2B73F 2CEA2-2CEAD 323B0-33479"

/-- A set as the edition of patterns has it. -/
def known (s : CharSet) : CharSet := s.diff newcomers

/-- A letter that has lost its case since. -/
def formerLowercase : CharSet := .ofText "295"

namespace Edition

def lowercaseLetters : CharSet := known (Unicode.lowercaseLetters.union formerLowercase)

def otherLetters : CharSet := known (Unicode.otherLetters.diff formerLowercase)

def lowercase : CharSet := known (Unicode.lowercase.union formerLowercase)

def cased : CharSet := known (Unicode.cased.union formerLowercase)

def unassigned : CharSet := Unicode.unassigned.union newcomers

/-- The category C. The code points that are no characters do not cut its ranges. -/
def others : CharSet :=
  .unions [Unicode.controls, Unicode.formats, Unicode.privateUse, unassigned, Unicode.surrogates]

/-- The characters of the property White_Space. -/
def blanks : CharSet := .ofText
  "9-D 20 85 A0 1680 2000-200A 2028-2029 202F 205F 3000"

end Edition

end Formulary.TextPattern
