-- The parts that characters play at the borders of visible characters, words and sentences.
import Formulary.TextPattern.Edition
import Formulary.TextPattern.PropertyTable

namespace Formulary.TextPattern

/-- The marks that belong to the character before them. -/
def graphemeExtenders : CharSet :=
  .unions [known Unicode.nonspacingMarks, known Unicode.enclosingMarks,
    tabled "othergraphemeextend"]

/-- The control characters that end lines, and the joiner. -/
def carriageReturn : CharSet := .ofText "D"

def lineFeed : CharSet := .ofText "A"

def joiner : CharSet := .ofText "200D"

/-! ## Visible characters -/

/-- The characters that are never drawn together with others. -/
def clusterControls : CharSet :=
  CharSet.diff
    (.unions [known Unicode.lineSeparators, known Unicode.paragraphSeparators,
      known Unicode.controls, known Unicode.formats,
      Edition.unassigned.inter (tabled "defaultignorablecodepoint")])
    (.unions [carriageReturn, lineFeed, joiner, graphemeExtenders,
      tabled "prependedconcatenationmark"])

/-- What is drawn with the character before it. -/
def clusterExtenders : CharSet := graphemeExtenders.union (tabled "emojimodifier")

/-- Marks beside the character before them. -/
def clusterMarks : CharSet :=
  CharSet.diff ((known Unicode.spacingMarks).union (.ofText "E33 EB3"))
    (clusterExtenders.union (.ofText "102B-102C 1038 1062-1064 1067-106D 1083 1087-108C 108F
      109A-109C 1A61 1A63-1A64 AA7B AA7D 11720-11721"))

/-- What is drawn with the character behind it. -/
def clusterPrefixes : CharSet :=
  (tabled "prependedconcatenationmark").union
    (.ofText "D4E 111C2-111C3 113D1 1193F 11941 11A3A 11A84-11A89 11D46 11F02")

/-- The syllables that end in a vowel: every 28th from the first on. -/
def openSyllables : CharSet :=
  .ofRanges ((List.range 399).map fun k => ⟨0xAC00 + 28 * k, 0xAC00 + 28 * k⟩)

/-- The part of a visible character with a name. -/
def clusterBreak? (name : String) : Option CharSet :=
  match name with
  | "cr" => some carriageReturn
  | "lf" => some lineFeed
  | "zwj" => some joiner
  | "control" | "cn" => some clusterControls
  | "extend" | "ex" => some clusterExtenders
  | "spacingmark" | "sm" => some clusterMarks
  | "prepend" | "pp" => some clusterPrefixes
  | "regionalindicator" | "ri" => some (tabled "regionalindicator")
  | "l" => some (.ofText "1100-115F A960-A97C")
  | "v" => some (.ofText "1160-11A7 D7B0-D7C6 16D63 16D67-16D6A")
  | "t" => some (.ofText "11A8-11FF D7CB-D7FB")
  | "lv" => some openSyllables
  | "lvt" => some (CharSet.diff (.ofText "AC00-D7A3") openSyllables)
  | _ => none

/-! ## Words -/

/-- Marks of all kinds, which do not part words. -/
def wordExtenders : CharSet := clusterExtenders.union (known Unicode.spacingMarks)

/-- Marks around numbers. -/
def numberMarks : CharSet := .ofText "600-605 6DD 890-891 8E2 110BD 110CD"

def hebrewLetters : CharSet :=
  .ofText "5D0-5EA 5EF-5F2 FB1D FB1F-FB28 FB2A-FB36 FB38-FB3C FB3E FB40-FB41 FB43-FB44 FB46-FB4F"

def katakana : CharSet := .ofText
  "3031-3035 309B-309C 30A0-30FA 30FC-30FF 31F0-31FF 32D0-32FE 3300-3357 FF66-FF9D 1AFF0-1AFF3
  1AFF5-1AFFB 1AFFD-1AFFE 1B000 1B120-1B122 1B155 1B164-1B167"

/-- Letters of scripts that are written without blanks between words. -/
def unspacedLetters : CharSet := .ofText
  "E01-E30 E32-E33 E40-E46 E81-E82 E84 E86-E8A E8C-EA3 EA5 EA7-EB0 EB2-EB3 EBD EC0-EC4 EC6
  EDC-EDF 1000-102A 103F 1050-1055 105A-105D 1061 1065-1066 106E-1070 1075-1081 108E 1780-17B3
  17D7 17DC 1950-196D 1970-1974 1980-19AB 19B0-19C9 1A20-1A54 1AA7 3041-3096 309D-309F
  A9E0-A9E4 A9E6-A9EF A9FA-A9FE AA60-AA76 AA7A AA7E-AAAF AAB1 AAB5-AAB6 AAB9-AABD AAC0 AAC2
  AADB-AADD 11700-1171A 11740-11746 1B001-1B11F 1B132 1B150-1B152"

/-- The letters that words are made of. -/
def wordLetters : CharSet :=
  CharSet.diff
    ((known Unicode.alphabetic).union (.ofText "B8 2C2-2C5 2D2-2D7 2DE-2DF 2E5-2EB 2ED 2EF-2FF
      55A-55C 55E 58A 5F3 70F A708-A716 A720-A721 A789-A78A AB5B"))
    (.unions [tabled "ideographic", katakana, hebrewLetters, unspacedLetters, wordExtenders])

/-- The part of a word with a name. -/
def wordBreak? (name : String) : Option CharSet :=
  match name with
  | "cr" => some carriageReturn
  | "lf" => some lineFeed
  | "newline" | "nl" => some (.ofText "B-C 85 2028-2029")
  | "zwj" => some joiner
  | "extend" => some wordExtenders
  | "format" | "fo" =>
    some (CharSet.diff (known Unicode.formats)
      (.unions [joiner, .ofText "200B", wordExtenders, tabled "prependedconcatenationmark"]))
  | "aletter" | "le" => some wordLetters
  | "hebrewletter" | "hl" => some hebrewLetters
  | "katakana" | "ka" => some katakana
  | "numeric" | "nu" =>
    some (.unions [known Unicode.decimalNumbers, numberMarks, .ofText "66B"])
  | "midletter" | "ml" => some (.ofText "3A B7 387 55F 5F4 2027 FE13 FE55 FF1A")
  | "midnum" | "mn" =>
    some (.ofText "2C 3B 37E 589 60C-60D 66C 7F8 2044 FE10 FE14 FE50 FE54 FF0C FF1B")
  | "midnumlet" | "mb" => some (.ofText "2E 2018-2019 2024 FE52 FF07 FF0E")
  | "extendnumlet" | "ex" => some (.ofText "5F 202F 203F-2040 2054 FE33-FE34 FE4D-FE4F FF3F")
  | "doublequote" | "dq" => some (.ofText "22")
  | "singlequote" | "sq" => some (.ofText "27")
  | "regionalindicator" | "ri" => some (tabled "regionalindicator")
  | "wsegspace" => some (.ofText "20 1680 2000-2006 2008-200A 205F 3000")
  | _ => none

/-! ## Sentences -/

/-- Marks of all kinds and joiners, which do not part sentences. -/
def sentenceExtenders : CharSet :=
  .unions [graphemeExtenders, known Unicode.spacingMarks, joiner]

/-- What may end a sentence, or stand in an abbreviation or a number. -/
def points : CharSet := .ofText "2E 2024 FE52 FF0E"

/-- What ends a sentence. -/
def sentenceEnds : CharSet := (tabled "sentenceterminal").diff points

def sentenceLower : CharSet :=
  Edition.lowercase.diff (graphemeExtenders.union (.ofText "10D0-10FA 10FD-10FF"))

def sentenceUpper : CharSet :=
  ((known Unicode.titlecaseLetters).union (known Unicode.uppercase)).diff
    (.ofText "1C90-1CBA 1CBD-1CBF")

/-- The part of a sentence with a name. -/
def sentenceBreak? (name : String) : Option CharSet :=
  match name with
  | "cr" => some carriageReturn
  | "lf" => some lineFeed
  | "sep" | "se" => some (.ofText "85 2028-2029")
  | "sp" => some (.ofText "9 B-C 20 A0 1680 2000-200A 202F 205F 3000")
  | "extend" | "ex" => some sentenceExtenders
  | "format" | "fo" =>
    some (CharSet.diff (known Unicode.formats) (sentenceExtenders.union numberMarks))
  | "lower" | "lo" => some sentenceLower
  | "upper" | "up" => some sentenceUpper
  | "oletter" | "le" =>
    some (CharSet.diff ((known Unicode.alphabetic).union (.ofText "5F3"))
      (.unions [sentenceLower, sentenceUpper, sentenceExtenders]))
  | "numeric" | "nu" =>
    some (.unions [known Unicode.decimalNumbers, numberMarks, .ofText "66B-66C"])
  | "aterm" | "at" => some points
  | "sterm" | "st" => some sentenceEnds
  | "scontinue" | "sc" =>
    some (.ofText "2C-2D 3A-3B 37E 55D 60C-60D 7F8 1802 1808 2013-2014 3001 FE10-FE11 FE13-FE14
      FE31-FE32 FE50-FE51 FE54-FE55 FE58 FE63 FF0C-FF0D FF1A-FF1B FF64")
  | "close" | "cl" =>
    some (CharSet.diff
      (.unions [known Unicode.openPunctuation, known Unicode.closePunctuation,
        known Unicode.initialPunctuation, known Unicode.finalPunctuation,
        .ofText "22 27 275B-2760 2E00-2E0D 1F676-1F678"])
      (sentenceEnds.union points))
  | _ => none

end Formulary.TextPattern
