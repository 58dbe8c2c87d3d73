-- The classes of characters that patterns know by name: general categories, Boolean
-- properties, scripts and editions.
import Formulary.TextPattern.AgeTable
import Formulary.TextPattern.Borders
import Formulary.TextPattern.ScriptTable
import Formulary.Unicode.CaseMap

namespace Formulary.TextPattern

/-! ## Names -/

/-- A name as it is looked up: without an `is` in front, without blanks, dashes and underscores,
in small letters. Characters outside ASCII are dropped. `isc` stays as it is. -/
def plainName (cs : List Char) : String :=
  let (hasIs, body) := match cs with
    | a :: b :: rest =>
      if (a = 'i' ∨ a = 'I') ∧ (b = 's' ∨ b = 'S') then (true, rest) else (false, cs)
    | cs => (false, cs)
  let kept := body.filter fun c => c.toNat < 128 && !(c == ' ' || c == '_' || c == '-')
  let name := String.ofList (kept.map Char.toLower)
  if hasIs ∧ name = "c" then "isc" else name

/-! ## General categories -/

/-- The general category with a name. -/
def category? (name : String) : Option CharSet :=
  match name with
  | "lu" | "uppercaseletter" => some (known Unicode.uppercaseLetters)
  | "ll" | "lowercaseletter" => some Edition.lowercaseLetters
  | "lt" | "titlecaseletter" => some (known Unicode.titlecaseLetters)
  | "lc" | "casedletter" =>
    some (known (Unicode.casedLetters.union formerLowercase))
  | "lm" | "modifierletter" => some (known Unicode.modifierLetters)
  | "lo" | "otherletter" => some Edition.otherLetters
  | "l" | "letter" => some (known Unicode.letters)
  | "mn" | "nonspacingmark" => some (known Unicode.nonspacingMarks)
  | "mc" | "spacingmark" => some (known Unicode.spacingMarks)
  | "me" | "enclosingmark" => some (known Unicode.enclosingMarks)
  | "m" | "mark" | "combiningmark" => some (known Unicode.marks)
  | "nd" | "decimalnumber" | "digit" => some (known Unicode.decimalNumbers)
  | "nl" | "letternumber" => some (known Unicode.letterNumbers)
  | "no" | "othernumber" => some (known Unicode.otherNumbers)
  | "n" | "number" => some (known Unicode.numbers)
  | "pc" | "connectorpunctuation" => some (known Unicode.connectorPunctuation)
  | "pd" | "dashpunctuation" => some (known Unicode.dashPunctuation)
  | "ps" | "openpunctuation" => some (known Unicode.openPunctuation)
  | "pe" | "closepunctuation" => some (known Unicode.closePunctuation)
  | "pi" | "initialpunctuation" => some (known Unicode.initialPunctuation)
  | "pf" | "finalpunctuation" => some (known Unicode.finalPunctuation)
  | "po" | "otherpunctuation" => some (known Unicode.otherPunctuation)
  | "p" | "punctuation" | "punct" => some (known Unicode.punctuation)
  | "sm" | "mathsymbol" => some (known Unicode.mathSymbols)
  | "sc" | "currencysymbol" => some (known Unicode.currencySymbols)
  | "sk" | "modifiersymbol" => some (known Unicode.modifierSymbols)
  | "so" | "othersymbol" => some (known Unicode.otherSymbols)
  | "s" | "symbol" => some (known Unicode.symbols)
  | "zs" | "spaceseparator" => some (known Unicode.spaceSeparators)
  | "zl" | "lineseparator" => some (known Unicode.lineSeparators)
  | "zp" | "paragraphseparator" => some (known Unicode.paragraphSeparators)
  | "z" | "separator" => some (known Unicode.separators)
  | "cc" | "control" | "cntrl" => some (known Unicode.controls)
  | "cf" | "format" => some (known Unicode.formats)
  | "co" | "privateuse" => some (known Unicode.privateUse)
  | "cn" | "unassigned" => some Edition.unassigned
  | "c" | "other" => some Edition.others
  | "any" => some .any
  | "assigned" => some Edition.unassigned.complement
  | "ascii" => some (.ofText "0-7F")
  | _ => none

/-! ## Boolean properties -/

/-- The characters that a mapping changes, in the edition of patterns. -/
def changedBy (m : Unicode.CaseMap) : CharSet :=
  .ofRanges (m.runs.toList.flatMap fun run =>
    (List.range ((run.last - run.first) / run.step + 1)).filterMap fun k =>
      let n := run.first + k * run.step
      if (n :: run.targets.map (· + k * run.step)).any newcomers.holds then none
      else some ⟨n, n⟩)

/-- The characters that change in lower case. -/
def lowercaseChanges : CharSet := changedBy Unicode.lowerMap

/-- The characters that change in upper case. -/
def uppercaseChanges : CharSet := changedBy Unicode.upperMap

/-- The characters that change as the first letter of a word. -/
def titlecaseChanges : CharSet :=
  (uppercaseChanges.diff (.ofText "1C5 1C8 1CB 1F2 10D0-10FA 10FD-10FF 1F88-1F8F 1F98-1F9F
    1FA8-1FAF 1FBC 1FCC 1FFC")).union (.ofText "1C4 1C7 1CA 1F1")

/-- The characters that change when case is folded. -/
def foldingChanges : CharSet :=
  (lowercaseChanges.diff (.ofText "13A0-13F5")).union (.ofText "B5 DF 149 17F 345 3C2 3D0-3D1
    3D5-3D6 3F0-3F1 3F5 587 13F8-13FD 1C80-1C88 1E9A-1E9B 1F80-1F87 1F90-1F97 1FA0-1FA7
    1FB2-1FB4 1FB7 1FC2-1FC4 1FC7 1FF2-1FF4 1FF7 AB70-ABBF FB00-FB06 FB13-FB17")

/-- The characters that identifiers of languages begin with. -/
def identifierStarts : CharSet :=
  CharSet.diff (.unions [known Unicode.letters, known Unicode.letterNumbers,
      tabled "otheridstart"])
    (.unions [tabled "patternsyntax",
      tabled "patternwhitespace"])

/-- The characters that identifiers of languages go on with. -/
def identifierParts : CharSet :=
  .unions [identifierStarts, known Unicode.nonspacingMarks, known Unicode.spacingMarks,
    known Unicode.decimalNumbers, known Unicode.connectorPunctuation,
    tabled "otheridcontinue"]

/-- Characters whose normal forms are no parts of identifiers. -/
def unstableParts : CharSet := .ofText
  "37A 309B-309C FC5E-FC63 FDFA-FDFB FE70 FE72 FE74 FE76 FE78 FE7A FE7C FE7E"

/-- Characters whose normal forms do not begin identifiers. -/
def unstableStarts : CharSet := unstableParts.union (.ofText "E33 EB3 FF9E-FF9F")

/-- The Boolean property with a name. -/
def property? (name : String) : Option CharSet :=
  match name with
  | "alphabetic" | "alpha" => some (known Unicode.alphabetic)
  | "caseignorable" | "ci" => some (known Unicode.caseIgnorable)
  | "cased" => some Edition.cased
  | "changeswhencasefolded" | "cwcf" => some foldingChanges
  | "changeswhencasemapped" | "cwcm" =>
    some (.unions [lowercaseChanges, uppercaseChanges, titlecaseChanges])
  | "changeswhenlowercased" | "cwl" => some lowercaseChanges
  | "changeswhentitlecased" | "cwt" => some titlecaseChanges
  | "changeswhenuppercased" | "cwu" => some uppercaseChanges
  | "graphemebase" | "grbase" =>
    some (CharSet.complement (.unions [Edition.others, known Unicode.lineSeparators,
      known Unicode.paragraphSeparators, graphemeExtenders]))
  | "graphemeextend" | "grext" => some graphemeExtenders
  | "idcontinue" | "idc" => some identifierParts
  | "idstart" | "ids" => some identifierStarts
  | "lowercase" | "lower" => some Edition.lowercase
  | "math" =>
    some ((known Unicode.mathSymbols).union (tabled "othermath"))
  | "otheralphabetic" | "oalpha" => some (known Unicode.otherAlphabetic)
  | "otherlowercase" | "olower" => some (known Unicode.otherLowercase)
  | "otheruppercase" | "oupper" => some (known Unicode.otherUppercase)
  | "uppercase" | "upper" => some (known Unicode.uppercase)
  | "whitespace" | "wspace" | "space" => some Edition.blanks
  | "xidcontinue" | "xidc" => some (identifierParts.diff unstableParts)
  | "xidstart" | "xids" => some (identifierStarts.diff unstableStarts)
  | name => tableProperty? name

/-! ## Scripts -/

/-- The script with a name. -/
def script? (name : String) : Option (List String × String) :=
  (firstScripts ++ lastScripts).find? fun entry => entry.1.contains name

/-- The characters that a script shares, by its short name. -/
def sharedWith (name : String) : CharSet :=
  match sharedCharacters.find? fun entry => entry.1.contains name with
  | some entry => .ofText entry.2
  | none => .empty

/-- The characters that some script shares. -/
def sharedByAny : CharSet := .unions (sharedCharacters.map fun entry => .ofText entry.2)

/-- All characters that are used in a script. Those that all scripts share, or inherit, count
only if no script is named for them. -/
def scriptUses (names : List String) (ranges : String) : CharSet :=
  let own : CharSet := .ofText ranges
  if names.contains "common" ∨ names.contains "inherited" then own.diff sharedByAny
  else own.union (sharedWith (names.headD ""))

/-! ## Editions -/

/-- The characters that an edition knows, such as `6.0` or `v60`. -/
def age? (name : String) : Option CharSet :=
  let isNamed (edition : String) : Bool :=
    edition == name || String.ofList ('v' :: edition.toList.filter (· != '.')) == name
  match (ageTable.map (·.1)).findIdx? isNamed with
  | none => none
  | some last => some (.unions ((ageTable.take (last + 1)).map fun entry => .ofText entry.2))

/-! ## Queries -/

/-- What `\p` asks for. -/
inductive ClassQuery where
  | named (name : List Char)
  | valued (property value : List Char)

/-- The class that a query asks for. A name that is no property, category or script means
nothing. The short names of three properties mean categories instead. -/
def ClassQuery.answer? : ClassQuery → Option CharSet
  | .named name =>
    let name := plainName name
    let isCategory := name == "cf" || name == "sc" || name == "lc"
    (if isCategory then none else property? name) <|> category? name <|>
      (script? name).map fun entry => .ofText entry.2
  | .valued property value =>
    let value := plainName value
    match plainName property with
    | "gc" | "generalcategory" => category? value
    | "sc" | "script" => (script? value).map fun entry => .ofText entry.2
    | "scx" | "scriptextensions" => (script? value).map fun entry => scriptUses entry.1 entry.2
    | "age" => age? value
    | "gcb" | "graphemeclusterbreak" => clusterBreak? value
    | "wb" | "wordbreak" => wordBreak? value
    | "sb" | "sentencebreak" => sentenceBreak? value
    | _ => none

end Formulary.TextPattern
