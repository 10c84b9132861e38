import TableLexer.Unicode.Age
import TableLexer.Unicode.Break

/-!
# Properties by name

A pattern names a property of characters in any of its usual spellings: case, spaces, hyphens and
underscores do not matter, nor does a leading `is`. `Property.named?` finds what a single name
means and `Property.valued?` what a name with a value means.
-/

namespace TableLexer.Unicode.Property

/-! ## Spelling -/

/-- The letters of a name that matter: lower case, without separators and without what is not
ASCII. -/
def letters (name : List Char) : List Char :=
  (name.filter fun c => c.toNat < 128 && c != ' ' && c != '_' && c != '-').map Char.toLower

/-- The form of a name by which it is looked up. A leading `is` is dropped, except in `isc`, which
is a name of its own. -/
def normalize (name : List Char) : String :=
  match name with
  | i :: s :: rest =>
    if i.toLower = 'i' ∧ s.toLower = 's' then
      let short := letters rest
      if short = ['c'] then "isc" else .ofList short
    else .ofList (letters name)
  | _ => .ofList (letters name)

/-- A list of names with what they mean. -/
abbrev Names := List (List String × CharSet)

/-- The meaning of a name in a list, if it has one. -/
def Names.find? (names : Names) (name : String) : Option CharSet :=
  (List.find? (fun entry => entry.1.contains name) names).map (·.2)

/-! ## Names of categories -/

open Category in
/-- The names of the general categories. -/
def categories : Names := [
  (["any"], .all), (["assigned"], assigned), (["ascii"], .ascii),
  (["l", "letter"], letter), (["lc", "casedletter"], casedLetter),
  (["lu", "uppercaseletter"], uppercaseLetter), (["ll", "lowercaseletter"], lowercaseLetter),
  (["lt", "titlecaseletter"], titlecaseLetter), (["lm", "modifierletter"], modifierLetter),
  (["lo", "otherletter"], otherLetter),
  (["m", "mark", "combiningmark"], mark), (["mn", "nonspacingmark"], nonspacingMark),
  (["mc", "spacingmark"], spacingMark), (["me", "enclosingmark"], enclosingMark),
  (["n", "number"], number), (["nd", "decimalnumber", "digit"], decimalNumber),
  (["nl", "letternumber"], letterNumber), (["no", "othernumber"], otherNumber),
  (["p", "punctuation", "punct"], punctuation),
  (["pc", "connectorpunctuation"], connectorPunctuation),
  (["pd", "dashpunctuation"], dashPunctuation), (["ps", "openpunctuation"], openPunctuation),
  (["pe", "closepunctuation"], closePunctuation),
  (["pi", "initialpunctuation"], initialPunctuation),
  (["pf", "finalpunctuation"], finalPunctuation), (["po", "otherpunctuation"], otherPunctuation),
  (["s", "symbol"], symbol), (["sm", "mathsymbol"], mathSymbol),
  (["sc", "currencysymbol"], currencySymbol), (["sk", "modifiersymbol"], modifierSymbol),
  (["so", "othersymbol"], otherSymbol),
  (["z", "separator"], separator), (["zs", "spaceseparator"], spaceSeparator),
  (["zl", "lineseparator"], lineSeparator), (["zp", "paragraphseparator"], paragraphSeparator),
  (["c", "other"], other), (["cc", "control", "cntrl"], control), (["cf", "format"], format),
  (["co", "privateuse"], privateUse), (["cn", "unassigned"], unassigned)]

/-! ## Names of binary properties -/

open Binary in
/-- The names of the binary properties. -/
def binary : Names := [
  (["ahex", "asciihexdigit"], asciiHexDigit), (["alpha", "alphabetic"], alphabetic),
  (["bidic", "bidicontrol"], bidiControl), (["bidim", "bidimirrored"], bidiMirrored),
  (["ci", "caseignorable"], caseIgnorable), (["cased"], cased),
  (["cwcf", "changeswhencasefolded"], changesWhenCasefolded),
  (["cwcm", "changeswhencasemapped"], changesWhenCasemapped),
  (["cwl", "changeswhenlowercased"], changesWhenLowercased),
  (["cwt", "changeswhentitlecased"], changesWhenTitlecased),
  (["cwu", "changeswhenuppercased"], changesWhenUppercased),
  (["dash"], dash), (["di", "defaultignorablecodepoint"], defaultIgnorable),
  (["dep", "deprecated"], deprecated), (["dia", "diacritic"], diacritic),
  (["emoji"], emoji), (["ecomp", "emojicomponent"], emojiComponent),
  (["emod", "emojimodifier"], emojiModifier), (["ebase", "emojimodifierbase"], emojiModifierBase),
  (["epres", "emojipresentation"], emojiPresentation),
  (["extpict", "extendedpictographic"], extendedPictographic),
  (["ext", "extender"], extender), (["grbase", "graphemebase"], graphemeBase),
  (["grext", "graphemeextend"], graphemeExtend), (["grlink", "graphemelink"], graphemeLink),
  (["hex", "hexdigit"], hexDigit), (["hyphen"], hyphen),
  (["idc", "idcontinue"], idContinue), (["ids", "idstart"], idStart),
  (["idcompatmathcontinue"], idCompatMathContinue), (["idcompatmathstart"], idCompatMathStart),
  (["idsb", "idsbinaryoperator"], idsBinaryOperator),
  (["idst", "idstrinaryoperator"], idsTrinaryOperator),
  (["idsu", "idsunaryoperator"], idsUnaryOperator),
  (["ideo", "ideographic"], ideographic), (["joinc", "joincontrol"], joinControl),
  (["loe", "logicalorderexception"], logicalOrderException),
  (["lower", "lowercase"], lowercase), (["math"], math),
  (["mcm", "modifiercombiningmark"], modifierCombiningMark),
  (["nchar", "noncharactercodepoint"], noncharacter),
  (["oalpha", "otheralphabetic"], otherAlphabetic),
  (["odi", "otherdefaultignorablecodepoint"], otherDefaultIgnorable),
  (["ogrext", "othergraphemeextend"], otherGraphemeExtend),
  (["oidc", "otheridcontinue"], otherIdContinue), (["oids", "otheridstart"], otherIdStart),
  (["olower", "otherlowercase"], otherLowercase), (["omath", "othermath"], otherMath),
  (["oupper", "otheruppercase"], otherUppercase),
  (["patsyn", "patternsyntax"], patternSyntax),
  (["patws", "patternwhitespace"], patternWhiteSpace),
  (["pcm", "prependedconcatenationmark"], prependedConcatenationMark),
  (["qmark", "quotationmark"], quotationMark), (["radical"], radical),
  (["ri", "regionalindicator"], regionalIndicator), (["sd", "softdotted"], softDotted),
  (["sterm", "sentenceterminal"], sentenceTerminal),
  (["term", "terminalpunctuation"], terminalPunctuation),
  (["uideo", "unifiedideograph"], unifiedIdeograph), (["upper", "uppercase"], uppercase),
  (["vs", "variationselector"], variationSelector),
  (["wspace", "whitespace", "space"], whiteSpace),
  (["xidc", "xidcontinue"], xidContinue), (["xids", "xidstart"], xidStart)]

/-! ## Scripts and editions -/

/-- The script with a given name or code. -/
def script? (name : String) : Option Script :=
  let full := match formerScriptCodes.find? fun entry => normalize entry.1.toList == name with
    | some entry => normalize entry.2.toList
    | none => name
  scripts.find? fun s => normalize s.name.toList == full || normalize s.code.toList == full

/-- The characters that have a script. -/
def hasScript (s : Script) : CharSet := .codes s.own

/-- The characters that are used with a script. -/
def usedWithScript (s : Script) : CharSet :=
  if s.name = "Common" ∨ s.name = "Inherited" then .codes s.own \ .codes borrowedCharacters
  else .codes s.own ∪ .codes s.borrowed

/-- Whether a name such as `6.1` or `v61` is that of an edition. -/
def Edition.isNamed (e : Edition) (name : String) : Bool :=
  name == toString e.major ++ "." ++ toString e.minor ||
  name == "v" ++ toString e.major ++ toString e.minor

/-- The characters assigned in the named edition or before. -/
def assignedBy? (name : String) : Option CharSet :=
  match editions.dropWhile fun e => !Edition.isNamed e name with
  | [] => none
  | e :: later =>
    let earlier := editions.take (editions.length - later.length - 1)
    some (.codes ((earlier ++ [e]).flatMap (·.added)))

/-! ## Lookup -/

/-- The characters with a property that is given by one name: a binary property, a general category
or a script. -/
def named? (name : List Char) : Option CharSet :=
  let n := normalize name
  (binary.find? n) <|> (categories.find? n) <|> (script? n).map hasScript

/-- The characters for which a property has a given value. -/
def valued? (name value : List Char) : Option CharSet :=
  let v := normalize value
  match normalize name with
  | "gc" | "generalcategory" | "category" => categories.find? v
  | "sc" | "script" => (script? v).map hasScript
  | "scx" | "scriptextensions" => (script? v).map usedWithScript
  | "age" => assignedBy? v
  | "gcb" | "graphemeclusterbreak" => Names.find? GraphemeBreak.classes v
  | "wb" | "wordbreak" => Names.find? WordBreak.classes v
  | "sb" | "sentencebreak" => Names.find? SentenceBreak.classes v
  | _ => none

end TableLexer.Unicode.Property
