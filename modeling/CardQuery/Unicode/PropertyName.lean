/-
**Properties by name.**

Names of properties are compared without regard to case, spaces, underscores, hyphens and a
leading *is*.  A single name is that of a binary property, a general category or a script, in this
order; a name with a value asks for a category, a script, the scripts a character is used with, an
age, or a place in the division of texts.  Surrogates are no characters, so that their category has
no name.  All tables are those of version 16 of the character database.

Main definitions:

* `comparedName` — the form in which names are compared;
* `propertyNamed?`, `propertyWithValue?` — the characters with a property.
-/

import CardQuery.Unicode.Age
import CardQuery.Unicode.Blank
import CardQuery.Unicode.Category
import CardQuery.Unicode.Property
import CardQuery.Unicode.ScriptExtension
import CardQuery.Unicode.Segmentation

set_option autoImplicit false

namespace CardQuery.Unicode

/-- A set of characters as tables to look into, or the characters outside all of them. -/
structure Property where
  tables : List Ranges
  complement : Bool

/-- Has the character the property? -/
def Property.has (p : Property) (c : Char) : Bool :=
  (p.tables.any (·.has c)) != p.complement

/-- The form in which names of properties are compared. -/
def comparedName (name : List Char) : List Char :=
  let lower := (name.filter fun c => c.toNat < 128).map Char.toLower
  let strip (s : List Char) := s.filter fun c => c != ' ' && c != '_' && c != '-'
  match name.take 2 |>.map Char.toLower with
  | ['i', 's'] =>
    let rest := strip (lower.drop 2)
    if rest = ['c'] then ['i', 's', 'c'] else rest
  | _ => strip lower

/-! ### General categories -/

/-- The letters. -/
def letters : List Ranges :=
  [uppercaseLetter, lowercaseLetter, titlecaseLetter, modifierLetter, otherLetter]

/-- The marks. -/
def marks : List Ranges := [nonspacingMark, spacingMark, enclosingMark]

/-- The numbers. -/
def numbers : List Ranges := [decimalNumber, letterNumber, otherNumber]

/-- The punctuation. -/
def punctuation : List Ranges :=
  [connectorPunctuation, dashPunctuation, openPunctuation, closePunctuation, initialPunctuation,
    finalPunctuation, otherPunctuation]

/-- The symbols. -/
def symbols : List Ranges := [mathSymbol, currencySymbol, modifierSymbol, otherSymbol]

/-- The separators. -/
def separators : List Ranges := [spaceSeparator, lineSeparator, paragraphSeparator]

/-- The assigned characters. -/
def assigned : List Ranges :=
  letters ++ marks ++ numbers ++ punctuation ++ symbols ++ separators ++
    [control, format, privateUse]

/-- The general categories and their groups under all their names. -/
def categories : List (List String × Property) := [
  (["any"], ⟨[], true⟩),
  (["assigned"], ⟨assigned, false⟩),
  (["ascii"], ⟨[[(0, 127)]], false⟩),
  (["l", "letter"], ⟨letters, false⟩),
  (["lc", "casedletter"], ⟨[uppercaseLetter, lowercaseLetter, titlecaseLetter], false⟩),
  (["lu", "uppercaseletter"], ⟨[uppercaseLetter], false⟩),
  (["ll", "lowercaseletter"], ⟨[lowercaseLetter], false⟩),
  (["lt", "titlecaseletter"], ⟨[titlecaseLetter], false⟩),
  (["lm", "modifierletter"], ⟨[modifierLetter], false⟩),
  (["lo", "otherletter"], ⟨[otherLetter], false⟩),
  (["m", "mark", "combiningmark"], ⟨marks, false⟩),
  (["mn", "nonspacingmark"], ⟨[nonspacingMark], false⟩),
  (["mc", "spacingmark"], ⟨[spacingMark], false⟩),
  (["me", "enclosingmark"], ⟨[enclosingMark], false⟩),
  (["n", "number"], ⟨numbers, false⟩),
  (["nd", "decimalnumber", "digit"], ⟨[decimalNumber], false⟩),
  (["nl", "letternumber"], ⟨[letterNumber], false⟩),
  (["no", "othernumber"], ⟨[otherNumber], false⟩),
  (["p", "punctuation", "punct"], ⟨punctuation, false⟩),
  (["pc", "connectorpunctuation"], ⟨[connectorPunctuation], false⟩),
  (["pd", "dashpunctuation"], ⟨[dashPunctuation], false⟩),
  (["ps", "openpunctuation"], ⟨[openPunctuation], false⟩),
  (["pe", "closepunctuation"], ⟨[closePunctuation], false⟩),
  (["pi", "initialpunctuation"], ⟨[initialPunctuation], false⟩),
  (["pf", "finalpunctuation"], ⟨[finalPunctuation], false⟩),
  (["po", "otherpunctuation"], ⟨[otherPunctuation], false⟩),
  (["s", "symbol"], ⟨symbols, false⟩),
  (["sm", "mathsymbol"], ⟨[mathSymbol], false⟩),
  (["sc", "currencysymbol"], ⟨[currencySymbol], false⟩),
  (["sk", "modifiersymbol"], ⟨[modifierSymbol], false⟩),
  (["so", "othersymbol"], ⟨[otherSymbol], false⟩),
  (["z", "separator"], ⟨separators, false⟩),
  (["zs", "spaceseparator"], ⟨[spaceSeparator], false⟩),
  (["zl", "lineseparator"], ⟨[lineSeparator], false⟩),
  (["zp", "paragraphseparator"], ⟨[paragraphSeparator], false⟩),
  (["c", "other"],
    ⟨letters ++ marks ++ numbers ++ punctuation ++ symbols ++ separators, true⟩),
  (["cc", "control", "cntrl"], ⟨[control], false⟩),
  (["cf", "format"], ⟨[format], false⟩),
  (["co", "privateuse"], ⟨[privateUse], false⟩),
  (["cn", "unassigned"], ⟨assigned, true⟩)]

/-- The characters of a general category. -/
def categoryNamed? (name : String) : Option Property :=
  (categories.find? fun c => c.1.contains name).map (·.2)

/-! ### Binary properties -/

/-- The binary properties under all their names. -/
def binaryProperties : List (List String × List Ranges) := [
  (["alphabetic", "alpha"], [alphabetic]),
  (["asciihexdigit", "ahex"], [asciiHexDigit]),
  (["bidicontrol", "bidic"], [bidiControl]),
  (["bidimirrored", "bidim"], [bidiMirrored]),
  (["cased"], [cased]),
  (["caseignorable", "ci"], [caseIgnorable]),
  (["changeswhencasefolded", "cwcf"], [changesInLowercase, changesWhenFoldedOnly]),
  (["changeswhencasemapped", "cwcm"], [changesWhenCasemapped]),
  (["changeswhenlowercased", "cwl"], [changesInLowercase, changesWhenLowercasedOnly]),
  (["changeswhentitlecased", "cwt"], [changesInCapitals, changesWhenTitlecasedOnly]),
  (["changeswhenuppercased", "cwu"], [changesInCapitals, changesWhenUppercasedOnly]),
  (["dash"], [dash]),
  (["defaultignorablecodepoint", "di"], [defaultIgnorable]),
  (["deprecated", "dep"], [deprecated]),
  (["diacritic", "dia"], [diacritic]),
  (["emoji"], [emoji]),
  (["emojicomponent", "ecomp"], [emojiComponent]),
  (["emojimodifier", "emod"], [emojiModifier]),
  (["emojimodifierbase", "ebase"], [emojiModifierBase]),
  (["emojipresentation", "epres"], [emojiPresentation]),
  (["extendedpictographic", "extpict"], [extendedPictographic]),
  (["extender", "ext"], [extender]),
  (["graphemebase", "grbase"], [graphemeBase]),
  (["graphemeextend", "grext"], [graphemeExtend]),
  (["graphemelink", "grlink"], [graphemeLink]),
  (["hexdigit", "hex"], [hexDigit]),
  (["hyphen"], [hyphen]),
  (["idcompatmathcontinue"], [idCompatMathContinue]),
  (["idcompatmathstart"], [idCompatMathStart]),
  (["idcontinue", "idc"],
    [xidStart, idStartOnly, nonspacingMark, spacingMark, decimalNumber, connectorPunctuation,
      otherIdContinue]),
  (["ideographic", "ideo"], [ideographic]),
  (["idsbinaryoperator", "idsb"], [idsBinaryOperator]),
  (["idstart", "ids"], [xidStart, idStartOnly]),
  (["idstrinaryoperator", "idst"], [idsTrinaryOperator]),
  (["idsunaryoperator", "idsu"], [idsUnaryOperator]),
  (["joincontrol", "joinc"], [joinControl]),
  (["logicalorderexception", "loe"], [logicalOrderException]),
  (["lowercase", "lower"], [lowercaseLetter, otherLowercase]),
  (["math"], [math]),
  (["modifiercombiningmark", "mcm"], [modifierCombiningMark]),
  (["noncharactercodepoint", "nchar"], [noncharacter]),
  (["otheralphabetic", "oalpha"], [otherAlphabetic]),
  (["otherdefaultignorablecodepoint", "odi"], [otherDefaultIgnorable]),
  (["othergraphemeextend", "ogrext"], [otherGraphemeExtend]),
  (["otheridcontinue", "oidc"], [otherIdContinue]),
  (["otheridstart", "oids"], [otherIdStart]),
  (["otherlowercase", "olower"], [otherLowercase]),
  (["othermath", "omath"], [otherMath]),
  (["otheruppercase", "oupper"], [otherUppercase]),
  (["patternsyntax", "patsyn"], [patternSyntax]),
  (["patternwhitespace", "patws"], [patternWhiteSpace]),
  (["prependedconcatenationmark", "pcm"], [prependedConcatenationMark]),
  (["quotationmark", "qmark"], [quotationMark]),
  (["radical"], [radical]),
  (["regionalindicator", "ri"], [regionalIndicator]),
  (["sentenceterminal", "sterm"], [sentenceTerminal]),
  (["softdotted", "sd"], [softDotted]),
  (["terminalpunctuation", "term"], [terminalPunctuation]),
  (["unifiedideograph", "uideo"], [unifiedIdeograph]),
  (["uppercase", "upper"], [uppercaseLetter, otherUppercase]),
  (["variationselector", "vs"], [variationSelector]),
  (["whitespace", "wspace", "space"], [whiteSpace]),
  (["xidcontinue", "xidc"],
    [xidStart, nonspacingMark, spacingMark, decimalNumber, connectorPunctuation, xidContinueOnly]),
  (["xidstart", "xids"], [xidStart])]

/-! ### Look-up -/

/-- What a list of named sets holds under a name. -/
def named? (sets : List (List String × List Ranges)) (name : String) : Option Property :=
  (sets.find? fun s => s.1.contains name).map fun s => ⟨s.2, false⟩

/-- The characters of a script. -/
def scriptProperty? (name : String) : Option Property :=
  (scriptNamed? name).map fun s => ⟨[s.ranges], false⟩

/-- The characters that a single name stands for. -/
def propertyNamed? (name : List Char) : Option Property :=
  let name := String.ofList (comparedName name)
  (named? binaryProperties name).orElse fun _ =>
    (categoryNamed? name).orElse fun _ => scriptProperty? name

/-- The characters whose property of the first name has the value of the second. -/
def propertyWithValue? (name value : List Char) : Option Property :=
  let value := String.ofList (comparedName value)
  match String.ofList (comparedName name) with
  | "generalcategory" | "gc" => categoryNamed? value
  | "script" | "sc" => scriptProperty? value
  | "scriptextensions" | "scx" => (scriptNamed? value).map fun s => ⟨s.usedWith, false⟩
  | "age" => (assignedBy? value).map fun added => ⟨added, false⟩
  | "graphemeclusterbreak" | "gcb" => named? graphemeBreaks value
  | "wordbreak" | "wb" => named? wordBreaks value
  | "sentencebreak" | "sb" => named? sentenceBreaks value
  | _ => none

end CardQuery.Unicode
