import StorePolicy.Pattern.CharSet
import StorePolicy.Text.Age
import StorePolicy.Text.Category
import StorePolicy.Text.Script
import StorePolicy.Text.Trait

/-!
# Properties of characters in patterns

A property is named loosely: case, blanks, hyphens and low lines do not count, nor does `is`
in front. A name is that of a general category, of a group of them, of a script or of some
other set. A category, a script or an age may be written after the name of its kind.

The sets are those of Unicode 16. The kinds `Grapheme_Cluster_Break`, `Word_Break` and
`Sentence_Break`, and the sets that only serve to define others, such as `Other_Math`, are
not known here: a pattern that names one of them does not compile.
-/
namespace StorePolicy.Pattern

def plainName (cs : List Char) : String :=
  String.ofList ((cs.filter fun c => !([' ', '_', '-'].contains c) && c.toNat < 128).map Char.toLower)

/-- A name without what does not count in it. The short name of the comments of characters
keeps its `is`, as it would be taken for a category without it. -/
def looseName (s : String) : String :=
  match s.toList with
  | a :: b :: rest =>
    if (a = 'i' || a = 'I') && (b = 's' || b = 'S') then
      if plainName rest = "c" then "isc" else plainName rest
    else plainName s.toList
  | cs => plainName cs

namespace Property
open Text

def table (texts : List String) : CharSet :=
  CharSet.ofRanges (texts.flatMap fun t => (Ranges.ofText t).spans.toList)

def casedLetters : List String :=
  [Category.uppercaseLetter, Category.lowercaseLetter, Category.titlecaseLetter]

def letters : List String := casedLetters ++ [Category.modifierLetter, Category.otherLetter]

def marks : List String :=
  [Category.nonspacingMark, Category.spacingMark, Category.enclosingMark]

def numbers : List String :=
  [Category.decimalNumber, Category.letterNumber, Category.otherNumber]

def punctuation : List String :=
  [Category.connectorPunctuation, Category.dashPunctuation, Category.openPunctuation,
    Category.closePunctuation, Category.initialPunctuation, Category.finalPunctuation,
    Category.otherPunctuation]

def symbols : List String :=
  [Category.mathSymbol, Category.currencySymbol, Category.modifierSymbol, Category.otherSymbol]

def separators : List String :=
  [Category.spaceSeparator, Category.lineSeparator, Category.paragraphSeparator]

def controls : List String := [Category.control, Category.format, Category.privateUse]

def assignedTexts : List String :=
  letters ++ marks ++ numbers ++ punctuation ++ symbols ++ separators ++ controls

def unassigned : CharSet :=
  ((table assignedTexts).union [(0xD800, 0xDFFF)]).complement unicodeTop

def category? (name : String) : Option CharSet :=
  match name with
  | "l" | "letter" => some (table letters)
  | "lc" | "casedletter" => some (table casedLetters)
  | "lu" | "uppercaseletter" => some (table [Category.uppercaseLetter])
  | "ll" | "lowercaseletter" => some (table [Category.lowercaseLetter])
  | "lt" | "titlecaseletter" => some (table [Category.titlecaseLetter])
  | "lm" | "modifierletter" => some (table [Category.modifierLetter])
  | "lo" | "otherletter" => some (table [Category.otherLetter])
  | "m" | "mark" | "combiningmark" => some (table marks)
  | "mn" | "nonspacingmark" => some (table [Category.nonspacingMark])
  | "mc" | "spacingmark" => some (table [Category.spacingMark])
  | "me" | "enclosingmark" => some (table [Category.enclosingMark])
  | "n" | "number" => some (table numbers)
  | "nd" | "decimalnumber" | "digit" => some (table [Category.decimalNumber])
  | "nl" | "letternumber" => some (table [Category.letterNumber])
  | "no" | "othernumber" => some (table [Category.otherNumber])
  | "p" | "punctuation" | "punct" => some (table punctuation)
  | "pc" | "connectorpunctuation" => some (table [Category.connectorPunctuation])
  | "pd" | "dashpunctuation" => some (table [Category.dashPunctuation])
  | "ps" | "openpunctuation" => some (table [Category.openPunctuation])
  | "pe" | "closepunctuation" => some (table [Category.closePunctuation])
  | "pi" | "initialpunctuation" => some (table [Category.initialPunctuation])
  | "pf" | "finalpunctuation" => some (table [Category.finalPunctuation])
  | "po" | "otherpunctuation" => some (table [Category.otherPunctuation])
  | "s" | "symbol" => some (table symbols)
  | "sm" | "mathsymbol" => some (table [Category.mathSymbol])
  | "sc" | "currencysymbol" => some (table [Category.currencySymbol])
  | "sk" | "modifiersymbol" => some (table [Category.modifierSymbol])
  | "so" | "othersymbol" => some (table [Category.otherSymbol])
  | "z" | "separator" => some (table separators)
  | "zs" | "spaceseparator" => some (table [Category.spaceSeparator])
  | "zl" | "lineseparator" => some (table [Category.lineSeparator])
  | "zp" | "paragraphseparator" => some (table [Category.paragraphSeparator])
  | "c" | "other" => some ((table controls).union unassigned)
  | "cc" | "control" | "cntrl" => some (table [Category.control])
  | "cf" | "format" => some (table [Category.format])
  | "co" | "privateuse" => some (table [Category.privateUse])
  | "cn" | "unassigned" => some unassigned
  | "any" => some [(0, unicodeTop)]
  | "ascii" => some [(0, 127)]
  | "assigned" => some (unassigned.complement unicodeTop)
  | _ => none

def scriptNamed? (name : String) : Option Script :=
  scripts.find? fun s => s.names.contains name

def script? (name : String) : Option CharSet :=
  (scriptNamed? name).map fun s => table [s.own]

def shared : CharSet := table (scripts.map (·.shared))

/-- The characters used with a script. What is common or inherited leaves out the characters
that are told to go with certain scripts. -/
def extendedScript? (name : String) : Option CharSet :=
  (scriptNamed? name).map fun s =>
    if s.names.contains "common" || s.names.contains "inherited" then
      CharSet.difference unicodeTop (table [s.own]) shared
    else table [s.own, s.shared]

def age? (name : String) : Option CharSet :=
  (ages.findIdx? fun a => a.names.contains name).map fun i =>
    table ((ages.take (i + 1)).map (·.added))

def without (s t : CharSet) : CharSet := CharSet.difference unicodeTop s t

def alphabetic : CharSet := without alphanumericRanges.toList numberRanges.toList

def lowercase : CharSet := table [Category.lowercaseLetter, Trait.otherLowercase]

def uppercase : CharSet := table [Category.uppercaseLetter, Trait.otherUppercase]

def capitals : CharSet := uppercase.union (table [Category.titlecaseLetter])

def lowered : CharSet := without capitals (table [Trait.fixedCapitals])

def raised : CharSet :=
  (without lowercase (table [Trait.fixedSmall])).union (table [Trait.raisedTitles])

def titled : CharSet := (without raised (table [Trait.raisedOnly])).union (table [Trait.titledOnly])

def folded : CharSet := (without lowered (table [Trait.loweredOnly])).union (table [Trait.foldedOnly])

def caseIgnorable : CharSet :=
  table [Category.nonspacingMark, Category.enclosingMark, Category.format,
    Category.modifierLetter, Category.modifierSymbol, Trait.otherCaseIgnorable]

def graphemeExtend : CharSet :=
  table [Category.nonspacingMark, Category.enclosingMark, Trait.otherGraphemeExtend]

def graphemeBase : CharSet :=
  without (table (letters ++ marks ++ numbers ++ punctuation ++ symbols ++ [Category.spaceSeparator]))
    graphemeExtend

def identifierStart : CharSet :=
  without (table (letters ++ [Category.letterNumber, Trait.otherIdentifierStart]))
    (table [Trait.patternSyntax, Trait.patternBlank])

def identifierPart : CharSet :=
  identifierStart.union (table [Category.nonspacingMark, Category.spacingMark,
    Category.decimalNumber, Category.connectorPunctuation, Trait.otherIdentifierPart])

def other? (name : String) : Option CharSet :=
  match name with
  | "asciihexdigit" | "ahex" => some (table [Trait.asciiHexDigit])
  | "alphabetic" | "alpha" => some alphabetic
  | "bidicontrol" | "bidic" => some (table [Trait.bidiControl])
  | "caseignorable" | "ci" => some caseIgnorable
  | "cased" => some (capitals.union lowercase)
  | "changeswhencasefolded" | "cwcf" => some folded
  | "changeswhencasemapped" | "cwcm" => some ((lowered.union raised).union titled)
  | "changeswhenlowercased" | "cwl" => some lowered
  | "changeswhentitlecased" | "cwt" => some titled
  | "changeswhenuppercased" | "cwu" => some raised
  | "dash" => some (table [Trait.dash])
  | "defaultignorablecodepoint" | "di" => some (table [Trait.defaultIgnorable])
  | "deprecated" | "dep" => some (table [Trait.obsolete])
  | "diacritic" | "dia" => some (table [Trait.diacritic])
  | "emoji" => some (table [Trait.emoji])
  | "emojicomponent" | "ecomp" => some (table [Trait.emojiComponent])
  | "emojimodifier" | "emod" => some (table [Trait.emojiModifier])
  | "emojimodifierbase" | "ebase" => some (table [Trait.emojiModifierBase])
  | "emojipresentation" | "epres" => some (table [Trait.emojiPresentation])
  | "extendedpictographic" | "extpict" => some (table [Trait.pictographic])
  | "extender" | "ext" => some (table [Trait.extender])
  | "graphemebase" | "grbase" => some graphemeBase
  | "graphemeextend" | "grext" => some graphemeExtend
  | "hexdigit" | "hex" => some (table [Trait.hexDigit])
  | "idsbinaryoperator" | "idsb" => some (table [Trait.binaryDescription])
  | "idstrinaryoperator" | "idst" => some (table [Trait.ternaryDescription])
  | "idcontinue" | "idc" => some identifierPart
  | "idstart" | "ids" => some identifierStart
  | "ideographic" | "ideo" => some (table [Trait.ideographic])
  | "joincontrol" | "joinc" => some (table [Trait.joinControl])
  | "logicalorderexception" | "loe" => some (table [Trait.logicalOrderException])
  | "lowercase" | "lower" => some lowercase
  | "math" => some (table [Category.mathSymbol, Trait.otherMath])
  | "noncharactercodepoint" | "nchar" => some (table [Trait.noncharacter])
  | "patternsyntax" | "patsyn" => some (table [Trait.patternSyntax])
  | "patternwhitespace" | "patws" => some (table [Trait.patternBlank])
  | "prependedconcatenationmark" | "pcm" => some (table [Trait.prependedMark])
  | "quotationmark" | "qmark" => some (table [Trait.quotationMark])
  | "radical" => some (table [Trait.radical])
  | "regionalindicator" | "ri" => some (table [Trait.regionalIndicator])
  | "sentenceterminal" | "sterm" => some (table [Trait.sentenceTerminal])
  | "softdotted" | "sd" => some (table [Trait.softDotted])
  | "terminalpunctuation" | "term" => some (table [Trait.sentenceTerminal, Trait.otherTerminal])
  | "unifiedideograph" | "uideo" => some (table [Trait.unifiedIdeograph])
  | "uppercase" | "upper" => some uppercase
  | "variationselector" | "vs" => some (table [Trait.variationSelector])
  | "whitespace" | "wspace" | "space" => some spaceSet
  | "xidcontinue" | "xidc" => some (without identifierPart (table [Trait.unclosedPart]))
  | "xidstart" | "xids" => some (without identifierStart (table [Trait.unclosedStart]))
  | _ => none

def valued? (kind value : String) : Option CharSet :=
  match kind with
  | "gc" | "generalcategory" => category? value
  | "sc" | "script" => script? value
  | "scx" | "scriptextensions" => extendedScript? value
  | "age" => age? value
  | _ => none

end Property

def splitAt? (mark : Char) (text : String) : Option (String × String) :=
  match text.toList.dropWhile (· ≠ mark) with
  | _ :: rest => some (String.ofList (text.toList.takeWhile (· ≠ mark)), String.ofList rest)
  | [] => none

def propertyRanges? (name : String) : Option CharSet :=
  match splitAt? ':' name, splitAt? '=' name with
  | some (kind, value), _ => Property.valued? (looseName kind) (looseName value)
  | none, some (kind, value) =>
    if kind.endsWith "!" then
      (Property.valued? (looseName (kind.dropEnd 1).toString) (looseName value)).map
        (CharSet.complement unicodeTop)
    else Property.valued? (looseName kind) (looseName value)
  | none, none =>
    let name := looseName name
    ((Property.other? name).or (Property.category? name)).or (Property.script? name)

end StorePolicy.Pattern
