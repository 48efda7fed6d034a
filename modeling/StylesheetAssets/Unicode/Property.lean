import StylesheetAssets.Unicode.Age
import StylesheetAssets.Unicode.BreakClass
import StylesheetAssets.Unicode.CharSet
import StylesheetAssets.Unicode.GeneralCategory
import StylesheetAssets.Unicode.ListedProperty
import StylesheetAssets.Unicode.Newer
import StylesheetAssets.Unicode.Script
import StylesheetAssets.Unicode.ScriptExtension

/-!
Properties of characters, those that are listed and those that follow from them.

Names are in lower case and without separators. The properties are those of version 16 of the
standard; what names of groups and quoted text may hold follows version 17.
-/
namespace StylesheetAssets.Unicode

open CharSet (named named? ofTable)

/-- The characters of some general categories. -/
def category (names : List String) : CharSet := named generalCategories names

/-- The characters with a property that is listed. -/
def listed (name : String) : CharSet := named listedProperties [name]

def letters : CharSet := category ["lu", "ll", "lt", "lm", "lo"]

def unassigned : CharSet := (category (generalCategories.flatMap (·.1))).complement

def lowercase : CharSet := category ["ll"] ∪ listed "otherlowercase"

def uppercase : CharSet := category ["lu"] ∪ listed "otheruppercase"

def alphabetic : CharSet :=
  letters ∪ category ["nl"] ∪ lowercase ∪ uppercase ∪ listed "otheralphabetic"

def cased : CharSet := lowercase ∪ uppercase ∪ category ["lt"]

def caseIgnorable : CharSet :=
  category ["mn", "me", "cf", "lm", "sk"] ∪
    named wordClasses ["midletter", "midnumlet", "singlequote"]

def changesWhenTitlecased : CharSet :=
  (listed "changeswhenuppercased" \ (category ["lt"] ∪ ofTable ["10D0-10FA 10FD-10FF"])) ∪
    ofTable ["1C4 1C7 1CA 1F1"]

def changesWhenCasefolded : CharSet :=
  (listed "changeswhenlowercased" \ ofTable ["13A0-13F5"]) ∪
    ofTable ["B5 DF 149 17F 345 3C2 3D0-3D1 3D5-3D6 3F0-3F1 3F5 587 13F8-13FD 1C80-1C88 1E9A-1E9B",
      "1F80-1F87 1F90-1F97 1FA0-1FA7 1FB2-1FB4 1FB7 1FC2-1FC4 1FC7 1FF2-1FF4 1FF7 AB70-ABBF",
      "FB00-FB06 FB13-FB17"]

def changesWhenCasemapped : CharSet :=
  listed "changeswhenlowercased" ∪ listed "changeswhenuppercased" ∪ changesWhenTitlecased

def math : CharSet := category ["sm"] ∪ listed "othermath"

/-- Punctuation and blanks that no identifier holds. -/
def reserved : CharSet := listed "patternsyntax" ∪ listed "patternwhitespace"

def identifierStart : CharSet :=
  (letters ∪ category ["nl"] ∪ listed "otheridstart") \ reserved

def identifierContinue : CharSet :=
  (identifierStart ∪ category ["mn", "mc", "nd", "pc"] ∪ listed "otheridcontinue") \ reserved

/-- Characters of identifiers whose compatibility forms are none. -/
def decomposing : CharSet :=
  ofTable ["37A 309B-309C FC5E-FC63 FDFA-FDFB FE70 FE72 FE74 FE76 FE78 FE7A FE7C FE7E"]

/-- Characters that are not shown where they are not supported. -/
def defaultIgnorable : CharSet :=
  (listed "odi" ∪ category ["cf"] ∪ listed "variationselector") \
    (listed "whitespace" ∪ listed "prependedconcatenationmark" ∪ ofTable ["FFF9-FFFB 13430-13440"])

def graphemeExtend : CharSet := category ["mn", "me"] ∪ listed "othergraphemeextend"

def graphemeBase : CharSet :=
  .any \ (category ["cc", "cf", "co", "zl", "zp"] ∪ unassigned ∪ graphemeExtend)

/-- Properties that a character has or lacks. -/
def binaryProperty? (name : String) : Option CharSet :=
  match name with
  | "alphabetic" | "alpha" => some alphabetic
  | "cased" => some cased
  | "caseignorable" | "ci" => some caseIgnorable
  | "changeswhencasefolded" | "cwcf" => some changesWhenCasefolded
  | "changeswhencasemapped" | "cwcm" => some changesWhenCasemapped
  | "changeswhentitlecased" | "cwt" => some changesWhenTitlecased
  | "defaultignorablecodepoint" | "di" => some defaultIgnorable
  | "graphemebase" | "grbase" => some graphemeBase
  | "graphemeextend" | "grext" => some graphemeExtend
  | "idcontinue" | "idc" => some identifierContinue
  | "idstart" | "ids" => some identifierStart
  | "lowercase" | "lower" => some lowercase
  | "math" => some math
  | "uppercase" | "upper" => some uppercase
  | "xidcontinue" | "xidc" => some (identifierContinue \ decomposing)
  | "xidstart" | "xids" => some (identifierStart \ (decomposing ∪ ofTable ["E33 EB3 FF9E-FF9F"]))
  | _ => named? listedProperties name

def generalCategory? (name : String) : Option CharSet :=
  match name with
  | "any" => some .any
  | "ascii" => some .ascii
  | "assigned" => some unassigned.complement
  | "cn" | "unassigned" => some unassigned
  | "l" | "letter" => some letters
  | "lc" | "casedletter" => some (category ["lu", "ll", "lt"])
  | "m" | "mark" | "combiningmark" => some (category ["mn", "mc", "me"])
  | "n" | "number" => some (category ["nd", "nl", "no"])
  | "p" | "punctuation" | "punct" => some (category ["pc", "pd", "ps", "pe", "pi", "pf", "po"])
  | "s" | "symbol" => some (category ["sm", "sc", "sk", "so"])
  | "z" | "separator" => some (category ["zs", "zl", "zp"])
  | "c" | "other" =>
    some (category ["lu", "ll", "lt", "lm", "lo", "mn", "mc", "me", "nd", "nl", "no", "pc", "pd",
      "ps", "pe", "pi", "pf", "po", "sm", "sc", "sk", "so", "zs", "zl", "zp"]).complement
  | _ => named? generalCategories name

def script? (name : String) : Option CharSet := named? scripts name

/-- The characters that a script is written with, of which it may share some with others. What is
shared belongs to these scripts and no longer to all or to those before it. -/
def scriptExtension? (name : String) : Option CharSet := do
  let (names, own) ← scripts.find? (·.1.contains name)
  let shared (p : List String → Bool) : CharSet :=
    .ofRanges ((sharedCharacters.filter (p ·.1)).flatMap fun entry => (ofTable entry.2).ranges)
  return if names.contains "common" || names.contains "inherited" then
    ofTable own \ shared fun _ => true
  else ofTable own ∪ shared fun codes => codes.any names.contains

/-- The characters that a version of the standard and those before it came with. -/
def age? (name : String) : Option CharSet := do
  let last ← ages.findIdx? (·.1.contains name)
  return ofTable ((ages.take (last + 1)).flatMap (·.2))

/-- Syllables of Korean with two letters, in which each 28th of all starts. -/
def openSyllables : CharSet := .ofCodes ((List.range 399).map fun i => 0xac00 + 28 * i)

def clusterExtend : CharSet := graphemeExtend ∪ listed "emojimodifier"

/-- Classes of characters between which grapheme clusters are told apart. -/
def clusterClass? (name : String) : Option CharSet :=
  match name with
  | "extend" | "ex" => some clusterExtend
  | "lv" => some openSyllables
  | "lvt" => some (ofTable ["AC00-D7A3"] \ openSyllables)
  | "regionalindicator" | "ri" => some (listed "ri")
  | _ => named? clusterClasses name

/-- Classes of characters between which words are told apart. -/
def wordClass? (name : String) : Option CharSet :=
  match name with
  | "extend" => some (clusterExtend ∪ category ["mc"])
  | "numeric" | "nu" =>
    some (category ["nd"] ∪ ofTable ["600-605 66B 6DD 890-891 8E2 19DA 110BD 110CD"])
  | "regionalindicator" | "ri" => some (listed "ri")
  | _ => named? wordClasses name

def sentenceExtend : CharSet := graphemeExtend ∪ category ["mc"] ∪ ofTable ["200D"]

def sentenceLower : CharSet := lowercase \ (graphemeExtend ∪ ofTable ["10D0-10FA 10FD-10FF"])

def sentenceUpper : CharSet := (category ["lt"] ∪ uppercase) \ ofTable ["1C90-1CBF"]

/-- Classes of characters between which sentences are told apart. -/
def sentenceClass? (name : String) : Option CharSet :=
  match name with
  | "extend" | "ex" => some sentenceExtend
  | "lower" | "lo" => some sentenceLower
  | "upper" | "up" => some sentenceUpper
  | "oletter" | "le" =>
    some ((alphabetic ∪ ofTable ["5F3"]) \ (sentenceLower ∪ sentenceUpper ∪ sentenceExtend))
  | "numeric" | "nu" =>
    some (category ["nd"] ∪ ofTable ["600-605 66B-66C 6DD 890-891 8E2 19DA 110BD 110CD"])
  | "sp" => some (listed "whitespace" \ (named sentenceClasses ["sep"] ∪ ofTable ["A D"]))
  | "sterm" | "st" => some (listed "sterm" \ named sentenceClasses ["aterm"])
  | _ => named? sentenceClasses name

/-- The characters with a property that a single name stands for. -/
def property? (name : String) : Option CharSet :=
  (binaryProperty? name).orElse fun _ => (generalCategory? name).orElse fun _ => script? name

def propertyValue? (property value : String) : Option CharSet :=
  match property with
  | "age" => age? value
  | "gc" | "generalcategory" => generalCategory? value
  | "gcb" | "graphemeclusterbreak" => clusterClass? value
  | "sb" | "sentencebreak" => sentenceClass? value
  | "sc" | "script" => script? value
  | "scx" | "scriptextensions" => scriptExtension? value
  | "wb" | "wordbreak" => wordClass? value
  | _ => none

def digits : CharSet := category ["nd"]

def whiteSpace : CharSet := listed "whitespace"

/-- Letters, marks, digits, connectors and joiners, of which words consist. -/
def wordCharacters : CharSet :=
  alphabetic ∪ category ["mn", "mc", "me", "nd", "pc"] ∪ listed "joincontrol"

/-- What a name may start with besides an underscore. -/
def nameStart : CharSet := alphabetic ∪ ofTable newerAlphabetic

/-- What a name may go on with besides some punctuation. -/
def nameContinue : CharSet := nameStart ∪ category ["nd", "nl", "no"] ∪ ofTable newerNumbers

/-- Characters that do not show on their own: controls, formats, separators other than the space,
private and unassigned ones, and those that extend the character before them. -/
def hidden : CharSet :=
  ((category ["cc", "cf", "co", "zs", "zl", "zp"] ∪ unassigned) \
      (ofTable newerCharacters ∪ .single ' ')) ∪
    graphemeExtend ∪ ofTable newerExtenders

end StylesheetAssets.Unicode
