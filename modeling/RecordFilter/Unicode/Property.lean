import RecordFilter.Unicode.Age
import RecordFilter.Unicode.Break.Grapheme
import RecordFilter.Unicode.Break.Sentence
import RecordFilter.Unicode.CaseChange
import RecordFilter.Unicode.ScriptExtension

namespace RecordFilter.Unicode.Property

def binary? : String → Option CharSet
  | "alphabetic" | "alpha" => some alphabetic
  | "asciihexdigit" | "ahex" => some asciiHexDigit
  | "bidicontrol" | "bidic" => some bidiControl
  | "bidimirrored" | "bidim" => some bidiMirrored
  | "caseignorable" | "ci" => some caseIgnorable
  | "cased" => some cased
  | "changeswhencasefolded" | "cwcf" => some changesWhenCasefolded
  | "changeswhencasemapped" | "cwcm" => some changesWhenCasemapped
  | "changeswhenlowercased" | "cwl" => some changesWhenLowercased
  | "changeswhentitlecased" | "cwt" => some changesWhenTitlecased
  | "changeswhenuppercased" | "cwu" => some changesWhenUppercased
  | "dash" => some dash
  | "defaultignorablecodepoint" | "di" => some defaultIgnorableCodePoint
  | "deprecated" | "dep" => some deprecated
  | "diacritic" | "dia" => some diacritic
  | "emoji" => some emoji
  | "emojicomponent" | "ecomp" => some emojiComponent
  | "emojimodifier" | "emod" => some emojiModifier
  | "emojimodifierbase" | "ebase" => some emojiModifierBase
  | "emojipresentation" | "epres" => some emojiPresentation
  | "extendedpictographic" | "extpict" => some extendedPictographic
  | "extender" | "ext" => some extender
  | "graphemebase" | "grbase" => some graphemeBase
  | "graphemeextend" | "grext" => some graphemeExtend
  | "graphemelink" | "grlink" => some graphemeLink
  | "hexdigit" | "hex" => some hexDigit
  | "hyphen" => some hyphen
  | "idcompatmathcontinue" => some idCompatMathContinue
  | "idcompatmathstart" => some idCompatMathStart
  | "idcontinue" | "idc" => some idContinue
  | "ideographic" | "ideo" => some ideographic
  | "idsbinaryoperator" | "idsb" => some idsBinaryOperator
  | "idstart" | "ids" => some idStart
  | "idstrinaryoperator" | "idst" => some idsTrinaryOperator
  | "idsunaryoperator" | "idsu" => some idsUnaryOperator
  | "joincontrol" | "joinc" => some joinControl
  | "logicalorderexception" | "loe" => some logicalOrderException
  | "lowercase" | "lower" => some lowercase
  | "math" => some math
  | "modifiercombiningmark" | "mcm" => some modifierCombiningMark
  | "noncharactercodepoint" | "nchar" => some noncharacterCodePoint
  | "otheralphabetic" | "oalpha" => some otherAlphabetic
  | "otherdefaultignorablecodepoint" | "odi" => some otherDefaultIgnorableCodePoint
  | "othergraphemeextend" | "ogrext" => some otherGraphemeExtend
  | "otheridcontinue" | "oidc" => some otherIdContinue
  | "otheridstart" | "oids" => some otherIdStart
  | "otherlowercase" | "olower" => some otherLowercase
  | "othermath" | "omath" => some otherMath
  | "otheruppercase" | "oupper" => some otherUppercase
  | "patternsyntax" | "patsyn" => some patternSyntax
  | "patternwhitespace" | "patws" => some patternWhiteSpace
  | "prependedconcatenationmark" | "pcm" => some prependedConcatenationMark
  | "quotationmark" | "qmark" => some quotationMark
  | "radical" => some radical
  | "regionalindicator" | "ri" => some regionalIndicator
  | "sentenceterminal" | "sterm" => some sentenceTerminal
  | "softdotted" | "sd" => some softDotted
  | "terminalpunctuation" | "term" => some terminalPunctuation
  | "unifiedideograph" | "uideo" => some unifiedIdeograph
  | "uppercase" | "upper" => some uppercase
  | "variationselector" | "vs" => some variationSelector
  | "whitespace" | "wspace" | "space" => some whiteSpace
  | "xidcontinue" | "xidc" => some xidContinue
  | "xidstart" | "xids" => some xidStart
  | _ => none

/-- The set of a category; a few sets are named as if they were one. -/
def category? : String → Option CharSet
  | "any" => some .all
  | "ascii" => some (.ofRuns [(0, 0x7F)])
  | "assigned" => some (.complement (Category.set [.cn]))
  | name => (Category.named? name).map Category.set

/-- The set of a property of Unicode 16.0 given by its value alone: one that holds or does not, a
category or a script. -/
def named? (name : String) : Option CharSet :=
  binary? name <|> category? name <|> (Script.named? name).map Script.set

/-- The set of the characters for which the property `name` has the value `value` in Unicode 16.0.
-/
def valued? (name value : String) : Option CharSet :=
  match name with
  | "generalcategory" | "gc" => category? value
  | "script" | "sc" => (Script.named? value).map Script.set
  | "scriptextensions" | "scx" => (Script.named? value).map ScriptExtension.set
  | "age" => (Age.number? value).map Age.set
  | "graphemeclusterbreak" | "gcb" => GraphemeBreak.named? value
  | "wordbreak" | "wb" => WordBreak.named? value
  | "sentencebreak" | "sb" => SentenceBreak.named? value
  | _ => none

/-- A name as the tables have it: in lowercase, without separators and without a leading `is`,
which is kept only where the whole name is `isc`. -/
def plainName (name : List Char) : String :=
  let plain (cs : List Char) :=
    cs.filter fun c => c.toNat < 0x80 && !(c = ' ' || c = '_' || c = '-')
  let short := match name.map Char.toLower with
    | 'i' :: 's' :: rest => if plain rest = ['c'] then ['i', 's', 'c'] else plain rest
    | lower => plain lower
  String.ofList short

end RecordFilter.Unicode.Property
