import RecordFilter.Unicode.Derived
import RecordFilter.Unicode.Emoji
import RecordFilter.Unicode.Script

namespace RecordFilter.Unicode.WordBreak

def extend : CharSet :=
  (graphemeExtend ∪ Category.set [.mc] ∪ emojiModifier) \ .ofCodes [0x200D]

def numberSigns : CharSet := .ofRuns [
  (0x600, 0x605), (0x6DD, 0x6DD), (0x890, 0x891), (0x8E2, 0x8E2), (0x110BD, 0x110BD),
  (0x110CD, 0x110CD)]

def format : CharSet :=
  Category.set [.cf] \
    (.ofCodes [0x200B, 0x200C, 0x200D, 0x70F] ∪ graphemeExtend ∪ numberSigns)

def hebrewLetter : CharSet := Script.set "hebr" ∩ Category.set [.lo]

def katakana : CharSet := Script.set "kana" ∪ .ofRuns [
  (0x3031, 0x3035), (0x309B, 0x309C), (0x30A0, 0x30A0), (0x30FC, 0x30FC), (0xFF70, 0xFF70)]

/-- Letters of scripts that are written without spaces between words. -/
def unspaced : CharSet :=
  .unions (["thai", "laoo", "khmr", "mymr", "tale", "talu", "lana", "tavt", "ahom"].map Script.set)

/-- Signs that are read as letters. -/
def letterLike : CharSet := .ofRuns [
  (0x2C2, 0x2C5), (0x2D2, 0x2D7), (0x2DE, 0x2DF), (0x2E5, 0x2EB), (0x2ED, 0x2ED), (0x2EF, 0x2FF),
  (0x55A, 0x55C), (0x55E, 0x55E), (0x58A, 0x58A), (0x5F3, 0x5F3), (0x70F, 0x70F), (0xA708, 0xA716),
  (0xA720, 0xA721), (0xA789, 0xA78A), (0xAB5B, 0xAB5B)]

def aLetter : CharSet :=
  alphabetic \
    .unions [ideographic, katakana, Script.set "hira", extend, hebrewLetter, unspaced] ∪ letterLike

def midLetter : CharSet :=
  .ofCodes [0x3A, 0xB7, 0x387, 0x55F, 0x5F4, 0x2027, 0xFE13, 0xFE55, 0xFF1A]

def midNumLet : CharSet := .ofCodes [0x2E, 0x2018, 0x2019, 0x2024, 0xFE52, 0xFF07, 0xFF0E]

def numeric : CharSet :=
  Category.set [.nd] ∪ numberSigns ∪ .ofCodes [0x66B, 0x19DA]

def named? : String → Option CharSet
  | "cr" => some (.ofCodes [0xD])
  | "lf" => some (.ofCodes [0xA])
  | "newline" | "nl" => some (.ofRuns [(0xB, 0xC), (0x85, 0x85), (0x2028, 0x2029)])
  | "extend" => some extend
  | "format" | "fo" => some format
  | "katakana" | "ka" => some katakana
  | "hebrewletter" | "hl" => some hebrewLetter
  | "aletter" | "le" => some aLetter
  | "singlequote" | "sq" => some (.ofCodes [0x27])
  | "doublequote" | "dq" => some (.ofCodes [0x22])
  | "midnumlet" | "mb" => some midNumLet
  | "midletter" | "ml" => some midLetter
  | "midnum" | "mn" => some (.ofCodes [
      0x2C, 0x3B, 0x37E, 0x589, 0x60C, 0x60D, 0x66C, 0x7F8, 0x2044, 0xFE50, 0xFE54, 0xFF0C,
      0xFF1B])
  | "numeric" | "nu" => some numeric
  | "extendnumlet" | "ex" => some (.ofCodes [
      0x5F, 0x202F, 0x203F, 0x2040, 0x2054, 0xFE33, 0xFE34, 0xFE4D, 0xFE4E, 0xFE4F, 0xFF3F])
  | "wsegspace" => some (.ofRuns [
      (0x20, 0x20), (0x1680, 0x1680), (0x2000, 0x2006), (0x2008, 0x200A), (0x205F, 0x205F),
      (0x3000, 0x3000)])
  | "zwj" => some (.ofCodes [0x200D])
  | "regionalindicator" | "ri" => some regionalIndicator
  | _ => none

end RecordFilter.Unicode.WordBreak
