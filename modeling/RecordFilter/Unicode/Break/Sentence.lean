import RecordFilter.Unicode.Break.Word

namespace RecordFilter.Unicode.SentenceBreak

def extend : CharSet := graphemeExtend ∪ Category.set [.mc] ∪ .ofCodes [0x200D]

def format : CharSet :=
  Category.set [.cf] \ (graphemeExtend ∪ WordBreak.numberSigns ∪ .ofCodes [0x200D])

/-- Lowercase letters; those of Georgian do not begin a sentence differently. -/
def lower : CharSet :=
  lowercase \ (graphemeExtend ∪ .ofRuns [(0x10D0, 0x10FA), (0x10FD, 0x10FF)])

def upper : CharSet :=
  (uppercase ∪ Category.set [.lt]) \ .ofRuns [(0x1C90, 0x1CBA), (0x1CBD, 0x1CBF)]

def oLetter : CharSet := (alphabetic ∪ .ofCodes [0x5F3]) \ .unions [lower, upper, extend]

def aTerm : CharSet := .ofCodes [0x2E, 0x2024, 0xFE52, 0xFF0E]

def named? : String → Option CharSet
  | "cr" => some (.ofCodes [0xD])
  | "lf" => some (.ofCodes [0xA])
  | "extend" | "ex" => some extend
  | "sep" | "se" => some (.ofRuns [(0x85, 0x85), (0x2028, 0x2029)])
  | "format" | "fo" => some format
  | "sp" => some (whiteSpace \ .ofRuns [(0xA, 0xA), (0xD, 0xD), (0x85, 0x85), (0x2028, 0x2029)])
  | "lower" | "lo" => some lower
  | "upper" | "up" => some upper
  | "oletter" | "le" => some oLetter
  | "numeric" | "nu" => some (WordBreak.numeric ∪ .ofCodes [0x66C])
  | "aterm" | "at" => some aTerm
  | "sterm" | "st" => some (sentenceTerminal \ aTerm)
  | "close" | "cl" => some (Category.set [.ps, .pe, .pi, .pf] ∪ .ofRuns [
      (0x22, 0x22), (0x27, 0x27), (0x275B, 0x2760), (0x2E00, 0x2E01), (0x2E06, 0x2E08),
      (0x2E0B, 0x2E0B), (0x1F676, 0x1F678)])
  | "scontinue" | "sc" => some (.ofRuns [
      (0x2C, 0x2D), (0x3A, 0x3B), (0x37E, 0x37E), (0x55D, 0x55D), (0x60C, 0x60D), (0x7F8, 0x7F8),
      (0x1802, 0x1802), (0x1808, 0x1808), (0x2013, 0x2014), (0x3001, 0x3001), (0xFE10, 0xFE11),
      (0xFE13, 0xFE14), (0xFE31, 0xFE32), (0xFE50, 0xFE51), (0xFE54, 0xFE55), (0xFE58, 0xFE58),
      (0xFE63, 0xFE63), (0xFF0C, 0xFF0D), (0xFF1A, 0xFF1B), (0xFF64, 0xFF64)])
  | _ => none

end RecordFilter.Unicode.SentenceBreak
