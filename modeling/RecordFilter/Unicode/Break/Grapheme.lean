import RecordFilter.Unicode.Derived
import RecordFilter.Unicode.Emoji

namespace RecordFilter.Unicode.GraphemeBreak

def control : CharSet :=
  (Category.set [.zl, .zp, .cc, .cf] ∪ Category.set [.cn] ∩ defaultIgnorableCodePoint) \
    (.ofCodes [0xD, 0xA, 0x200C, 0x200D] ∪ prependedConcatenationMark ∪ graphemeExtend)

/-- Spacing marks that do not attach to what comes before. -/
def standalone : CharSet := .ofRuns [
  (0x102B, 0x102C), (0x1038, 0x1038), (0x1062, 0x1064), (0x1067, 0x106D), (0x1083, 0x1083),
  (0x1087, 0x108C), (0x108F, 0x108F), (0x109A, 0x109C), (0x1A61, 0x1A61), (0x1A63, 0x1A64),
  (0xAA7B, 0xAA7B), (0xAA7D, 0xAA7D), (0x11720, 0x11721)]

def spacingMark : CharSet :=
  (Category.set [.mc] \ graphemeExtend ∪ .ofCodes [0xE33, 0xEB3]) \ standalone

def prepended : CharSet := .ofRuns [
  (0xD4E, 0xD4E), (0x111C2, 0x111C3), (0x113D1, 0x113D1), (0x1193F, 0x1193F), (0x11941, 0x11941),
  (0x11A3A, 0x11A3A), (0x11A84, 0x11A89), (0x11D46, 0x11D46), (0x11F02, 0x11F02)]

/-- Syllables of two parts; those of three follow each, up to the next. -/
def lv : CharSet := .ofCodes ((List.range 399).map fun k => 0xAC00 + 28 * k)

/-- The set of a value, by its name in lowercase without separators. -/
def named? : String → Option CharSet
  | "cr" => some (.ofCodes [0xD])
  | "lf" => some (.ofCodes [0xA])
  | "control" | "cn" => some control
  | "extend" | "ex" => some (graphemeExtend ∪ emojiModifier)
  | "spacingmark" | "sm" => some spacingMark
  | "prepend" | "pp" => some (prependedConcatenationMark ∪ prepended)
  | "l" => some (.ofRuns [(0x1100, 0x115F), (0xA960, 0xA97C)])
  | "v" => some (.ofRuns [
      (0x1160, 0x11A7), (0xD7B0, 0xD7C6), (0x16D63, 0x16D63), (0x16D67, 0x16D6A)])
  | "t" => some (.ofRuns [(0x11A8, 0x11FF), (0xD7CB, 0xD7FB)])
  | "lv" => some lv
  | "lvt" => some (.ofRuns [(0xAC00, 0xD7A3)] \ lv)
  | "zwj" => some (.ofCodes [0x200D])
  | "regionalindicator" | "ri" => some regionalIndicator
  | _ => none

end RecordFilter.Unicode.GraphemeBreak
