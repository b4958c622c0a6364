import RecordFilter.Unicode.Blank
import RecordFilter.Unicode.Category
import RecordFilter.Unicode.Listed

namespace RecordFilter.Unicode

def lowercase : CharSet := Category.set [.ll] ∪ otherLowercase

def uppercase : CharSet := Category.set [.lu] ∪ otherUppercase

def cased : CharSet := lowercase ∪ uppercase ∪ Category.set [.lt]

def alphabetic : CharSet := cased ∪ Category.set [.lm, .lo, .nl] ∪ otherAlphabetic

/-- Characters of words: alphabetic characters, marks, decimal digits, connector punctuation and
the two joiners. -/
def word : CharSet := alphabetic ∪ Category.set [.mn, .mc, .me, .nd, .pc] ∪ joinControl

def numeric : CharSet := Category.set [.nd, .nl, .no]

def math : CharSet := Category.set [.sm] ∪ otherMath

def patternUse : CharSet := patternSyntax ∪ patternWhiteSpace

def idStart : CharSet :=
  (Category.set [.lu, .ll, .lt, .lm, .lo, .nl] ∪ otherIdStart) \ patternUse

def idContinue : CharSet :=
  (idStart ∪ Category.set [.mn, .mc, .nd, .pc] ∪ otherIdContinue) \ patternUse

/-- Parts of identifiers that are none in a compatibility normal form. -/
def unstableContinue : CharSet := .ofRuns [
  (0x37A, 0x37A), (0x309B, 0x309C), (0xFC5E, 0xFC63), (0xFDFA, 0xFDFB), (0xFE70, 0xFE70),
  (0xFE72, 0xFE72), (0xFE74, 0xFE74), (0xFE76, 0xFE76), (0xFE78, 0xFE78), (0xFE7A, 0xFE7A),
  (0xFE7C, 0xFE7C), (0xFE7E, 0xFE7E)]

def unstableStart : CharSet :=
  unstableContinue ∪ .ofRuns [(0xE33, 0xE33), (0xEB3, 0xEB3), (0xFF9E, 0xFF9F)]

def xidStart : CharSet := idStart \ unstableStart

def xidContinue : CharSet := idContinue \ unstableContinue

/-- Format characters that are shown all the same. -/
def visibleFormat : CharSet :=
  .ofRuns [(0xFFF9, 0xFFFB), (0x13430, 0x13440)] ∪ prependedConcatenationMark

def defaultIgnorableCodePoint : CharSet :=
  (otherDefaultIgnorableCodePoint ∪ Category.set [.cf] ∪ variationSelector) \
    (whiteSpace ∪ visibleFormat)

def graphemeExtend : CharSet := Category.set [.mn, .me] ∪ otherGraphemeExtend

def graphemeBase : CharSet :=
  .all \ (Category.set [.cc, .cf, .co, .cn, .zl, .zp] ∪ graphemeExtend)

end RecordFilter.Unicode
