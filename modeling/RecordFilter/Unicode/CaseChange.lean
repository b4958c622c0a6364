import RecordFilter.Unicode.Break.Word
import RecordFilter.Unicode.CaseFold

namespace RecordFilter.Unicode

def foldSources : CharSet := .ofCodes (foldPairs.map (·.1))

def foldImages : CharSet := .ofCodes (foldPairs.map (·.2))

/-- Lowercase characters whose uppercase is a longer text. -/
def expanding : CharSet := .ofRuns [
  (0x149, 0x149), (0x1F0, 0x1F0), (0x587, 0x587), (0x1E96, 0x1E9A), (0x1F50, 0x1F50),
  (0x1F52, 0x1F52), (0x1F54, 0x1F54), (0x1F56, 0x1F56), (0x1FB2, 0x1FB2), (0x1FB4, 0x1FB4),
  (0x1FB6, 0x1FB7), (0x1FC2, 0x1FC2), (0x1FC4, 0x1FC4), (0x1FC6, 0x1FC7), (0x1FD2, 0x1FD2),
  (0x1FD6, 0x1FD7), (0x1FE2, 0x1FE2), (0x1FE4, 0x1FE4), (0x1FE6, 0x1FE7), (0x1FF2, 0x1FF2),
  (0x1FF4, 0x1FF4), (0x1FF6, 0x1FF7), (0xFB00, 0xFB04), (0xFB13, 0xFB17)]

def changesWhenCasemapped : CharSet :=
  foldSources ∪ foldImages ∪ expanding ∪ .ofRuns [(0x130, 0x131)]

def changesWhenLowercased : CharSet :=
  changesWhenCasemapped ∩ (uppercase ∪ Category.set [.lt])

def changesWhenUppercased : CharSet :=
  changesWhenCasemapped ∩ (lowercase ∪ Category.set [.lt])

/-- Letters of Georgian have no titlecase, digraphs of two capitals have one. -/
def changesWhenTitlecased : CharSet :=
  (changesWhenCasemapped ∩ lowercase) \ .ofRuns [(0x10D0, 0x10FF)] ∪ .ofCodes [
    0x1C4, 0x1C7, 0x1CA, 0x1F1]

/-- Characters that fold to a longer text, or to one character only when that is done. -/
def fullyFolded : CharSet := .ofRuns [
  (0xDF, 0xDF), (0x130, 0x130), (0x149, 0x149), (0x587, 0x587), (0x1E9A, 0x1E9A), (0x1F80, 0x1F87),
  (0x1F90, 0x1F97), (0x1FA0, 0x1FA7), (0x1FB2, 0x1FB4), (0x1FB7, 0x1FB7), (0x1FC2, 0x1FC4),
  (0x1FC7, 0x1FC7), (0x1FF2, 0x1FF4), (0x1FF7, 0x1FF7), (0xFB00, 0xFB04), (0xFB06, 0xFB06),
  (0xFB13, 0xFB17)]

def changesWhenCasefolded : CharSet :=
  foldSources \ .ofCodes [0x1FBE, 0x1FD3, 0x1FE3] ∪ fullyFolded

/-- Characters that are passed over when the letters around a letter decide its case. -/
def caseIgnorable : CharSet :=
  Category.set [.mn, .me, .cf, .lm, .sk] ∪ WordBreak.midLetter ∪ WordBreak.midNumLet ∪
    .ofCodes [0x27]

end RecordFilter.Unicode
