import RecordFilter.CharSet.Basic

namespace RecordFilter.Unicode

/-- The 25 characters with the property White_Space. -/
def isBlank (c : Char) : Bool :=
  let n := c.toNat
  (0x9 ≤ n && n ≤ 0xD) || n = 0x20 || n = 0x85 || n = 0xA0 || n = 0x1680 ||
    (0x2000 ≤ n && n ≤ 0x200A) || n = 0x2028 || n = 0x2029 || n = 0x202F || n = 0x205F || n = 0x3000

def whiteSpace : CharSet := .ofRuns [
  (0x9, 0xD), (0x20, 0x20), (0x85, 0x85), (0xA0, 0xA0), (0x1680, 0x1680), (0x2000, 0x200A),
  (0x2028, 0x2029), (0x202F, 0x202F), (0x205F, 0x205F), (0x3000, 0x3000)]

theorem contains_whiteSpace (c : Char) : whiteSpace.contains c = isBlank c := by
  rw [Bool.eq_iff_iff, whiteSpace, CharSet.contains_ofRuns]
  simp [isBlank]
  omega

end RecordFilter.Unicode
