import RecordFilter.CharSet.Basic

namespace RecordFilter.Encoding

def bytes (n : Nat) : List Nat := (String.utf8EncodeChar (Char.ofNat n)).map UInt8.toNat

def cutAt (n : Nat) (r : Nat × Nat) : List (Nat × Nat) :=
  if r.1 < n ∧ n ≤ r.2 then [(r.1, n - 1), (n, r.2)] else [r]

/-- Cuts a run that leaves its first block after that block, unless the block is whole. -/
def cutStart (block : Nat) (r : Nat × Nat) : List (Nat × Nat) :=
  if r.1 % block = 0 then [r] else cutAt ((r.1 / block + 1) * block) r

/-- Cuts a run before its last block, unless that block is whole. -/
def cutStop (block : Nat) (r : Nat × Nat) : List (Nat × Nat) :=
  if r.2 % block = block - 1 then [r] else cutAt (r.2 / block * block) r

/-- Texts of one byte have no blocks. -/
def cutBlocks (block : Nat) (r : Nat × Nat) : List (Nat × Nat) :=
  if r.2 < 0x80 then [r] else (cutStart block r).flatMap (cutStop block)

/-- The parts of a run in which the bytes vary independently. -/
def parts (r : Nat × Nat) : List (Nat × Nat) :=
  cutAt 0x80 r |>.flatMap (cutAt 0x800) |>.flatMap (cutAt 0x10000) |>.flatMap (cutBlocks 64)
    |>.flatMap (cutBlocks (64 * 64)) |>.flatMap (cutBlocks (64 * 64 * 64))

/-- The UTF-8 texts of the characters, as sequences of byte ranges: each stands for all choices of
one byte from every range. -/
def sequences (s : CharSet) : List (List (Nat × Nat)) :=
  (s.runs.flatMap parts).map fun r => (bytes r.1).zip (bytes r.2)

end RecordFilter.Encoding
