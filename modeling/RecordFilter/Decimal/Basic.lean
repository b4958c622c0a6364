import RecordFilter.Rounding

namespace RecordFilter

/-- Digits stay below this number, 2 ^ 96. -/
abbrev Decimal.digitBound : Nat := 0x1000000000000000000000000

structure Decimal where
  digits : Int
  scale : Nat
  digits_lt : digits.natAbs < Decimal.digitBound
  scale_le : scale ≤ 28

namespace Decimal

def make? (digits : Int) (scale : Nat) : Option Decimal :=
  if h : digits.natAbs < digitBound ∧ scale ≤ 28 then some ⟨digits, scale, h.1, h.2⟩ else none

def zero : Decimal := ⟨0, 0, by decide, by decide⟩

def ofInt64 (n : Int64) : Decimal :=
  ⟨n.toInt, 0, by have := n.le_toInt; have := n.toInt_lt; unfold digitBound; omega, by omega⟩

/-- The digits at a smaller scale; a half goes to the even neighbour. -/
def rescale (digits : Int) (places : Nat) : Int :=
  let n := Rounding.halfEven digits.natAbs (Nat.pow 10 places)
  if digits < 0 then -n else n

/-- The digits at the largest scale that has room for them; `places` of them are given up so far. -/
def fit (digits : Int) (places : Nat) : Nat → Option Decimal
  | 0 => make? (rescale digits places) 0
  | scale + 1 => (make? (rescale digits places) (scale + 1)).or (fit digits (places + 1) scale)

/-- A sum has the larger of the two scales if there is room. There is none when the whole part
alone is too long. -/
def add? (a b : Decimal) : Option Decimal :=
  if a.digits = 0 then some b
  else if b.digits = 0 then some a
  else
    let scale := max a.scale b.scale
    let digits (d : Decimal) : Int := d.digits * (Nat.pow 10 (scale - d.scale) : Nat)
    fit (digits a + digits b) 0 scale

def toInt? (d : Decimal) : Option Int :=
  let power : Int := (Nat.pow 10 d.scale : Nat)
  if d.digits % power = 0 then some (d.digits / power) else none

end Decimal
end RecordFilter
