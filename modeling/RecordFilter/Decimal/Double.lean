import RecordFilter.Decimal.Basic
import RecordFilter.Double.Arithmetic

namespace RecordFilter.Decimal

/-- `m / 2 ^ k` as digits and scale, where half of the work is done: `scale` places are due. Two is
taken out of even digits, which saves a place; odd digits are multiplied by five, and are halved
only when there is no room for that. -/
def divideHalves : Nat → Nat → Nat → Nat × Nat
  | 0, m, scale => (m, scale)
  | k + 1, m, scale =>
    if m % 2 = 1 ∧ 5 * m < digitBound then divideHalves k (5 * m) scale
    else divideHalves k (m / 2) (scale - 1)

/-- Gives up places beyond the 28th, and then those that make the digits longer than 52 bits. -/
def shorten : Nat → Nat → Nat × Nat
  | m, 0 => (m, 0)
  | m, scale + 1 =>
    if 28 ≤ scale ∨ 52 < Double.bitLength m then
      if m < 10 then (0, 0) else shorten (Rounding.halfUp m 10) scale
    else (m, scale + 1)

def stripZeros : Nat → Nat → Nat × Nat
  | m, 0 => (m, 0)
  | m, scale + 1 => if m % 10 = 0 then stripZeros (m / 10) scale else (m, scale + 1)

/-- A decimal near a finite number: whole ones are taken as they are, and others to about 16
digits. -/
def ofDouble? : Double → Option Decimal
  | .finite negative r =>
    let binade := r.val / Double.binade
    let m := if binade = 0 then r.val else Double.binade + r.val % Double.binade
    if 1075 ≤ binade then make? (Double.signed negative (m * Nat.pow 2 (binade - 1075))) 0
    else
      let k := 1075 - max binade 1
      let (m, scale) := divideHalves k m k
      let (m, scale) := shorten m scale
      let (m, scale) := stripZeros m scale
      make? (Double.signed negative m) scale
  | _ => none

/-- The whole part and the fraction are taken apart, added up, and rounded to the places of the
decimal. -/
def toDouble (d : Decimal) : Double :=
  let negative : Bool := d.digits < 0
  let n := d.digits.natAbs
  let power := Nat.pow 10 d.scale
  let whole := Double.ofInt (n / power : Nat)
  let size :=
    if n % power = 0 then whole
    else
      let fraction := Double.ofInt (n % power : Nat) / Double.ofInt (power : Nat)
      ((whole + fraction) * Double.ofInt (power : Nat)).roundToWhole / Double.ofInt (power : Nat)
  if negative then size.negate else size

def ofDoubleExactly? (x : Double) : Option Decimal :=
  (ofDouble? x).filter fun d => d.toDouble.equals x

end RecordFilter.Decimal
