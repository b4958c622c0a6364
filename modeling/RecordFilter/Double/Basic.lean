import RecordFilter.Rounding

namespace RecordFilter

/-- How many ranks there are from one power of two up to the next, 2 ^ 52. -/
abbrev Double.binade : Nat := 0x10000000000000

/-- How many magnitudes are finite; infinity has this rank. -/
abbrev Double.rankCount : Nat := 2047 * Double.binade

/-- A finite number is its sign and the rank of its magnitude among the finite magnitudes. Two
numbers are the same value when their bits agree, so the zeros differ and a NaN is itself. -/
inductive Double where
  | nan (negative : Bool)
  | infinite (negative : Bool)
  | finite (negative : Bool) (rank : Fin Double.rankCount)
  deriving DecidableEq

namespace Double

def zero (negative : Bool) : Double := .finite negative ⟨0, by decide⟩

instance : Inhabited Double := ⟨zero false⟩

def isFinite : Double → Bool
  | finite .. => true
  | _ => false

def negate : Double → Double
  | nan s => nan !s
  | infinite s => infinite !s
  | finite s r => finite (!s) r

/-- How many units make one; a unit is the least positive magnitude, 2 ^ -1074. -/
abbrev unitsPerOne : Nat := Nat.pow 2 1074

/-- The magnitude of a rank in units. In the first binade each rank is one unit, and so it is in the
second; from there on the step doubles with every binade. -/
def magnitude (rank : Nat) : Nat :=
  if rank < binade then rank else (binade + rank % binade) * Nat.pow 2 (rank / binade - 1)

def bitLength (n : Nat) : Nat := if n = 0 then 0 else n.log2 + 1

/-- The rank nearest to `num / den` units. Bits past the 53rd are rounded off, a half to the even
neighbour; a carry moves on to the next rank by itself. -/
def nearestRank (num den : Nat) : Nat :=
  let excess := bitLength (num / den) - 53
  excess * binade + Rounding.halfEven num (den * Nat.pow 2 excess)

def ofRank (negative : Bool) (rank : Nat) : Double :=
  if h : rank < rankCount then .finite negative ⟨rank, h⟩ else .infinite negative

def ofUnits (negative : Bool) (num den : Nat) : Double :=
  ofRank negative (nearestRank num den)

/-- The number nearest to `num / den`. -/
def ofRatio (negative : Bool) (num den : Nat) : Double :=
  ofUnits negative (num * unitsPerOne) den

def ofInt (n : Int) : Double := ofRatio (n < 0) n.natAbs 1

def signed (negative : Bool) (n : Nat) : Int := if negative then -n else n

/-- The place of a number in the order: both zeros have one place, a NaN none. -/
def position : Double → Option Int
  | nan _ => none
  | infinite s => some (signed s rankCount)
  | finite s r => some (signed s r)

def compare (x y : Double) : Option Ordering :=
  match x.position, y.position with
  | some a, some b => some (Ord.compare a b)
  | _, _ => none

/-- Equality of numbers: the zeros are equal and a NaN equals nothing. -/
def equals (x y : Double) : Bool := x.compare y == some .eq

end Double
end RecordFilter
