import RecordFilter.Double.Decimal

namespace RecordFilter.Double

/-- Which neighbour is taken when a number lies halfway between two that both read back. -/
inductive Tie where
  | up
  | even
  deriving DecidableEq

structure Layout where
  tie : Tie
  /-- The least power of ten of a leading digit that is written without an exponent. -/
  leastPlain : Int
  /-- From this power of ten on, an exponent is written. -/
  pastPlain : Int
  plus : Bool

/-- The neighbours of `num / den` among the whole numbers, the nearer first. -/
def neighbours (tie : Tie) (num den : Nat) : List Nat :=
  let q := num / den
  let r := num % den
  let upFirst : Bool := match tie with
    | .up => den ≤ 2 * r
    | .even => den < 2 * r || (den = 2 * r && q % 2 = 1)
  if r = 0 then [q] else if upFirst then [q + 1, q] else [q, q + 1]

def overPower (units : Nat) : Int → Nat × Nat
  | .ofNat e => (units, unitsPerOne * Nat.pow 10 e)
  | .negSucc e => (units * Nat.pow 10 (e + 1), unitsPerOne)

/-- The coarsest grid with a point that reads back, from `10 ^ (n - 1074)` downwards: if any point
does, one of the two neighbours does. The finest grid is exact, since a unit is `5 ^ 1074 * 10 ^
-1074`. -/
def shortestFrom (tie : Tie) (rank : Fin rankCount) : Nat → Nat × Int
  | 0 => (magnitude rank * Nat.pow 5 1074, -1074)
  | n + 1 =>
    let e : Int := (n + 1 : Nat) - 1074
    let (num, den) := overPower (magnitude rank) e
    match (neighbours tie num den).find? (fun d => ofDecimal false d e = finite false rank) with
    | some d => (d, e)
    | none => shortestFrom tie rank n

/-- The digits and the power of ten of the shortest decimal that reads back. The first grid is
coarser than the number: 30103 / 100000 is a little over the logarithm of two. -/
def shortest (tie : Tie) (rank : Fin rankCount) : Nat × Int :=
  let bits : Int := bitLength (magnitude rank) - 1074
  shortestFrom tie rank (bits * 30103 / 100000 + 2 + 1074).toNat

/-- Writes `digits * 10 ^ exponent`. Plain text keeps at least one digit after the point, an
exponent follows a leading digit and a fraction only if there are more digits. -/
def Layout.decimal (layout : Layout) (digits : List Char) (exponent : Int) : List Char :=
  let power : Int := exponent + digits.length - 1
  if layout.leastPlain ≤ power ∧ power < layout.pastPlain then
    if 0 ≤ exponent then digits ++ List.replicate exponent.toNat '0' ++ ['.', '0']
    else if 0 ≤ power then
      digits.take (power.toNat + 1) ++ '.' :: digits.drop (power.toNat + 1)
    else '0' :: '.' :: List.replicate (-power - 1).toNat '0' ++ digits
  else
    let mantissa := match digits with
      | d :: e :: r => d :: '.' :: e :: r
      | ds => ds
    let sign := if 0 ≤ power ∧ layout.plus then ['+'] else []
    mantissa ++ 'e' :: sign ++ Numeral.ofInt power

def Layout.magnitude (layout : Layout) (rank : Fin rankCount) : List Char :=
  if rank.val = 0 then ['0', '.', '0']
  else
    let (digits, exponent) := shortest layout.tie rank
    layout.decimal (Numeral.ofNat digits) exponent

def filterLayout : Layout where
  tie := .up
  leastPlain := -4
  pastPlain := 16
  plus := false

def chars : Double → List Char
  | nan _ => ['N', 'a', 'N']
  | infinite s => (if s then ['-'] else []) ++ ['i', 'n', 'f']
  | finite s r => (if s then ['-'] else []) ++ filterLayout.magnitude r

def text (x : Double) : String := String.ofList x.chars

end RecordFilter.Double
