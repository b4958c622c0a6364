import RecordFilter.Double.Arithmetic
import RecordFilter.Json.Basic
import RecordFilter.Numeral

namespace RecordFilter.Json

/-- Appends digits to a number while it fits 64 bits, and gives the digits left over. -/
def takeDigits (n : Nat) : List Char → Nat × List Char
  | [] => (n, [])
  | c :: cs =>
    let next := 10 * n + Numeral.digitValue c
    if next < UInt64.size then takeDigits next cs else (n, c :: cs)

def powerOfTen (n : Nat) : Double := Double.ofInt (Nat.pow 10 n : Nat)

/-- Divides by `10 ^ n`, in steps that a float can take. -/
def scaleDown (x : Double) (n : Nat) : Double :=
  if n ≤ 308 then x / powerOfTen n
  else if x.equals (.zero false) then x
  else scaleDown (x / powerOfTen 308) (n - 308)
termination_by n
decreasing_by omega

/-- Scales by a power of ten. What is more than one step too large is too large altogether. -/
def scale (x : Double) : Int → Double
  | .ofNat e =>
    if e ≤ 308 then x * powerOfTen e
    else if x.equals (.zero false) then x
    else .infinite false
  | .negSucc e => scaleDown x (e + 1)

/-- A float from its parts, if it is finite: from at most 64 bits of digits, so it can be a
neighbour of the nearest float. Digits of the whole part that are left over raise the exponent, and
those of the fraction are dropped. -/
def float? (negative : Bool) (whole fraction : List Char) (exponent : Int) : Option Json :=
  let (n, left) := takeDigits 0 whole
  let (n, dropped) := takeDigits n fraction
  let taken : Nat := fraction.length - dropped.length
  let x := scale (Double.ofInt n) (exponent + left.length - taken)
  ofDouble? (if negative then x.negate else x)

/-- An integer; one that no 64 bits hold is a float, and so is a negative zero. -/
def integer? (negative : Bool) (digits : List Char) : Option Json :=
  let n := Numeral.value digits
  if negative then
    if 0 < n ∧ n ≤ 0x8000000000000000 then some (.integer (Int64.ofInt (-n)))
    else float? true digits [] 0
  else if n < 0x8000000000000000 then some (.integer (Int64.ofInt n))
  else if h : 0x8000000000000000 ≤ (UInt64.ofNat n).toNat ∧ n < UInt64.size then
    some (.large (UInt64.ofNat n) h.1)
  else float? false digits [] 0

def exponent? (cs : List Char) : Option (Int × List Char) :=
  let (sign, body) : Int × List Char := match cs with
    | '+' :: r => (1, r)
    | '-' :: r => (-1, r)
    | r => (1, r)
  let digits := body.takeWhile Numeral.isDigit
  if digits = [] then none else some (sign * Numeral.value digits, body.dropWhile Numeral.isDigit)

/-- Reads a number: no leading zeros, and digits on both sides of a point. -/
def number? (cs : List Char) : Option (Json × List Char) := do
  let (negative, body) := match cs with
    | '-' :: r => (true, r)
    | r => (false, r)
  let whole := body.takeWhile Numeral.isDigit
  let rest := body.dropWhile Numeral.isDigit
  match whole with
  | [] => none
  | ['0'] => pure ()
  | '0' :: _ => none
  | _ => pure ()
  let (fraction, rest) ← match rest with
    | '.' :: r =>
      let digits := r.takeWhile Numeral.isDigit
      if digits = [] then none else some (some digits, r.dropWhile Numeral.isDigit)
    | r => some (none, r)
  let (exponent, rest) ← match rest with
    | 'e' :: r | 'E' :: r => (exponent? r).map fun (e, r) => (some e, r)
    | r => some (none, r)
  match fraction, exponent with
  | none, none => return (← integer? negative whole, rest)
  | _, _ =>
    return (← float? negative whole (fraction.getD []) (exponent.getD 0), rest)

end RecordFilter.Json
