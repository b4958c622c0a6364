import RecordFilter.Double.Basic
import RecordFilter.Numeral

namespace RecordFilter.Double

/-- The number nearest to `digits * 10 ^ exponent`. Decimals far outside the range of finite
numbers are settled without working out their power of ten. -/
def ofDecimal (negative : Bool) (digits : Nat) (exponent : Int) : Double :=
  if digits = 0 ∨ exponent + bitLength digits < -330 then zero negative
  else if 310 ≤ exponent then infinite negative
  else match exponent with
    | .ofNat e => ofRatio negative (digits * Nat.pow 10 e) 1
    | .negSucc e => ofRatio negative digits (Nat.pow 10 (e + 1))

/-- An unsigned decimal: digits with an optional point, of which at least one digit, then perhaps
an exponent, and nothing more. -/
def ofUnsignedText? (negative : Bool) (text : List Char) : Option Double :=
  let whole := text.takeWhile Numeral.isDigit
  let (fraction, rest) := match text.dropWhile Numeral.isDigit with
    | '.' :: r => (r.takeWhile Numeral.isDigit, r.dropWhile Numeral.isDigit)
    | r => ([], r)
  let digits := Numeral.value (whole ++ fraction)
  let number (e : Int) := ofDecimal negative digits (e - fraction.length)
  let exponent (sign : Int) (r : List Char) :=
    if r ≠ [] ∧ r.all Numeral.isDigit then some (number (sign * Numeral.value r)) else none
  if whole ++ fraction = [] then none
  else match rest with
    | [] => some (number 0)
    | e :: r =>
      if e = 'e' ∨ e = 'E' then
        match r with
        | '+' :: r => exponent 1 r
        | '-' :: r => exponent (-1) r
        | r => exponent 1 r
      else none

/-- Reads a signed decimal, or an infinity or NaN by name in any case. -/
def ofText? (text : String) : Option Double :=
  let (negative, rest) := match text.toList with
    | '-' :: r => (true, r)
    | '+' :: r => (false, r)
    | r => (false, r)
  match String.ofList (rest.map Char.toLower) with
  | "inf" | "infinity" => some (infinite negative)
  | "nan" => some (nan negative)
  | _ => ofUnsignedText? negative rest

end RecordFilter.Double
