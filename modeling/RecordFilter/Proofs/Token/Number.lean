import RecordFilter.Proofs.Numeral
import RecordFilter.Token.Lexer

namespace RecordFilter

/-- The end of the text, or a character that belongs to no name and no number. -/
def Boundary (rest : List Char) : Prop :=
  ∀ c, rest.head? = some c → c = ' ' ∨ c = ')' ∨ c = ','

namespace Boundary

theorem nil : Boundary [] := by simp [Boundary]

theorem cons {c : Char} (rest : List Char) (h : c = ' ' ∨ c = ')' ∨ c = ',') :
    Boundary (c :: rest) := by
  simpa [Boundary] using h

theorem rejects {rest : List Char} (h : Boundary rest) {p : Char → Bool} (blank : p ' ' = false)
    (closing : p ')' = false) (comma : p ',' = false) (c : Char) (head : rest.head? = some c) :
    p c = false := by
  rcases h c head with rfl | rfl | rfl
  · exact blank
  · exact closing
  · exact comma

end Boundary

theorem takeWhile_append_stop {p : Char → Bool} {run rest : List Char}
    (inside : ∀ c ∈ run, p c = true) (stop : ∀ c, rest.head? = some c → p c = false) :
    (run ++ rest).takeWhile p = run := by
  rw [List.takeWhile_append_of_pos inside]
  cases rest with
  | nil => simp
  | cons c r => simp [stop c rfl]

theorem dropWhile_append_stop {p : Char → Bool} {run rest : List Char}
    (inside : ∀ c ∈ run, p c = true) (stop : ∀ c, rest.head? = some c → p c = false) :
    (run ++ rest).dropWhile p = rest := by
  rw [List.dropWhile_append_of_pos inside]
  cases rest with
  | nil => simp
  | cons c r => simp [stop c rfl]

namespace Numeral

/-- One digit or more. -/
def IsRun (digits : List Char) : Prop := digits ≠ [] ∧ ∀ c ∈ digits, isDigit c = true

theorem isRun_ofNat (n : Nat) : IsRun (ofNat n) := ⟨ofNat_ne_nil n, all_ofNat n⟩

theorem isRun_zero : IsRun ['0'] := by
  refine ⟨by simp, fun c hc => ?_⟩
  obtain rfl := List.mem_singleton.mp hc
  rfl

theorem isRun_append {a b : List Char} (ha : IsRun a) (hb : ∀ c ∈ b, isDigit c = true) :
    IsRun (a ++ b) := by
  refine ⟨by simp [ha.1], fun c hc => ?_⟩
  rcases List.mem_append.mp hc with hc | hc
  · exact ha.2 c hc
  · exact hb c hc

theorem isDigit_of_mem_zeros {n : Nat} {c : Char} (h : c ∈ List.replicate n '0') :
    isDigit c = true := by
  obtain rfl := List.eq_of_mem_replicate h
  rfl

theorem IsRun.cons {digits : List Char} (h : IsRun digits) : ∃ d ds, digits = d :: ds := by
  cases digits with
  | nil => exact absurd rfl h.1
  | cons d ds => exact ⟨d, ds, rfl⟩

end Numeral

open Numeral (IsRun isDigit)

/-- The parts of the text of a number without its sign. -/
structure Figures where
  whole : List Char
  fraction : Option (List Char)
  /-- Whether the exponent has a minus, and its digits. -/
  exponent : Option (Bool × List Char)
  isRun_whole : IsRun whole
  isRun_fraction : ∀ f ∈ fraction, IsRun f
  isRun_exponent : ∀ e ∈ exponent, IsRun e.2

namespace Figures

def sign (negative : Bool) : List Char := if negative then ['-'] else []

def mark (negative : Bool) : List Char := 'e' :: sign negative

def fractionChars (f : Figures) : List Char := (f.fraction.map ('.' :: ·)).getD []

def exponentChars (f : Figures) : List Char :=
  (f.exponent.map fun e => mark e.1 ++ e.2).getD []

def chars (f : Figures) (negative : Bool) : List Char :=
  sign negative ++ f.whole ++ f.fractionChars ++ f.exponentChars

/-- The number that figures with a fraction or an exponent stand for. -/
def amount (f : Figures) (negative : Bool) : Double :=
  let (minus, digits) := f.exponent.getD (false, [])
  let fraction := f.fraction.getD []
  Double.ofDecimal negative (Numeral.value (f.whole ++ fraction))
    (Double.signed minus (Numeral.value digits) - fraction.length)

end Figures

namespace Scan

theorem fraction_point {digits rest : List Char} (digit : ∀ c ∈ digits, isDigit c = true)
    (stop : ∀ c, rest.head? = some c → isDigit c = false) :
    fraction ('.' :: (digits ++ rest)) = (some digits, rest) := by
  rw [fraction, takeWhile_append_stop digit stop, dropWhile_append_stop digit stop]

theorem fraction_none {rest : List Char} (stop : rest.head? ≠ some '.') :
    fraction rest = (none, rest) := by
  unfold fraction
  split
  · exact absurd rfl stop
  · rfl

theorem exponent_mark {minus : Bool} {digits rest : List Char} (run : IsRun digits)
    (stop : ∀ c, rest.head? = some c → isDigit c = false) :
    exponent (Figures.mark minus ++ digits ++ rest) =
      (some (Figures.mark minus, digits), rest) := by
  have taken := takeWhile_append_stop run.2 stop
  have left := dropWhile_append_stop run.2 stop
  cases minus with
  | true => simp [Figures.mark, Figures.sign, exponent, taken, left]
  | false =>
    obtain ⟨d, ds, rfl⟩ := run.cons
    have digit : isDigit d = true := run.2 d (by simp)
    have unsigned : ¬(d = '+' ∨ d = '-') := by
      rintro (rfl | rfl) <;> simp [isDigit] at digit
    rw [List.cons_append] at taken left
    simp only [Figures.mark, Figures.sign, exponent, List.cons_append, List.nil_append,
      Bool.false_eq_true, if_false, unsigned, digit, taken, left, true_or, if_true]

theorem exponent_none {rest : List Char}
    (stop : ∀ c, rest.head? = some c → c ≠ 'e' ∧ c ≠ 'E') :
    exponent rest = (none, rest) := by
  cases rest with
  | nil => rfl
  | cons c r =>
    have other : ¬(c = 'e' ∨ c = 'E') := not_or.mpr (stop c rfl)
    exact if_neg other

end Scan

namespace Figures

variable (f : Figures) {rest : List Char}

theorem stop_exponent (boundary : Boundary rest) (c : Char)
    (head : (f.exponentChars ++ rest).head? = some c) : c ≠ '.' ∧ isDigit c = false := by
  cases expo : f.exponent with
  | none =>
    rw [exponentChars, expo] at head
    rcases boundary c head with rfl | rfl | rfl <;> exact ⟨by decide, by decide⟩
  | some e =>
    have marked : c = 'e' := by simpa [exponentChars, expo, mark, eq_comm] using head
    rw [marked]
    exact ⟨by decide, by decide⟩

theorem exponent_eq (boundary : Boundary rest) :
    Scan.exponent (f.exponentChars ++ rest) =
      (f.exponent.map fun e => (mark e.1, e.2), rest) := by
  cases expo : f.exponent with
  | none =>
    rw [exponentChars, expo]
    refine Scan.exponent_none fun c head => ?_
    rcases boundary c head with rfl | rfl | rfl <;> exact ⟨by decide, by decide⟩
  | some e =>
    rw [exponentChars, expo]
    exact Scan.exponent_mark (f.isRun_exponent e expo) (boundary.rejects rfl rfl rfl)

theorem fraction_eq (boundary : Boundary rest) :
    Scan.fraction (f.fractionChars ++ (f.exponentChars ++ rest)) =
      (f.fraction, f.exponentChars ++ rest) := by
  cases frac : f.fraction with
  | none =>
    rw [fractionChars, frac]
    exact Scan.fraction_none fun head => (f.stop_exponent boundary _ head).1 rfl
  | some digits =>
    rw [fractionChars, frac]
    exact Scan.fraction_point (f.isRun_fraction digits frac).2
      fun c head => (f.stop_exponent boundary c head).2

theorem stop_whole (boundary : Boundary rest) (c : Char)
    (head : (f.fractionChars ++ (f.exponentChars ++ rest)).head? = some c) :
    isDigit c = false := by
  cases frac : f.fraction with
  | none =>
    rw [fractionChars, frac] at head
    exact (f.stop_exponent boundary c head).2
  | some digits =>
    have point : c = '.' := by simpa [fractionChars, frac, eq_comm] using head
    rw [point]
    rfl

theorem head_chars (negative : Bool) (rest : List Char) :
    (f.chars negative ++ rest).head? = some '-' ↔ negative = true := by
  cases negative with
  | true => simp [chars, sign]
  | false =>
    obtain ⟨d, ds, whole⟩ := f.isRun_whole.cons
    have digit : isDigit d = true := f.isRun_whole.2 d (by simp [whole])
    have unsigned : d ≠ '-' := by
      rintro rfl
      simp [isDigit] at digit
    simp [chars, sign, whole, unsigned]

end Figures

namespace Scan

/-- A number is read from its figures, with all of them as its text. -/
theorem number_figures (f : Figures) (negative : Bool) (start : Nat) {rest : List Char}
    (boundary : Boundary rest) :
    number start (f.chars negative ++ rest) =
      if f.fraction.isSome ∨ f.exponent.isSome then
        double start negative f.whole (f.fraction.getD [])
          ((f.exponent.map fun e => Figures.mark e.1).getD []) ((f.exponent.map (·.2)).getD [])
          (f.chars negative)
      else integer start negative f.whole (f.chars negative) := by
  have noName : rest.head?.any isNameStart = false := by
    cases rest with
    | nil => rfl
    | cons c r => exact boundary.rejects (p := isNameStart) rfl rfl rfl c rfl
  have body : (f.chars negative ++ rest).drop (Figures.sign negative).length =
      f.whole ++ (f.fractionChars ++ (f.exponentChars ++ rest)) := by
    simp [Figures.chars]
  have taken := takeWhile_append_stop f.isRun_whole.2 (f.stop_whole boundary)
  have left := dropWhile_append_stop f.isRun_whole.2 (f.stop_whole boundary)
  have filled : f.fraction ≠ some [] := fun empty => (f.isRun_fraction [] empty).1 rfl
  have signs : (if negative = true then ['-'] else []) = Figures.sign negative := rfl
  simp only [number, f.head_chars negative rest, Bool.decide_eq_true, signs,
    body, taken, left, f.fraction_eq boundary, f.exponent_eq boundary, filled, if_false, noName,
    Bool.false_eq_true]
  cases expo : f.exponent with
  | none =>
    simp [Figures.chars, Figures.fractionChars, Figures.exponentChars, expo]
  | some e =>
    have digits := (f.isRun_exponent e expo).1
    simp [Figures.chars, Figures.fractionChars, Figures.exponentChars, expo, digits]

theorem number_double (f : Figures) (negative : Bool) (start : Nat) {rest : List Char}
    (boundary : Boundary rest) (marked : f.fraction.isSome ∨ f.exponent.isSome)
    (finite : (f.amount negative).isFinite = true) :
    number start (f.chars negative ++ rest) =
      .token (.number (.double (f.amount negative))) ((f.chars negative).length - 1) := by
  have amount : Double.ofDecimal negative (Numeral.value (f.whole ++ f.fraction.getD []))
      (Double.signed (((f.exponent.map fun e => Figures.mark e.1).getD []).contains '-')
        (Numeral.value ((f.exponent.map (·.2)).getD [])) - (f.fraction.getD []).length) =
      f.amount negative := by
    unfold Figures.amount
    cases f.exponent with
    | none => rfl
    | some e =>
      obtain ⟨minus, digits⟩ := e
      cases minus <;> rfl
  rw [number_figures f negative start boundary, if_pos marked, double]
  simp only [amount, finite, if_true]

end Scan

def Figures.ofNat (n : Nat) : Figures where
  whole := Numeral.ofNat n
  fraction := none
  exponent := none
  isRun_whole := Numeral.isRun_ofNat n
  isRun_fraction := nofun
  isRun_exponent := nofun

def Figures.ofRun {digits : List Char} (run : IsRun digits) : Figures where
  whole := digits
  fraction := none
  exponent := none
  isRun_whole := run
  isRun_fraction := nofun
  isRun_exponent := nofun

theorem Numeral.ofInt_eq (n : Int) :
    Numeral.ofInt n = (Figures.ofNat n.natAbs).chars (decide (n < 0)) := by
  unfold Numeral.ofInt Figures.chars Figures.sign
  by_cases negative : n < 0 <;>
    simp [negative, Figures.ofNat, Figures.fractionChars, Figures.exponentChars]

theorem Double.signed_natAbs (n : Int) : signed (decide (n < 0)) n.natAbs = n := by
  unfold signed
  split
  · next negative =>
    have := of_decide_eq_true negative
    omega
  · next negative =>
    have := of_decide_eq_false (Bool.not_eq_true _ ▸ negative)
    omega

theorem Number.toInt64_toInt32 {n : Int64} (low : -0x80000000 ≤ n.toInt)
    (high : n.toInt < 0x80000000) : n.toInt32.toInt64 = n := by
  apply Int64.toInt.inj
  rw [Int32.toInt_toInt64, Int64.toInt_toInt32]
  exact Int.bmod_eq_of_le low high

theorem Scan.number_ofInt (n : Int) (start : Nat) {rest : List Char} (boundary : Boundary rest)
    (low : -0x8000000000000000 ≤ n) (high : n < 0x8000000000000000) :
    number start (Numeral.ofInt n ++ rest) =
      .token (.number (.ofInt64 (Int64.ofInt n))) ((Numeral.ofInt n).length - 1) := by
  have value :
      Double.signed (decide (n < 0)) (Numeral.value (Figures.ofNat n.natAbs).whole) = n := by
    have digits : Numeral.value (Figures.ofNat n.natAbs).whole = n.natAbs :=
      Numeral.value_ofNat n.natAbs
    rw [digits, Double.signed_natAbs]
  have plain : ¬((Figures.ofNat n.natAbs).fraction.isSome ∨
      (Figures.ofNat n.natAbs).exponent.isSome) := by
    simp [Figures.ofNat]
  rw [Numeral.ofInt_eq, number_figures _ _ start boundary, if_neg plain, integer, value]
  exact if_pos ⟨low, high⟩

end RecordFilter
