import RecordFilter.Proofs.Token.Sequence

namespace RecordFilter

open Numeral (IsRun)

namespace Numeral

/-- The integer that digits with a sign denote; each digit counts by the place it stands at. -/
def denoted (negative : Bool) (digits : List Char) : Int :=
  let magnitude : Nat := Nat.ofDigits 10 (digits.reverse.map digitValue)
  if negative then -magnitude else magnitude

theorem value_eq_ofDigits (digits : List Char) :
    value digits = Nat.ofDigits 10 (digits.reverse.map digitValue) := by
  induction digits using List.reverseRecOn with
  | nil => rfl
  | append_singleton ds d ih =>
    rw [value_concat, ih, List.reverse_concat, List.map_cons, Nat.ofDigits_cons, Nat.add_comm]

theorem signed_value (negative : Bool) (digits : List Char) :
    Double.signed negative (value digits) = denoted negative digits := by
  rw [value_eq_ofDigits]
  rfl

theorem denoted_ofNat (n : Int) : denoted (decide (n < 0)) (ofNat n.natAbs) = n := by
  rw [← signed_value, value_ofNat, Double.signed_natAbs]

theorem digitChar_eq (n : Nat) : (n % 10).digitChar = digitChar n := by
  have below : ∀ d < 10, Nat.digitChar d = Char.ofNat ('0'.toNat + d) := by decide
  rw [digitChar, below _ (Nat.mod_lt n (by decide))]

theorem ofNat_eq_toDigits (n : Nat) : ofNat n = Nat.toDigits 10 n := by
  induction n using Nat.strongRecOn with
  | ind n ih =>
    rw [ofNat, Nat.toDigits_eq_if (by decide), ← digitChar_eq]
    split
    · next small => rw [Nat.mod_eq_of_lt small]
    · next large => rw [ih (n / 10) (by omega)]

theorem toString_eq (n : Int) :
    toString n = String.ofList (Figures.sign (decide (n < 0)) ++ ofNat n.natAbs) := by
  rw [Int.toString_eq_repr, Int.repr_eq_if, ofNat_eq_toDigits]
  split
  · next nonneg =>
    have plain : decide (n < 0) = false := by simp [nonneg]
    have magnitude : n.toNat = n.natAbs := by omega
    rw [plain, magnitude, Nat.repr_eq_ofList_toDigits]
    rfl
  · next negative =>
    have signed : decide (n < 0) = true := by simpa using negative
    have magnitude : (-n).toNat = n.natAbs := by omega
    rw [signed, magnitude, Nat.repr_eq_ofList_toDigits]
    apply String.toList_inj.mp
    simp [Figures.sign]

end Numeral

namespace Reader

variable {c : Char} {rest : List Char}

theorem tokenize_token {t : Token} (visible : Unicode.isBlank c = false)
    (read : Scan.read 0 c rest = .token t rest.length) :
    tokenize (String.ofList (c :: rest)) =
      .ok ([⟨t, 0, rest.length + 1⟩], rest.length + 1) := by
  have next : (ofText (String.ofList (c :: rest))).next =
      (.lexeme ⟨t, 0, rest.length + 1⟩, ⟨[], rest.length + 1⟩) := by
    simp [Reader.next, ofText, skipBlanks_visible rest 0 visible, read, advance]
  rw [tokenize, lexemes_eq, next]
  simp [lexemes_nil]

theorem tokenize_error {e : LexError} {passed : Nat} (visible : Unicode.isBlank c = false)
    (read : Scan.read 0 c rest = .error e passed) :
    tokenize (String.ofList (c :: rest)) = .error e := by
  have next : (ofText (String.ofList (c :: rest))).next = (.error e, ⟨(c :: rest).drop passed,
      passed⟩) := by
    simp [Reader.next, ofText, skipBlanks_visible rest 0 visible, read, advance]
  rw [tokenize, lexemes_eq, next]

end Reader

namespace Scan

theorem number_run (negative : Bool) {digits : List Char} (run : IsRun digits) :
    number 0 (Figures.sign negative ++ digits) =
      integer 0 negative digits (Figures.sign negative ++ digits) := by
  have chars : (Figures.ofRun run).chars negative = Figures.sign negative ++ digits := by
    simp [Figures.chars, Figures.ofRun, Figures.fractionChars, Figures.exponentChars]
  have plain : ¬((Figures.ofRun run).fraction.isSome ∨ (Figures.ofRun run).exponent.isSome) := by
    simp [Figures.ofRun]
  have read := number_figures (Figures.ofRun run) negative 0 Boundary.nil
  rwa [if_neg plain, List.append_nil, chars] at read

/-- A sign and digits start with a character that a number starts with. -/
theorem read_run (negative : Bool) {digits : List Char} (run : IsRun digits) :
    ∃ c rest, Figures.sign negative ++ digits = c :: rest ∧ Unicode.isBlank c = false ∧
      read 0 c rest = integer 0 negative digits (c :: rest) := by
  obtain ⟨d, ds, rfl⟩ := run.cons
  have digit : Numeral.isDigit d = true := run.2 d List.mem_cons_self
  have number := number_run negative run
  cases negative with
  | true =>
    refine ⟨'-', d :: ds, rfl, rfl, ?_⟩
    rw [read_number 0 (.inr ⟨rfl, by simpa using digit⟩)]
    exact number
  | false =>
    have range := toNat_of_isDigit digit
    refine ⟨d, ds, rfl, isBlank_of_visible (by omega) (by omega), ?_⟩
    rw [read_number 0 (.inl digit)]
    exact number

end Scan

namespace Number

theorem ofInt64_narrow {z : Int} (low : -0x80000000 ≤ z) (high : z < 0x80000000) :
    ofInt64 (Int64.ofInt z) = .int32 (Int32.ofInt z) := by
  have wide : (Int64.ofInt z).toInt = z := Int64.toInt_ofInt_of_le (by omega) (by omega)
  have same : (Int64.ofInt z).toInt32 = Int32.ofInt z := by
    apply Int32.toInt.inj
    rw [Int64.toInt_toInt32, wide, Int32.toInt_ofInt]
  rw [ofInt64, wide, if_pos ⟨low, high⟩, same]

theorem ofInt64_wide {n : Int64} (wide : ¬(-0x80000000 ≤ n.toInt ∧ n.toInt < 0x80000000)) :
    ofInt64 n = .int64 n :=
  if_neg wide

/-- A number is the only token of a text, which it takes as a whole. -/
def IsWholeOf (n : Number) (text : String) : Prop :=
  tokenize text = .ok ([⟨.number n, 0, text.length⟩], text.length)

end Number

theorem isWholeOf_digits (negative : Bool) {digits : List Char} (run : IsRun digits)
    (low : -0x8000000000000000 ≤ Numeral.denoted negative digits)
    (high : Numeral.denoted negative digits < 0x8000000000000000) :
    (Number.ofInt64 (Int64.ofInt (Numeral.denoted negative digits))).IsWholeOf
      (String.ofList (Figures.sign negative ++ digits)) := by
  obtain ⟨c, rest, text, visible, read⟩ := Scan.read_run negative run
  rw [Scan.integer, Numeral.signed_value, if_pos ⟨low, high⟩] at read
  rw [text, Number.IsWholeOf, String.length_ofList]
  exact Reader.tokenize_token visible read

theorem tokenize_out_of_range (negative : Bool) {digits : List Char} (run : IsRun digits)
    (out : ¬(-0x8000000000000000 ≤ Numeral.denoted negative digits ∧
      Numeral.denoted negative digits < 0x8000000000000000)) :
    tokenize (String.ofList (Figures.sign negative ++ digits)) =
      .error (.numberOutOfRange (String.ofList (Figures.sign negative ++ digits)) 0) := by
  obtain ⟨c, rest, text, visible, read⟩ := Scan.read_run negative run
  rw [Scan.integer, Numeral.signed_value, if_neg out] at read
  rw [text]
  exact Reader.tokenize_error visible read

theorem isWholeOf_toString (n : Int64) : (Number.ofInt64 n).IsWholeOf (toString n.toInt) := by
  have whole := isWholeOf_digits (decide (n.toInt < 0)) (Numeral.isRun_ofNat n.toInt.natAbs)
  rw [Numeral.denoted_ofNat, Int64.ofInt_toInt, ← Numeral.toString_eq] at whole
  exact whole n.le_toInt n.toInt_lt

theorem Number.toInt64?_ofInt64 (n : Int64) : (ofInt64 n).toInt64? = some n := by
  unfold ofInt64
  split
  · next narrow => rw [toInt64?, toInt64_toInt32 narrow.1 narrow.2]
  · rfl

/-- A sign and digits, as many as there may be, are one token that takes the whole text: 32 bits
wide where these hold the integer denoted, 64 where only these do, and out of range, with the text,
where neither do. The display of an integer of 64 bits is such a token too, which stands for it. -/
theorem tokenize_integer (negative : Bool) (digits : List Char) (run : IsRun digits) :
    let text := String.ofList (Figures.sign negative ++ digits)
    let z := Numeral.denoted negative digits
    (-2 ^ 31 ≤ z ∧ z ≤ 2 ^ 31 - 1 →
      ∃ n : Int32, n.toInt = z ∧ (Number.int32 n).IsWholeOf text) ∧
    (¬(-2 ^ 31 ≤ z ∧ z ≤ 2 ^ 31 - 1) → -2 ^ 63 ≤ z ∧ z ≤ 2 ^ 63 - 1 →
      ∃ n : Int64, n.toInt = z ∧ (Number.int64 n).IsWholeOf text) ∧
    (¬(-2 ^ 63 ≤ z ∧ z ≤ 2 ^ 63 - 1) → tokenize text = .error (.numberOutOfRange text 0)) ∧
    ∀ n : Int64, (Number.ofInt64 n).IsWholeOf (toString n.toInt) ∧
      (Number.ofInt64 n).toInt64? = some n := by
  intro text z
  have held (low : -2 ^ 63 ≤ z) (high : z ≤ 2 ^ 63 - 1) :
      (Number.ofInt64 (Int64.ofInt z)).IsWholeOf text :=
    isWholeOf_digits negative run low (by omega)
  refine ⟨?narrow, ?wide, ?outside, fun n => ⟨isWholeOf_toString n, Number.toInt64?_ofInt64 n⟩⟩
  case narrow =>
    rintro ⟨low, high⟩
    have whole := held (by omega) (by omega)
    rw [Number.ofInt64_narrow low (by omega)] at whole
    exact ⟨Int32.ofInt z, Int32.toInt_ofInt_of_le low (by omega), whole⟩
  case wide =>
    rintro wide ⟨low, high⟩
    have exact : (Int64.ofInt z).toInt = z := Int64.toInt_ofInt_of_le low (by omega)
    have whole := held low high
    rw [Number.ofInt64_wide (by omega)] at whole
    exact ⟨Int64.ofInt z, exact, whole⟩
  case outside =>
    intro out
    exact tokenize_out_of_range negative run (by omega)

/-- The least integer of 64 bits, behind zeros, and the one above the greatest. -/
theorem tokenize_integer_limits :
    IsRun "009223372036854775808".toList ∧ IsRun "9223372036854775808".toList ∧
    (∃ n : Int64, n.toInt = -2 ^ 63 ∧ (Number.int64 n).IsWholeOf "-009223372036854775808") ∧
    tokenize "9223372036854775808" = .error (.numberOutOfRange "9223372036854775808" 0) := by
  have run : IsRun "009223372036854775808".toList := ⟨by simp, by simp [Numeral.isDigit]⟩
  have run' : IsRun "9223372036854775808".toList := ⟨by simp, by simp [Numeral.isDigit]⟩
  have least : Numeral.denoted true "009223372036854775808".toList = -2 ^ 63 := by decide +kernel
  have above : Numeral.denoted false "9223372036854775808".toList = 2 ^ 63 := by decide +kernel
  obtain ⟨-, wide, -⟩ := tokenize_integer true _ run
  obtain ⟨-, -, outside, -⟩ := tokenize_integer false _ run'
  rw [least] at wide
  rw [above] at outside
  exact ⟨run, run', wide (by decide) (by decide), outside (by decide)⟩

end RecordFilter
