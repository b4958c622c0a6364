import RecordFilter.Operand.Printer
import RecordFilter.Proofs.Double.Layout

namespace RecordFilter

open Numeral (isDigit)

namespace Scan

theorem toNat_of_isDigit {c : Char} (h : isDigit c = true) : 0x30 ≤ c.toNat ∧ c.toNat ≤ 0x39 := by
  simpa [isDigit, Char.le_def, UInt32.le_iff_toNat_le] using h

theorem toNat_of_isNameStart {c : Char} (h : isNameStart c = true) :
    0x41 ≤ c.toNat ∧ c.toNat ≤ 0x7A := by
  simp only [isNameStart, Char.isAlpha, Char.isUpper, Char.isLower, UInt32.le_iff_toNat_le,
    Bool.or_eq_true, Bool.and_eq_true, decide_eq_true_eq, ge_iff_le] at h
  rcases h with (⟨low, high⟩ | ⟨low, high⟩) | rfl
  · exact ⟨low, Nat.le_trans high (by decide)⟩
  · exact ⟨Nat.le_trans (by decide) low, high⟩
  · decide

theorem isDigit_of_isNameStart {c : Char} (h : isNameStart c = true) : isDigit c = false := by
  have letter := toNat_of_isNameStart h
  cases digit : isDigit c with
  | false => rfl
  | true =>
    have := toNat_of_isDigit digit
    omega

theorem isBlank_of_visible {c : Char} (low : 0x21 ≤ c.toNat) (high : c.toNat ≤ 0x7E) :
    Unicode.isBlank c = false := by
  simp [Unicode.isBlank]
  omega

theorem read_number (start : Nat) {c : Char} {rest : List Char}
    (h : isDigit c = true ∨ (c = '-' ∧ rest.head?.any isDigit = true)) :
    read start c rest = number start (c :: rest) := by
  unfold read
  split
  case h_19 => exact if_pos h
  all_goals simp [isDigit] at h

theorem read_word (start : Nat) {c : Char} {rest : List Char} (h : isNameStart c = true) :
    read start c rest = word start (c :: rest.takeWhile isNamePart) := by
  have minus : c ≠ '-' := by
    rintro rfl
    exact absurd h (by decide)
  have other : ¬(isDigit c = true ∨ (c = '-' ∧ rest.head?.any isDigit = true)) := by
    simp [isDigit_of_isNameStart h, minus]
  unfold read
  split
  case h_19 => rw [if_neg other, if_pos h]
  all_goals exact absurd h (by decide)

theorem word_start {start start' : Nat} {name : List Char} {t : Token} {more : Nat}
    (h : word start name = .token t more) : word start' name = .token t more := by
  unfold word at h ⊢
  dsimp only at h ⊢
  split at h
  · exact h
  · exact h
  · exact h
  · split at h <;> simp_all

theorem string_escape (start passed : Nat) (quote : Char) (content rest : List Char) {c e : Char}
    (h : unescape e = some c) :
    string start quote passed content ('\\' :: e :: rest) =
      string start quote (passed + 2) (c :: content) rest := by
  simp [string, h]

theorem string_plain (start passed : Nat) {quote : Char} (content rest : List Char) {c : Char}
    (escape : c ≠ '\\') (other : c ≠ quote) :
    string start quote passed content (c :: rest) =
      string start quote (passed + 1) (c :: content) rest := by
  rw [string]
  · exact if_neg other
  · exact escape

theorem string_close (start passed : Nat) {quote : Char} (content rest : List Char)
    (escape : quote ≠ '\\') :
    string start quote passed content (quote :: rest) =
      .token (.string (String.ofList content.reverse)) passed := by
  rw [string]
  · exact if_pos rfl
  · exact escape

theorem quoteChar_cases (c : Char) :
    (∃ e, Operand.quoteChar c = ['\\', e] ∧ unescape e = some c) ∨
      (Operand.quoteChar c = [c] ∧ c ≠ '\\' ∧ c ≠ '\'') := by
  unfold Operand.quoteChar
  split
  case h_6 quote escape _ _ _ => exact .inr ⟨rfl, escape, quote⟩
  all_goals exact .inl ⟨_, rfl, rfl⟩

/-- What is escaped between quotes is read up to the closing quote. -/
theorem string_quoted (start passed : Nat) (content s rest : List Char) :
    string start '\'' passed content (s.flatMap Operand.quoteChar ++ '\'' :: rest) =
      .token (.string (String.ofList (content.reverse ++ s)))
        (passed + (s.flatMap Operand.quoteChar).length) := by
  induction s generalizing passed content with
  | nil =>
    have close := string_close start passed content rest (show '\'' ≠ '\\' by decide)
    simpa using close
  | cons c s ih =>
    rw [List.flatMap_cons, List.append_assoc]
    rcases quoteChar_cases c with ⟨e, printed, unescaped⟩ | ⟨printed, escape, quote⟩
    · have first := string_escape start passed '\'' content
        (s.flatMap Operand.quoteChar ++ '\'' :: rest) unescaped
      rw [printed, List.cons_append, List.singleton_append, first, ih]
      simp
      omega
    · have first := string_plain start passed content
        (s.flatMap Operand.quoteChar ++ '\'' :: rest) escape quote
      rw [printed, List.singleton_append, first, ih]
      simp
      omega

/-- A word that no literal and no operator takes: it stands for itself. -/
def IsName (cs : List Char) : Prop :=
  ∃ c tail, cs = c :: tail ∧ isNameStart c = true ∧ tail.all isNamePart = true ∧
    ∀ start, word start cs = .token (.key (String.ofList cs)) tail.length

end Scan

/-- What is known of a number that was read: it has its narrowest width and it is finite. -/
def Number.Legible : Number → Prop
  | int32 _ => True
  | int64 n => ¬(-0x80000000 ≤ n.toInt ∧ n.toInt < 0x80000000)
  | double x => x.isFinite = true

def Token.Legible : Token → Prop
  | number n => n.Legible
  | key name => Scan.IsName name.toList
  | _ => True

/-- A text that is read as one token before anything that ends a token. -/
def Token.Spelled (t : Token) (cs : List Char) : Prop :=
  ∃ c tail, cs = c :: tail ∧ Unicode.isBlank c = false ∧
    ∀ start rest, Boundary rest → Scan.read start c (tail ++ rest) = .token t tail.length

namespace Token

theorem spelled_word {t : Token} {c : Char} {tail : List Char} (first : Scan.isNameStart c = true)
    (others : tail.all Scan.isNamePart = true)
    (word : ∀ start, Scan.word start (c :: tail) = .token t tail.length) :
    t.Spelled (c :: tail) := by
  refine ⟨c, tail, rfl, ?_, fun start rest boundary => ?_⟩
  · have letter := Scan.toNat_of_isNameStart first
    exact Scan.isBlank_of_visible (by omega) (by omega)
  · have taken := takeWhile_append_stop (List.all_eq_true.mp others) (boundary.rejects rfl rfl rfl)
    rw [Scan.read_word start first, taken, word]

theorem spelled_number {n : Number} (f : Figures) (negative : Bool)
    (read : ∀ start rest, Boundary rest → Scan.number start (f.chars negative ++ rest) =
      .token (.number n) ((f.chars negative).length - 1)) :
    (Token.number n).Spelled (f.chars negative) := by
  obtain ⟨d, ds, whole⟩ := f.isRun_whole.cons
  have digit : isDigit d = true := f.isRun_whole.2 d (by simp [whole])
  have chars : f.chars negative = Figures.sign negative ++
      d :: (ds ++ f.fractionChars ++ f.exponentChars) := by
    simp [Figures.chars, whole]
  rw [chars] at read ⊢
  cases negative with
  | true =>
    refine ⟨'-', _, rfl, rfl, fun start rest boundary => ?_⟩
    rw [Scan.read_number start (.inr ⟨rfl, by simpa using digit⟩)]
    exact read start rest boundary
  | false =>
    refine ⟨d, _, rfl, ?_, fun start rest boundary => ?_⟩
    · have range := Scan.toNat_of_isDigit digit
      exact Scan.isBlank_of_visible (by omega) (by omega)
    · rw [Scan.read_number start (.inl digit)]
      exact read start rest boundary

theorem spelled_string (s : String) : (Token.string s).Spelled (Operand.quote s.toList) := by
  refine ⟨'\'', s.toList.flatMap Operand.quoteChar ++ ['\''], rfl, rfl, fun start rest _ => ?_⟩
  have read := Scan.string_quoted start 1 [] s.toList rest
  rw [List.reverse_nil, List.nil_append, String.ofList_toList] at read
  rw [List.append_assoc, List.singleton_append, Scan.read.eq_def]
  simpa [Nat.add_comm] using read

theorem spelled_ofInt {n : Int} (low : -0x8000000000000000 ≤ n)
    (high : n < 0x8000000000000000) :
    (Token.number (.ofInt64 (Int64.ofInt n))).Spelled (Numeral.ofInt n) := by
  rw [Numeral.ofInt_eq]
  refine spelled_number _ _ fun start rest boundary => ?_
  rw [← Numeral.ofInt_eq]
  exact Scan.number_ofInt n start boundary low high

theorem spelled_legible {n : Number} (legible : n.Legible) : (Token.number n).Spelled n.chars := by
  cases n with
  | int32 n =>
    have low : -0x80000000 ≤ n.toInt := n.le_toInt
    have high : n.toInt < 0x80000000 := n.toInt_lt
    have wide : (Int64.ofInt n.toInt).toInt = n.toInt :=
      Int64.toInt_ofInt_of_le (by omega) (by omega)
    have narrow : (Int64.ofInt n.toInt).toInt32 = n := by
      apply Int32.toInt.inj
      rw [Int64.toInt_toInt32, wide]
      exact Int.bmod_eq_of_le low high
    have same : Number.ofInt64 (Int64.ofInt n.toInt) = .int32 n := by
      rw [Number.ofInt64, wide, if_pos ⟨low, high⟩, narrow]
    have spelled : (Token.number (.ofInt64 (Int64.ofInt n.toInt))).Spelled _ :=
      spelled_ofInt (by omega) (by omega)
    rw [same] at spelled
    exact spelled
  | int64 n =>
    have same : Number.ofInt64 (Int64.ofInt n.toInt) = .int64 n := by
      rw [Int64.ofInt_toInt, Number.ofInt64, if_neg legible]
    have spelled : (Token.number (.ofInt64 (Int64.ofInt n.toInt))).Spelled _ :=
      spelled_ofInt n.le_toInt n.toInt_lt
    rw [same] at spelled
    exact spelled
  | double x =>
    cases x with
    | finite negative rank =>
      obtain ⟨f, marked, chars, amount⟩ := Double.written_finite negative rank
      have spelled : (Token.number (.double (f.amount negative))).Spelled (f.chars negative) := by
        refine spelled_number f negative fun start rest boundary => ?_
        exact Scan.number_double f negative start boundary marked (by rw [amount]; rfl)
      rw [amount, ← chars] at spelled
      exact spelled
    | _ => cases legible

/-- Every legible token that stands for an operand is spelled by the operand's text. -/
theorem Legible.spelled {t : Token} (legible : t.Legible) {x : Operand}
    (h : t.operand? = some x) : t.Spelled x.chars := by
  cases t with
  | null =>
    cases h
    exact spelled_word rfl rfl fun _ => rfl
  | boolean b =>
    cases h
    cases b <;> exact spelled_word rfl rfl fun _ => rfl
  | number n =>
    cases h
    exact spelled_legible legible
  | string s =>
    cases h
    exact spelled_string s
  | key name =>
    cases h
    obtain ⟨c, tail, chars, first, others, word⟩ := legible
    have spelled := spelled_word first others fun start => chars ▸ word start
    have same : String.ofList (c :: tail) = name := by rw [← chars, String.ofList_toList]
    rw [same, ← chars] at spelled
    exact spelled
  | placeholder =>
    cases h
    exact ⟨'?', [], rfl, rfl, fun _ _ _ => rfl⟩
  | _ => cases h

theorem spelled_connective (op : Connective) :
    (Token.connective op).Spelled op.symbol.toList := by
  cases op <;> exact spelled_word rfl rfl fun _ => rfl

theorem spelled_comparator (op : Comparator) :
    (Token.comparator op).Spelled op.symbol.toList := by
  cases op with
  | member => exact spelled_word rfl rfl fun _ => rfl
  | like => exact spelled_word rfl rfl fun _ => rfl
  | regex => exact spelled_word rfl rfl fun _ => rfl
  | _ =>
    refine ⟨_, _, rfl, rfl, fun start rest boundary => ?_⟩
    cases rest with
    | nil => rfl
    | cons c r => rcases boundary c rfl with rfl | rfl | rfl <;> rfl

theorem spelled_not : Token.not.Spelled "NOT".toList :=
  spelled_word rfl rfl fun _ => rfl

end Token
namespace Scan

theorem string_legible {start passed more : Nat} {quote : Char} {content rest : List Char}
    {t : Token} (h : string start quote passed content rest = .token t more) : t.Legible := by
  fun_induction string start quote passed content rest with
  | case1 => cases h
  | case2 => cases h
  | case3 _ _ _ _ _ _ ih => exact ih h
  | case4 => cases h
  | case5 =>
    injection h with h
    exact h ▸ trivial
  | case6 _ _ _ _ _ _ ih => exact ih h

theorem integer_legible {start more : Nat} {negative : Bool} {digits text : List Char} {t : Token}
    (h : integer start negative digits text = .token t more) : t.Legible := by
  unfold integer at h
  dsimp only at h
  split at h
  · injection h with h
    subst h
    unfold Number.ofInt64
    split
    · trivial
    · next wide => exact wide
  · cases h

theorem double_legible {start more : Nat} {negative : Bool}
    {whole fraction mark digits text : List Char} {t : Token}
    (h : double start negative whole fraction mark digits text = .token t more) : t.Legible := by
  unfold double at h
  dsimp only at h
  split at h
  · next finite =>
    injection h with h
    exact h ▸ finite
  · cases h

theorem number_legible {start more : Nat} {text : List Char} {t : Token}
    (h : number start text = .token t more) : t.Legible := by
  unfold number at h
  dsimp only at h
  split at h
  all_goals
    split at h
    · cases h
    · split at h
      · cases h
      · split at h
        · cases h
        · split at h
          · exact double_legible h
          · exact integer_legible h

theorem word_legible {start more : Nat} {c : Char} {rest : List Char} {t : Token}
    (first : isNameStart c = true)
    (h : word start (c :: rest.takeWhile isNamePart) = .token t more) : t.Legible := by
  have read := h
  unfold word at h
  dsimp only at h
  split at h
  case h_4 =>
    split at h
    case h_10 =>
      injection h with key length
      subst key length
      have name : IsName (c :: rest.takeWhile isNamePart) :=
        ⟨c, _, rfl, first, List.all_takeWhile, fun _ => word_start read⟩
      simpa [Token.Legible] using name
    case h_1 | h_2 | h_3 => cases h
    all_goals
      injection h with h
      exact h ▸ trivial
  all_goals
    injection h with h
    exact h ▸ trivial

/-- Every token that is read is legible. -/
theorem read_legible {start more : Nat} {c : Char} {rest : List Char} {t : Token}
    (h : read start c rest = .token t more) : t.Legible := by
  unfold read at h
  split at h
  case h_17 => exact string_legible h
  case h_18 => exact string_legible h
  case h_19 =>
    split at h
    · exact number_legible h
    · split at h
      · next first => exact word_legible first h
      · cases h
  all_goals
    injection h with h
    exact h ▸ trivial

end Scan
end RecordFilter
