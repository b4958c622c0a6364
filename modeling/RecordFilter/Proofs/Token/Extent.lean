import RecordFilter.Proofs.Token.Spelling

namespace RecordFilter

open Numeral (isDigit)

/-- One text ends what stands before it like another: it is empty, or starts with a blank or with
the same character. -/
def EndsLike (rest rest' : List Char) : Prop :=
  ∀ c, rest'.head? = some c → Unicode.isBlank c = true ∨ rest.head? = some c

namespace EndsLike

variable {rest rest' : List Char}

/-- A blank ends what stands before it, and so does the end of the text, like anything else. -/
theorem of_nil (h : EndsLike [] rest') (rest : List Char) : EndsLike rest rest' := fun c head =>
  (h c head).imp_right fun same => by cases same

theorem trans {rest'' : List Char} (h : EndsLike rest rest') (h' : EndsLike rest' rest'') :
    EndsLike rest rest'' := fun c head =>
  (h' c head).elim .inl (h c)

theorem append (h : EndsLike rest rest') (cs : List Char) :
    EndsLike (cs ++ rest) (cs ++ rest') := by
  cases cs with
  | nil => exact h
  | cons c cs => exact fun d head => .inr head

theorem rejects (h : EndsLike rest rest') {p : Char → Bool}
    (blank : ∀ c, Unicode.isBlank c = true → p c = false)
    (before : ∀ c, rest.head? = some c → p c = false) (c : Char) (head : rest'.head? = some c) :
    p c = false :=
  (h c head).elim (blank c) (before c)

theorem any_head (h : EndsLike rest rest') {p : Char → Bool}
    (blank : ∀ c, Unicode.isBlank c = true → p c = false) (before : rest.head?.any p = false) :
    rest'.head?.any p = false := by
  cases rest' with
  | nil => rfl
  | cons c cs =>
    refine h.rejects blank (fun d head => ?_) c rfl
    simpa [head] using before

theorem head_ne (h : EndsLike rest rest') {c : Char} (visible : Unicode.isBlank c = false)
    (other : rest.head? ≠ some c) : rest'.head? ≠ some c := by
  intro head
  rcases h c head with blank | same
  · rw [visible] at blank
    cases blank
  · exact other same

end EndsLike

namespace Scan

theorem isDigit_of_isBlank (c : Char) (blank : Unicode.isBlank c = true) : isDigit c = false := by
  by_contra digit
  have range := toNat_of_isDigit (Bool.eq_true_of_not_eq_false digit)
  rw [isBlank_of_visible (by omega) (by omega)] at blank
  cases blank

theorem isNameStart_of_isBlank (c : Char) (blank : Unicode.isBlank c = true) :
    isNameStart c = false := by
  by_contra letter
  have range := toNat_of_isNameStart (Bool.eq_true_of_not_eq_false letter)
  rw [isBlank_of_visible (by omega) (by omega)] at blank
  cases blank

theorem isNamePart_eq (c : Char) : isNamePart c = (isNameStart c || isDigit c) := by
  simp [isNamePart, isNameStart, isDigit, Char.isAlphanum, Char.isDigit, Char.le_def,
    Bool.or_right_comm, UInt32.le_iff_toNat_le]

theorem isNamePart_of_isBlank (c : Char) (blank : Unicode.isBlank c = true) :
    isNamePart c = false := by
  rw [isNamePart_eq, isNameStart_of_isBlank c blank, isDigit_of_isBlank c blank, Bool.or_false]

theorem stop_dropWhile (p : Char → Bool) (cs : List Char) (c : Char)
    (head : (cs.dropWhile p).head? = some c) : p c = false := by
  have first := List.head?_dropWhile_not p cs
  rw [head] at first
  simpa using first

theorem run_again {p : Char → Bool} (blank : ∀ c, Unicode.isBlank c = true → p c = false)
    (cs : List Char) {rest' : List Char} (alike : EndsLike (cs.dropWhile p) rest') :
    (cs.takeWhile p ++ rest').takeWhile p = cs.takeWhile p ∧
      (cs.takeWhile p ++ rest').dropWhile p = rest' := by
  have inside : ∀ c ∈ cs.takeWhile p, p c = true := fun c member =>
    List.all_eq_true.mp List.all_takeWhile c member
  have stop := alike.rejects blank (stop_dropWhile p cs)
  exact ⟨takeWhile_append_stop inside stop, dropWhile_append_stop inside stop⟩

theorem digits_again (cs : List Char) {rest' : List Char}
    (alike : EndsLike (cs.dropWhile isDigit) rest') :
    (cs.takeWhile isDigit ++ rest').takeWhile isDigit = cs.takeWhile isDigit ∧
      (cs.takeWhile isDigit ++ rest').dropWhile isDigit = rest' :=
  run_again isDigit_of_isBlank cs alike

theorem fraction_text {cs rest : List Char} {f : Option (List Char)}
    (h : fraction cs = (f, rest)) : cs = (f.map ('.' :: ·)).getD [] ++ rest := by
  unfold fraction at h
  split at h <;> cases h
  · simp
  · rfl

theorem fraction_again {cs rest rest' : List Char} {f : Option (List Char)}
    (h : fraction cs = (f, rest)) (alike : EndsLike rest rest') :
    fraction ((f.map ('.' :: ·)).getD [] ++ rest') = (f, rest') := by
  unfold fraction at h
  split at h
  · next digits =>
    cases h
    obtain ⟨taken, left⟩ := digits_again digits alike
    simp [fraction, taken, left]
  · next other =>
    cases h
    refine fraction_none fun head => ?_
    rcases alike _ head with blank | same
    · cases blank
    · cases cs with
      | nil => cases same
      | cons c cs =>
        cases same
        exact other cs rfl

theorem exponent_text {cs rest : List Char} {e : Option (List Char × List Char)}
    (h : exponent cs = (e, rest)) : cs = (e.getD ([], [])).1 ++ (e.getD ([], [])).2 ++ rest := by
  unfold exponent at h
  split at h
  · cases h
    rfl
  · repeat' split at h
    all_goals
      cases h
      simp

/-- An exponent is read again before what ends it alike. Where there is none, what comes next is no
marker, as it starts no name. -/
theorem exponent_again {cs rest rest' : List Char} {e : Option (List Char × List Char)}
    (h : exponent cs = (e, rest)) (nameless : rest.head?.any isNameStart = false)
    (alike : EndsLike rest rest') :
    exponent ((e.getD ([], [])).1 ++ (e.getD ([], [])).2 ++ rest') = (e, rest') := by
  have unmarked : exponent rest' = (none, rest') := by
    refine exponent_none fun c head => ?_
    have noName := alike.any_head isNameStart_of_isBlank nameless
    rw [head] at noName
    constructor <;>
    · rintro rfl
      cases noName
  unfold exponent at h
  split at h
  · cases h
    exact unmarked
  · next m r =>
    split at h
    · next marker =>
      split at h
      · cases h
        exact unmarked
      · next c s =>
        split at h
        · next sign =>
          cases h
          obtain ⟨taken, left⟩ := digits_again s alike
          simp [exponent, marker, sign, taken, left]
        · next unsigned =>
          split at h
          · next digit =>
            cases h
            obtain ⟨taken, left⟩ := digits_again (c :: s) alike
            rw [List.takeWhile_cons_of_pos digit, List.cons_append] at taken left
            simp [exponent, marker, unsigned, digit, taken, left]
          · cases h
            exact unmarked
    · cases h
      exact unmarked

theorem double_start {start more : Nat} {negative : Bool}
    {whole fraction mark digits text : List Char} {t : Token}
    (h : double start negative whole fraction mark digits text = .token t more) :
    more = text.length - 1 ∧
      ∀ start', double start' negative whole fraction mark digits text = .token t more := by
  unfold double at h ⊢
  dsimp only at h ⊢
  split at h
  · next finite =>
    cases h
    exact ⟨rfl, fun _ => if_pos finite⟩
  · cases h

theorem integer_start {start more : Nat} {negative : Bool} {digits text : List Char}
    {t : Token} (h : integer start negative digits text = .token t more) :
    more = text.length - 1 ∧ ∀ start', integer start' negative digits text = .token t more := by
  unfold integer at h ⊢
  dsimp only at h ⊢
  split at h
  · next fits =>
    cases h
    exact ⟨rfl, fun _ => if_pos fits⟩
  · cases h

/-- What a number is read from: its sign, the digits before a point and behind it, and an exponent's
marker and digits. -/
structure Parts where
  negative : Bool
  whole : List Char
  fraction : Option (List Char)
  exponent : Option (List Char × List Char)

namespace Parts

def sign (p : Parts) : List Char := if p.negative then ['-'] else []

def fractionChars (p : Parts) : List Char := (p.fraction.map ('.' :: ·)).getD []

def exponentChars (p : Parts) : List Char :=
  (p.exponent.getD ([], [])).1 ++ (p.exponent.getD ([], [])).2

def chars (p : Parts) : List Char := p.sign ++ p.whole ++ p.fractionChars ++ p.exponentChars

/-- The parts are read from a text that goes on in this way. -/
structure Before (p : Parts) (rest : List Char) : Prop where
  positive : p.negative = false → (p.chars ++ rest).head? ≠ some '-'
  digits : (p.whole ++ (p.fractionChars ++ (p.exponentChars ++ rest))).takeWhile isDigit = p.whole
  others : (p.whole ++ (p.fractionChars ++ (p.exponentChars ++ rest))).dropWhile isDigit =
    p.fractionChars ++ (p.exponentChars ++ rest)
  fraction : Scan.fraction (p.fractionChars ++ (p.exponentChars ++ rest)) =
    (p.fraction, p.exponentChars ++ rest)
  exponent : Scan.exponent (p.exponentChars ++ rest) = (p.exponent, rest)

variable {p : Parts} {rest rest' : List Char}

theorem exists_before (text : List Char) : ∃ p rest, text = chars p ++ rest ∧ p.Before rest := by
  obtain ⟨negative, body, rfl, positive⟩ : ∃ negative body,
      text = (if negative then ['-'] else []) ++ body ∧
        (negative = false → text.head? ≠ some '-') := by
    cases text with
    | nil => exact ⟨false, [], rfl, nofun⟩
    | cons c cs =>
      by_cases minus : c = '-'
      · exact ⟨true, cs, by simp [minus], nofun⟩
      · exact ⟨false, c :: cs, rfl, fun _ => by simpa using minus⟩
  obtain ⟨f, r, frac⟩ : ∃ f r, Scan.fraction (body.dropWhile isDigit) = (f, r) := ⟨_, _, rfl⟩
  obtain ⟨e, rest, expo⟩ : ∃ e rest, Scan.exponent r = (e, rest) := ⟨_, _, rfl⟩
  have left := fraction_text frac
  have left' := exponent_text expo
  let p : Parts := ⟨negative, body.takeWhile isDigit, f, e⟩
  have parts : body.dropWhile isDigit = p.fractionChars ++ (p.exponentChars ++ rest) := by
    rw [left, left']
    simp [p, fractionChars, exponentChars]
  have whole : body = p.whole ++ (p.fractionChars ++ (p.exponentChars ++ rest)) := by
    rw [← parts]
    exact List.takeWhile_append_dropWhile.symm
  have same : (if negative then ['-'] else []) ++ body = p.chars ++ rest := by
    rw [whole]
    simp [chars, sign, p]
  refine ⟨p, rest, same, same ▸ positive, ?_, ?_, ?_, ?_⟩
  · rw [← whole]
  · rw [← whole, parts]
  · rw [← parts, frac, left']
    rfl
  · rw [exponentChars, ← left', expo]

theorem Before.chars_eq (h : p.Before rest) {c : Char} {cs : List Char}
    (text : c :: cs = p.chars ++ rest)
    (first : isDigit c = true ∨ c = '-' ∧ cs.head?.any isDigit = true) :
    ∃ tail, p.chars = c :: tail ∧
      ∀ rest', isDigit c = true ∨ c = '-' ∧ (tail ++ rest').head?.any isDigit = true := by
  have unsigned : p.negative = decide (c = '-') := by
    cases negative : p.negative with
    | true =>
      have same : c = '-' := by simpa [chars, sign, negative] using congrArg List.head? text
      exact (decide_eq_true same).symm
    | false =>
      have other : c ≠ '-' := by simpa [← text] using h.positive negative
      exact (decide_eq_false other).symm
  have digits := h.digits
  have body : p.sign ++ (p.whole ++ (p.fractionChars ++ (p.exponentChars ++ rest))) = c :: cs := by
    rw [text]
    simp [chars]
  rcases first with digit | ⟨rfl, digit⟩
  · have other : c ≠ '-' := by
      rintro rfl
      cases digit
    have nothing : p.sign = [] := by simp [sign, unsigned, other]
    rw [nothing, List.nil_append] at body
    rw [body, List.takeWhile_cons_of_pos digit] at digits
    refine ⟨cs.takeWhile isDigit ++ p.fractionChars ++ p.exponentChars, ?_, fun _ => .inl digit⟩
    rw [chars, nothing, ← digits]
    rfl
  · have minus : p.sign = ['-'] := by simp [sign, unsigned]
    rw [minus, List.singleton_append] at body
    rw [(List.cons.inj body).2] at digits
    cases cs with
    | nil => cases digit
    | cons d ds =>
      have digit : isDigit d = true := by simpa using digit
      rw [List.takeWhile_cons_of_pos digit] at digits
      refine ⟨p.whole ++ p.fractionChars ++ p.exponentChars, by simp [chars, minus], fun _ => ?_⟩
      refine .inr ⟨rfl, ?_⟩
      simp [← digits, digit]

/-- The parts are read again before what ends them alike. -/
theorem Before.again (h : p.Before rest) (nameless : rest.head?.any isNameStart = false)
    (alike : EndsLike rest rest') : p.Before rest' := by
  have behind := (alike.append p.exponentChars).append p.fractionChars
  rw [← h.others] at behind
  have digits := digits_again _ behind
  rw [h.digits] at digits
  refine ⟨fun positive head => ?_, digits.1, digits.2, ?_, ?_⟩
  · rcases alike.append p.chars '-' head with blank | same
    · cases blank
    · exact h.positive positive same
  · exact fraction_again h.fraction (alike.append _)
  · exact exponent_again h.exponent nameless alike

/-- What is made of the parts, where a name comes next or not. -/
def scan (p : Parts) (start : Nat) (named : Bool) : Scan :=
  let plain := p.sign ++ p.whole ++ p.fractionChars
  let (mark, digits) := p.exponent.getD ([], [])
  if p.fraction = some [] then .error (.malformedNumber (String.ofList plain) start) plain.length
  else if p.exponent.isSome ∧ digits = [] then
    .error (.malformedNumber (String.ofList p.chars) start) p.chars.length
  else if named then .error (.digitLedName start) p.chars.length
  else if p.fraction.isSome ∨ p.exponent.isSome then
    double start p.negative p.whole (p.fraction.getD []) mark digits p.chars
  else integer start p.negative p.whole p.chars

theorem Before.number_eq (h : p.Before rest) (start : Nat) :
    number start (p.chars ++ rest) = p.scan start (rest.head?.any isNameStart) := by
  have minus : (p.chars ++ rest).head? = some '-' ↔ p.negative = true := by
    cases negative : p.negative with
    | true => simp [chars, sign, negative]
    | false => simpa using h.positive negative
  have signs : (if p.negative = true then ['-'] else []) = p.sign := rfl
  have body : (p.chars ++ rest).drop p.sign.length =
      p.whole ++ (p.fractionChars ++ (p.exponentChars ++ rest)) := by
    simp [chars]
  have text : p.sign ++ p.whole ++ p.fractionChars ++ (p.exponent.getD ([], [])).1 ++
      (p.exponent.getD ([], [])).2 = p.chars := by
    simp [chars, exponentChars]
  simp only [number, minus, signs, body, h.digits, h.others, h.fraction, h.exponent,
    Bool.decide_eq_true]
  rw [fractionChars] at text
  simp only [text, scan, fractionChars]

theorem scan_token {start more : Nat} {named : Bool} {t : Token}
    (h : p.scan start named = .token t more) :
    named = false ∧ more = p.chars.length - 1 ∧
      ∀ start', p.scan start' false = .token t more := by
  unfold scan at h ⊢
  dsimp only at h ⊢
  split at h
  · cases h
  · next wellFormed =>
    split at h
    · cases h
    · next wellFormed' =>
      cases named with
      | true => cases h
      | false =>
        refine ⟨rfl, ?_⟩
        simp only [wellFormed, wellFormed', Bool.false_eq_true, if_false] at h ⊢
        split at h
        · next marked =>
          simp only [marked, if_true]
          exact double_start h
        · next plain =>
          simp only [plain, if_false]
          exact integer_start h

end Parts

theorem string_again {start passed more : Nat} {quote : Char} {content cs : List Char} {t : Token}
    (h : string start quote passed content cs = .token t more) :
    ∃ body rest, cs = body ++ rest ∧ passed + body.length = more + 1 ∧
      ∀ start' rest', string start' quote passed content (body ++ rest') = .token t more := by
  fun_induction string start quote passed content cs with
  | case1 => cases h
  | case2 => cases h
  | case3 passed content c rest e escape ih =>
    obtain ⟨body, rest', rfl, length, read⟩ := ih h
    refine ⟨'\\' :: c :: body, rest', rfl, by simp; omega, fun start' after => ?_⟩
    rw [List.cons_append, List.cons_append, string_escape _ _ _ _ _ escape, read]
  | case4 => cases h
  | case5 passed content rest escape =>
    cases h
    exact ⟨[quote], rest, rfl, rfl, fun start' after => string_close start' _ content after escape⟩
  | case6 passed content c rest escape other ih =>
    obtain ⟨body, rest', rfl, length, read⟩ := ih h
    refine ⟨c :: body, rest', rfl, by simp; omega, fun start' after => ?_⟩
    rw [List.cons_append, string_plain _ _ _ _ escape other, read]

theorem word_length {start more : Nat} {name : List Char} {t : Token}
    (h : word start name = .token t more) : more = name.length - 1 := by
  unfold word at h
  dsimp only at h
  split at h
  case h_4 =>
    split at h <;> cases h
    all_goals rfl
  all_goals
    cases h
    rfl

/-- The token that starts with `c` is read again, at any place, before what ends it alike. -/
def ReadAgain (c : Char) (cs : List Char) (t : Token) (more : Nat) : Prop :=
  ∃ tail rest, cs = tail ++ rest ∧ tail.length = more ∧
    ∀ start' rest', EndsLike rest rest' → read start' c (tail ++ rest') = .token t more

theorem readAgain_single {c : Char} {cs : List Char} {t : Token}
    (h : ∀ start' rest', EndsLike cs rest' → read start' c rest' = .token t 0) :
    ReadAgain c cs t 0 :=
  ⟨[], cs, rfl, rfl, h⟩

theorem readAgain_pair {c d : Char} {cs : List Char} {t : Token} (head : cs.head? = some d)
    (h : ∀ start' rest', read start' c (d :: rest') = .token t 1) : ReadAgain c cs t 1 := by
  cases cs with
  | nil => cases head
  | cons c' rest =>
    cases head
    exact ⟨[d], rest, rfl, rfl, fun start' rest' _ => h start' rest'⟩

theorem readAgain_word {start more : Nat} {c : Char} {cs : List Char} {t : Token}
    (letter : isNameStart c = true)
    (h : word start (c :: cs.takeWhile isNamePart) = .token t more) : ReadAgain c cs t more := by
  refine ⟨cs.takeWhile isNamePart, cs.dropWhile isNamePart, ?_, ?_, fun start' rest' alike => ?_⟩
  · exact List.takeWhile_append_dropWhile.symm
  · exact (word_length h).symm
  · rw [read_word start' letter, (run_again isNamePart_of_isBlank cs alike).1, word_start h]

theorem readAgain_number {start more : Nat} {c : Char} {cs : List Char} {t : Token}
    (first : isDigit c = true ∨ c = '-' ∧ cs.head?.any isDigit = true)
    (h : number start (c :: cs) = .token t more) : ReadAgain c cs t more := by
  obtain ⟨p, rest, text, before⟩ := Parts.exists_before (c :: cs)
  rw [text, before.number_eq] at h
  obtain ⟨nameless, length, again⟩ := Parts.scan_token h
  obtain ⟨tail, chars, first'⟩ := before.chars_eq text first
  rw [chars] at text length
  refine ⟨tail, rest, (List.cons.inj text).2, length.symm, fun start' rest' alike => ?_⟩
  have nameless' := alike.any_head isNameStart_of_isBlank nameless
  rw [read_number start' (first' rest'), ← List.cons_append, ← chars,
    (before.again nameless alike).number_eq, nameless', again]

theorem read_again {start more : Nat} {c : Char} {cs : List Char} {t : Token}
    (h : read start c cs = .token t more) : ReadAgain c cs t more := by
  unfold read at h
  split at h
  case h_5 | h_6 | h_8 | h_10 | h_11 | h_13 | h_15 | h_16 =>
    next head =>
    cases h
    exact readAgain_pair head fun _ _ => rfl
  case h_7 | h_12 =>
    next noEqual other =>
    cases h
    refine readAgain_single fun start' rest' alike => ?_
    have first := alike.head_ne (by rfl) noEqual
    have second := alike.head_ne (by rfl) other
    simp [read]
  case h_9 | h_14 =>
    next noEqual =>
    cases h
    refine readAgain_single fun start' rest' alike => ?_
    have first := alike.head_ne (by rfl) noEqual
    simp [read]
  case h_17 | h_18 =>
    obtain ⟨body, rest, rfl, length, again⟩ := string_again h
    exact ⟨body, rest, rfl, by omega, fun start' rest' alike => again start' rest'⟩
  case h_19 =>
    split at h
    · next first => exact readAgain_number first h
    · split at h
      · next letter => exact readAgain_word letter h
      · cases h
  all_goals
    cases h
    exact readAgain_single fun _ _ _ => rfl

end Scan
end RecordFilter
