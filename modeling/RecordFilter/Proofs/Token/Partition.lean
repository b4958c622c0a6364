import RecordFilter.Proofs.Parse.Acceptance
import RecordFilter.Proofs.Token.Extent
import RecordFilter.Proofs.Token.Sequence

namespace RecordFilter

/-- The part of a text that a token was read from. -/
def Lexeme.span (l : Lexeme) (cs : List Char) : List Char :=
  (cs.drop l.start).take (l.stop - l.start)

def insertFrom (gaps : Nat → List Char) : Nat → List Char → List Char
  | place, [] => gaps place
  | place, c :: cs => gaps place ++ c :: insertFrom gaps (place + 1) cs

/-- A text with characters put in before each of its places and at its end. -/
def insertGaps (gaps : Nat → List Char) (text : String) : String :=
  String.ofList (insertFrom gaps 0 text.toList)

/-- The tokens take a text apart, which has this length. -/
structure Partitions (text : String) (ls : List Lexeme) (stop : Nat) : Prop where
  /-- The places where tokens start increase, up to the end of the text. -/
  increasing : (ls.map (·.start) ++ [stop]).Pairwise (· < ·)
  /-- Every token takes characters, and has ended where the next one starts. -/
  spans : ∀ l ∈ ls, l.start < l.stop ∧ l.stop ≤ stop
  apart : ls.Pairwise fun l l' => l.stop ≤ l'.start
  /-- A character in no token is a blank. -/
  blank : ∀ i c, text.toList[i]? = some c → (∀ l ∈ ls, i < l.start ∨ l.stop ≤ i) →
    Unicode.isBlank c = true
  length : stop = text.length
  /-- What a token was read from is that token, and no other, by itself. -/
  alone : ∀ l ∈ ls, tokenize (String.ofList (l.span text.toList)) =
    .ok ([⟨l.token, 0, l.stop - l.start⟩], l.stop - l.start)
  /-- With blanks put in before, between and behind the tokens they are the same tokens. -/
  spaced : ∀ gaps : Nat → List Char, (∀ i, ∀ c ∈ gaps i, Unicode.isBlank c = true) →
    (∀ l ∈ ls, ∀ i, l.start < i → i < l.stop → gaps i = []) →
    ∃ ls' stop', tokenize (insertGaps gaps text) = .ok (ls', stop') ∧
      ls'.map (·.token) = ls.map (·.token)

namespace Reader

/-- A text from a place on is tiled with tokens: blanks lie before each of them and behind the last,
and each is read again before what ends it alike. -/
inductive Tiled : Nat → List Char → List Lexeme → Nat → Prop where
  | finish {offset : Nat} {blanks : List Char} (blank : ∀ b ∈ blanks, Unicode.isBlank b = true) :
      Tiled offset blanks [] (offset + blanks.length)
  | lexeme {offset start stop last : Nat} {blanks tail rest : List Char} {c : Char} {t : Token}
      {ls : List Lexeme} (blank : ∀ b ∈ blanks, Unicode.isBlank b = true)
      (visible : Unicode.isBlank c = false) (begins : start = offset + blanks.length)
      (ends : stop = start + (tail.length + 1))
      (read : ∀ start' rest', EndsLike rest rest' →
        Scan.read start' c (tail ++ rest') = .token t tail.length)
      (others : Tiled stop rest ls last) :
      Tiled offset (blanks ++ c :: (tail ++ rest)) (⟨t, start, stop⟩ :: ls) last

theorem skipBlanks_blanks {blanks : List Char} (blank : ∀ b ∈ blanks, Unicode.isBlank b = true)
    (rest : List Char) (offset : Nat) :
    (Reader.mk (blanks ++ rest) offset).skipBlanks =
      (Reader.mk rest (offset + blanks.length)).skipBlanks := by
  induction blanks generalizing offset with
  | nil => rfl
  | cons b blanks ih =>
    rw [List.cons_append, skipBlanks_blank _ offset (blank b List.mem_cons_self),
      ih fun b' member => blank b' (List.mem_cons_of_mem _ member), List.length_cons]
    congr 2
    omega

theorem exists_blanks (r : Reader) : ∃ blanks, r.rest = blanks ++ r.skipBlanks.rest ∧
    r.skipBlanks.offset = r.offset + blanks.length ∧ (∀ b ∈ blanks, Unicode.isBlank b = true) ∧
      ∀ c, r.skipBlanks.rest.head? = some c → Unicode.isBlank c = false := by
  have parts := List.takeWhile_append_dropWhile (p := Unicode.isBlank) (l := r.rest)
  have rest : r.skipBlanks.rest = r.rest.dropWhile Unicode.isBlank := by
    have left : (r.rest.takeWhile Unicode.isBlank ++ r.rest.dropWhile Unicode.isBlank).drop
        (r.rest.takeWhile Unicode.isBlank).length = r.rest.dropWhile Unicode.isBlank :=
      List.drop_left
    rwa [parts] at left
  refine ⟨r.rest.takeWhile Unicode.isBlank, by rw [rest, parts], rfl, fun b member => ?_, ?_⟩
  · exact List.all_eq_true.mp List.all_takeWhile b member
  · intro c head
    rw [rest] at head
    exact Scan.stop_dropWhile Unicode.isBlank r.rest c head

theorem tiled_of_finish {r r' : Reader} {last : Nat} (h : r.next = (.finish last, r')) :
    Tiled r.offset r.rest [] last := by
  obtain ⟨blanks, text, place, blank, -⟩ := r.exists_blanks
  unfold next at h
  dsimp only at h
  split at h
  · next spent =>
    cases h
    rw [text, place, spent, List.append_nil]
    exact .finish blank
  · split at h <;> cases h

theorem tiled_of_lexeme {r r' : Reader} {l : Lexeme} {ls : List Lexeme} {last : Nat}
    (h : r.next = (.lexeme l, r')) (others : Tiled r'.offset r'.rest ls last) :
    Tiled r.offset r.rest (l :: ls) last := by
  obtain ⟨blanks, text, place, blank, visible⟩ := r.exists_blanks
  unfold next at h
  dsimp only at h
  split at h
  · cases h
  · next c cs front =>
    split at h
    · next t more read =>
      cases h
      obtain ⟨tail, rest, rfl, rfl, again⟩ := Scan.read_again read
      have left : (r.skipBlanks.advance (tail.length + 1)).rest = rest := by
        simp [advance, front]
      rw [left] at others
      rw [text, front]
      exact .lexeme blank (visible c (by rw [front]; rfl)) place rfl again others
    · cases h

theorem tiled_of_lexemes (r : Reader) {ls : List Lexeme} {last : Nat}
    (h : r.lexemes = (ls, .ok last)) : Tiled r.offset r.rest ls last := by
  fun_induction lexemes r generalizing ls last with
  | case1 r l r' next shorter ls' ending others ih =>
    obtain ⟨rfl, rfl⟩ := Prod.mk.inj h
    exact tiled_of_lexeme next (ih others)
  | case2 r n r' next =>
    obtain ⟨rfl, same⟩ := Prod.mk.inj h
    cases same
    exact tiled_of_finish next
  | case3 r e r' next => cases (Prod.mk.inj h).2

/-- The tokens that a text is tiled with are read from it. -/
theorem Tiled.lexemes_eq {offset last : Nat} {cs : List Char} {ls : List Lexeme}
    (h : Tiled offset cs ls last) : (Reader.mk cs offset).lexemes = (ls, .ok last) := by
  induction h with
  | @finish offset blanks blank =>
    have skipped := skipBlanks_blanks blank [] offset
    rw [List.append_nil] at skipped
    rw [Reader.lexemes_eq, next, skipped]
    rfl
  | @lexeme offset start stop last blanks tail rest c t ls blank visible begins ends read others
      ih =>
    have skipped := skipBlanks_blanks blank (c :: (tail ++ rest)) offset
    rw [← begins, skipBlanks_visible _ _ visible] at skipped
    have first : (Reader.mk (blanks ++ c :: (tail ++ rest)) offset).next =
        (.lexeme ⟨t, start, stop⟩, ⟨rest, stop⟩) := by
      simp [next, skipped, read start rest fun d head => .inr head, advance, ends]
    rw [Reader.lexemes_eq, first]
    simp [ih]

variable {offset last : Nat} {cs : List Char} {ls : List Lexeme}

theorem Tiled.last_eq (h : Tiled offset cs ls last) : last = offset + cs.length := by
  induction h with
  | finish blank => rfl
  | lexeme blank visible begins ends read others ih =>
    subst begins ends
    simp only [ih, List.length_append, List.length_cons]
    omega

theorem Tiled.spans (h : Tiled offset cs ls last) :
    (∀ l ∈ ls, offset ≤ l.start ∧ l.start < l.stop ∧ l.stop ≤ last) ∧
      ls.Pairwise fun l l' => l.stop ≤ l'.start := by
  induction h with
  | finish blank => exact ⟨nofun, .nil⟩
  | lexeme blank visible begins ends read others ih =>
    subst begins ends
    have long := others.last_eq
    refine ⟨fun l member => ?_, List.pairwise_cons.mpr ⟨fun l member => (ih.1 l member).1, ih.2⟩⟩
    rcases List.mem_cons.mp member with rfl | member
    · dsimp only
      omega
    · have behind := ih.1 l member
      omega

theorem Tiled.blank_of_apart (h : Tiled offset cs ls last) {i : Nat} {c : Char}
    (char : cs[i]? = some c)
    (apart : ∀ l ∈ ls, offset + i < l.start ∨ l.stop ≤ offset + i) :
    Unicode.isBlank c = true := by
  induction h generalizing i with
  | finish blank => exact blank c (List.mem_of_getElem? char)
  | @lexeme offset start stop last blanks tail rest d t ls blank visible begins ends read others
      ih =>
    subst begins ends
    have first := apart _ List.mem_cons_self
    dsimp only at first
    rcases first with before | behind
    · rw [List.getElem?_append_left (by omega)] at char
      exact blank c (List.mem_of_getElem? char)
    · obtain ⟨k, rfl⟩ :=
        Nat.exists_eq_add_of_le (show blanks.length + (tail.length + 1) ≤ i by omega)
      have later : rest[k]? = some c := by
        rw [← char, ← List.cons_append, ← List.append_assoc, List.getElem?_append_right (by simp)]
        simp
      refine ih later fun l member => ?_
      have place := apart l (List.mem_cons_of_mem _ member)
      omega

theorem Tiled.exists_chars (h : Tiled offset cs ls last) (before : List Char)
    (length : before.length = offset) {l : Lexeme} (member : l ∈ ls) :
    ∃ c tail, l.span (before ++ cs) = c :: tail ∧ l.stop - l.start = tail.length + 1 ∧
      Unicode.isBlank c = false ∧ ∀ start rest, EndsLike [] rest →
        Scan.read start c (tail ++ rest) = .token l.token tail.length := by
  induction h generalizing before with
  | finish blank => cases member
  | @lexeme offset start stop last blanks tail rest c t ls blank visible begins ends read others
      ih =>
    subst begins ends
    rcases List.mem_cons.mp member with rfl | member
    · refine ⟨c, tail, ?_, by dsimp only; omega, visible, fun start rest' alike => ?_⟩
      · have drop : (before ++ (blanks ++ c :: (tail ++ rest))).drop (offset + blanks.length) =
            c :: (tail ++ rest) := by
          rw [← List.append_assoc, ← length, ← List.length_append, List.drop_left]
        have count : offset + blanks.length + (tail.length + 1) - (offset + blanks.length) =
            (c :: tail).length := by
          rw [Nat.add_sub_cancel_left, List.length_cons]
        rw [Lexeme.span, drop, count, ← List.cons_append, List.take_left]
      · exact read start rest' (alike.of_nil rest)
    · have found := ih (before ++ blanks ++ c :: tail) (by simp; omega) member
      simpa using found

end Reader

theorem insertFrom_inside {gaps : Nat → List Char} {place : Nat} (cs rest : List Char)
    (none : ∀ i, place ≤ i → i < place + cs.length → gaps i = []) :
    insertFrom gaps place (cs ++ rest) = cs ++ insertFrom gaps (place + cs.length) rest := by
  induction cs generalizing place with
  | nil => rfl
  | cons c cs ih =>
    have first := none place (Nat.le_refl _) (by simp)
    have later : ∀ i, place + 1 ≤ i → i < place + 1 + cs.length → gaps i = [] :=
      fun i low high => none i (by omega) (by rw [List.length_cons]; omega)
    have others := ih later
    rw [List.cons_append, insertFrom, first, others, List.length_cons, Nat.add_assoc,
      Nat.add_comm 1]
    rfl

section Insertion

variable {gaps : Nat → List Char} (blank : ∀ i, ∀ c ∈ gaps i, Unicode.isBlank c = true)
include blank

theorem insertFrom_blanks {blanks : List Char} (all : ∀ b ∈ blanks, Unicode.isBlank b = true)
    (place : Nat) (rest : List Char) : ∃ blanks', (∀ b ∈ blanks', Unicode.isBlank b = true) ∧
      insertFrom gaps place (blanks ++ rest) =
        blanks' ++ insertFrom gaps (place + blanks.length) rest := by
  induction blanks generalizing place with
  | nil => exact ⟨[], nofun, rfl⟩
  | cons b blanks ih =>
    obtain ⟨blanks', all', inserted⟩ :=
      ih (fun b' member => all b' (List.mem_cons_of_mem _ member)) (place + 1)
    refine ⟨gaps place ++ b :: blanks', fun b' member => ?_, ?_⟩
    · rcases List.mem_append.mp member with member | member
      · exact blank place b' member
      · rcases List.mem_cons.mp member with rfl | member
        · exact all b' List.mem_cons_self
        · exact all' b' member
    · rw [List.cons_append, insertFrom, inserted, List.length_cons, Nat.add_right_comm]
      simp [Nat.add_assoc]

/-- Blanks that are put in end what stands before them, as what they are put into did. -/
theorem endsLike_insertFrom (place : Nat) (rest : List Char) :
    EndsLike rest (insertFrom gaps place rest) := by
  intro c head
  cases rest with
  | nil => exact .inl (blank place c (List.mem_of_head? head))
  | cons d rest =>
    rw [insertFrom] at head
    cases gap : gaps place with
    | nil =>
      rw [gap] at head
      exact .inr head
    | cons b bs =>
      rw [gap] at head
      cases head
      exact .inl (blank place c (by rw [gap]; exact List.mem_cons_self))

theorem Reader.Tiled.insertFrom {offset last : Nat} {cs : List Char} {ls : List Lexeme}
    (h : Tiled offset cs ls last)
    (outside : ∀ l ∈ ls, ∀ i, l.start < i → i < l.stop → gaps i = []) (place : Nat) :
    ∃ ls' last', Tiled place (insertFrom gaps offset cs) ls' last' ∧
      ls'.map (·.token) = ls.map (·.token) := by
  induction h generalizing place with
  | @finish offset blanks all =>
    obtain ⟨blanks', all', inserted⟩ := insertFrom_blanks blank all offset []
    rw [List.append_nil] at inserted
    have whole : ∀ b ∈ blanks' ++ gaps (offset + blanks.length), Unicode.isBlank b = true :=
      fun b member => (List.mem_append.mp member).elim (all' b) (blank _ b)
    rw [inserted, RecordFilter.insertFrom]
    exact ⟨[], _, .finish whole, rfl⟩
  | @lexeme offset start stop last blanks tail rest c t ls all visible begins ends read others ih =>
    obtain ⟨blanks', all', inserted⟩ := insertFrom_blanks blank all offset (c :: (tail ++ rest))
    have whole : ∀ b ∈ blanks' ++ gaps start, Unicode.isBlank b = true :=
      fun b member => (List.mem_append.mp member).elim (all' b) (blank _ b)
    have uncut : ∀ i, start + 1 ≤ i → i < start + 1 + tail.length → gaps i = [] :=
      fun i low high => outside _ List.mem_cons_self i low (by dsimp only; omega)
    have text : RecordFilter.insertFrom gaps offset (blanks ++ c :: (tail ++ rest)) =
        (blanks' ++ gaps start) ++ c :: (tail ++ RecordFilter.insertFrom gaps stop rest) := by
      rw [inserted, ← begins, RecordFilter.insertFrom, insertFrom_inside tail rest uncut, ends,
        List.append_assoc, Nat.add_assoc, Nat.add_comm 1]
    let start' := place + (blanks' ++ gaps start).length
    obtain ⟨ls', last', later, same⟩ :=
      ih (fun l member => outside l (List.mem_cons_of_mem _ member)) (start' + (tail.length + 1))
    have alike := endsLike_insertFrom blank stop rest
    refine ⟨⟨t, start', start' + (tail.length + 1)⟩ :: ls', last', ?_, congrArg (t :: ·) same⟩
    rw [text]
    exact .lexeme whole visible rfl rfl
      (fun _ _ alike' => read _ _ (alike.trans alike')) later

end Insertion

/-- The tokens of a text take it apart: they increase, take characters and do not overlap, between
them is nothing but blanks, each is the same token by itself, and blanks put in anywhere but inside
them leave them as they are. -/
theorem tokenize_partitions {text : String} {ls : List Lexeme} {stop : Nat}
    (h : tokenize text = .ok (ls, stop)) : Partitions text ls stop := by
  have tiled := Reader.tiled_of_lexemes _ (tokenize_eq_ok.mp h)
  obtain ⟨spans, apart⟩ := tiled.spans
  refine ⟨?_, fun l member => (spans l member).2, apart, fun i c char none => ?_, ?_,
    fun l member => ?_, fun gaps blank outside => ?_⟩
  · refine List.pairwise_append.mpr ⟨?_, List.pairwise_singleton .., ?_⟩
    · refine List.pairwise_map.mpr (apart.imp_of_mem fun {l l'} member _ order => ?_)
      exact Nat.lt_of_lt_of_le (spans l member).2.1 order
    · intro place starts last same
      obtain ⟨l, member, rfl⟩ := List.mem_map.mp starts
      obtain rfl := List.mem_singleton.mp same
      have inside := (spans l member).2
      exact Nat.lt_of_lt_of_le inside.1 inside.2
  · exact tiled.blank_of_apart char (by simpa [Reader.ofText] using none)
  · rw [tiled.last_eq]
    simp [Reader.ofText, String.length_toList]
  · obtain ⟨c, tail, chars, length, visible, read⟩ := tiled.exists_chars [] rfl member
    have alone : Reader.Tiled 0 ([] ++ c :: (tail ++ [])) [⟨l.token, 0, 0 + (tail.length + 1)⟩]
        (0 + (tail.length + 1)) :=
      .lexeme (List.forall_mem_nil _) visible rfl rfl read (.finish (List.forall_mem_nil _))
    rw [List.nil_append, List.append_nil, Nat.zero_add] at alone
    rw [List.nil_append] at chars
    rw [show text.toList = (Reader.ofText text).rest from rfl, chars, length, tokenize_eq_ok,
      Reader.ofText, String.toList_ofList]
    exact alone.lexemes_eq
  · obtain ⟨ls', stop', tiled', same⟩ := tiled.insertFrom blank outside 0
    refine ⟨ls', stop', tokenize_eq_ok.mpr ?_, same⟩
    rw [← tiled'.lexemes_eq, Reader.ofText, insertGaps, String.toList_ofList]
    rfl

/-- Tokens that touch each other, and a blank at the end. -/
theorem tokenize_partitions_touching :
    tokenize "a<=-1 " =
      .ok ([⟨.key "a", 0, 1⟩, ⟨.comparator .lessEqual, 1, 3⟩, ⟨.number (.int32 (-1)), 3, 5⟩], 6) ∧
    Partitions "a<=-1 "
      [⟨.key "a", 0, 1⟩, ⟨.comparator .lessEqual, 1, 3⟩, ⟨.number (.int32 (-1)), 3, 5⟩] 6 := by
  have read : tokenize "a<=-1 " = .ok
      ([⟨.key "a", 0, 1⟩, ⟨.comparator .lessEqual, 1, 3⟩, ⟨.number (.int32 (-1)), 3, 5⟩], 6) := by
    cbv
  exact ⟨read, tokenize_partitions read⟩

end RecordFilter
