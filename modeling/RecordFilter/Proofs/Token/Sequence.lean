import RecordFilter.Proofs.Parse.Grammar
import RecordFilter.Proofs.Token.Spelling

namespace RecordFilter

namespace Reader

theorem lexemes_eq (r : Reader) :
    r.lexemes = match r.next with
      | (.lexeme l, r') => (l :: r'.lexemes.1, r'.lexemes.2)
      | (.finish n, _) => ([], .ok n)
      | (.error e, _) => ([], .error e) := by
  rw [lexemes]
  split <;> simp_all

theorem lexemes_nil (offset : Nat) : (Reader.mk [] offset).lexemes = ([], .ok offset) := by
  rw [lexemes_eq]
  rfl

def Passes (r : Reader) (ts : List Token) (r' : Reader) : Prop :=
  ∃ ls : List Lexeme, ls.map (·.token) = ts ∧ r.lexemes = (ls ++ r'.lexemes.1, r'.lexemes.2)

theorem Passes.trans {r r' r'' : Reader} {ts us : List Token} (first : r.Passes ts r')
    (second : r'.Passes us r'') : r.Passes (ts ++ us) r'' := by
  obtain ⟨ls, rfl, h⟩ := first
  obtain ⟨ms, rfl, h'⟩ := second
  refine ⟨ls ++ ms, List.map_append, ?_⟩
  rw [h, h', List.append_assoc]

theorem skipBlanks_visible {c : Char} (rest : List Char) (offset : Nat)
    (visible : Unicode.isBlank c = false) :
    (Reader.mk (c :: rest) offset).skipBlanks = ⟨c :: rest, offset⟩ := by
  simp [skipBlanks, advance, visible]

theorem skipBlanks_blank {c : Char} (rest : List Char) (offset : Nat)
    (blank : Unicode.isBlank c = true) :
    (Reader.mk (c :: rest) offset).skipBlanks = (Reader.mk rest (offset + 1)).skipBlanks := by
  simp [skipBlanks, advance, blank]
  omega

theorem passes_blank {c : Char} (rest : List Char) (offset : Nat)
    (blank : Unicode.isBlank c = true) :
    (Reader.mk (c :: rest) offset).Passes [] ⟨rest, offset + 1⟩ := by
  have next : (Reader.mk (c :: rest) offset).next = (Reader.mk rest (offset + 1)).next := by
    simp only [Reader.next, skipBlanks_blank rest offset blank]
  refine ⟨[], rfl, ?_⟩
  rw [lexemes_eq, next, ← lexemes_eq]
  rfl

theorem passes_token {c : Char} {rest : List Char} {offset more : Nat} {t : Token}
    (visible : Unicode.isBlank c = false) (read : Scan.read offset c rest = .token t more) :
    (Reader.mk (c :: rest) offset).Passes [t] ⟨rest.drop more, offset + (more + 1)⟩ := by
  have next : (Reader.mk (c :: rest) offset).next =
      (.lexeme ⟨t, offset, offset + (more + 1)⟩, ⟨rest.drop more, offset + (more + 1)⟩) := by
    simp [Reader.next, skipBlanks_visible rest offset visible, read, advance]
  refine ⟨[⟨t, offset, offset + (more + 1)⟩], rfl, ?_⟩
  rw [lexemes_eq, next]
  rfl

theorem passes_symbol {c : Char} (rest : List Char) (offset : Nat) {t : Token}
    (visible : Unicode.isBlank c = false) (read : Scan.read offset c rest = .token t 0) :
    (Reader.mk (c :: rest) offset).Passes [t] ⟨rest, offset + 1⟩ :=
  passes_token visible read

theorem next_legible {r r' : Reader} {l : Lexeme} (h : r.next = (.lexeme l, r')) :
    l.token.Legible := by
  unfold Reader.next at h
  dsimp only at h
  split at h
  · cases h
  · split at h
    · next read =>
      injection h with h
      injection h with h
      exact h ▸ Scan.read_legible read
    · cases h

theorem legible_of_mem {r : Reader} {l : Lexeme} (h : l ∈ r.lexemes.1) : l.token.Legible := by
  fun_induction lexemes r with
  | case1 r l' r' next shorter ls ending rest ih =>
    rcases List.mem_cons.mp h with rfl | h
    · exact next_legible next
    · exact ih (by rw [rest]; exact h)
  | case2 => cases h
  | case3 => cases h

end Reader

/-- A text that is read as these tokens before anything that ends a token. -/
def Spells (cs : List Char) (ts : List Token) : Prop :=
  ∀ rest, Boundary rest → ∀ offset, ∃ stop,
    (Reader.mk (cs ++ rest) offset).Passes ts ⟨rest, stop⟩

theorem Token.Spelled.spells {t : Token} {cs : List Char} (h : t.Spelled cs) : Spells cs [t] := by
  obtain ⟨c, tail, rfl, visible, read⟩ := h
  intro rest boundary offset
  have passed := Reader.passes_token visible (read offset rest boundary)
  rw [List.drop_left] at passed
  exact ⟨_, passed⟩

namespace Spells

open Grammar (bracketed)

variable {a b cs : List Char} {ts us : List Token}

theorem nil : Spells [] [] := fun _ _ offset => ⟨offset, [], rfl, rfl⟩

theorem spaced (left : Spells a ts) (right : Spells b us) : Spells (a ++ ' ' :: b) (ts ++ us) := by
  intro rest boundary offset
  obtain ⟨m, first⟩ := left (' ' :: (b ++ rest)) (.cons _ (.inl rfl)) offset
  obtain ⟨n, second⟩ := right rest boundary (m + 1)
  have blank := Reader.passes_blank (b ++ rest) m (show Unicode.isBlank ' ' = true from rfl)
  refine ⟨n, ?_⟩
  rw [List.append_assoc, List.cons_append]
  exact first.trans (blank.trans second)

theorem listed (left : Spells a ts) (right : Spells b us) :
    Spells (a ++ ',' :: ' ' :: b) (ts ++ .comma :: us) := by
  intro rest boundary offset
  obtain ⟨m, first⟩ := left (',' :: ' ' :: (b ++ rest)) (.cons _ (.inr (.inr rfl))) offset
  obtain ⟨n, second⟩ := right rest boundary (m + 1 + 1)
  have comma : (Reader.mk (',' :: ' ' :: (b ++ rest)) m).Passes [.comma]
      ⟨' ' :: (b ++ rest), m + 1⟩ := Reader.passes_symbol _ _ rfl rfl
  have blank := Reader.passes_blank (b ++ rest) (m + 1) (show Unicode.isBlank ' ' = true from rfl)
  refine ⟨n, ?_⟩
  rw [List.append_assoc, List.cons_append, List.cons_append]
  exact first.trans (comma.trans (blank.trans second))

theorem bracketed (inner : Spells cs ts) : Spells ('(' :: cs ++ [')']) (bracketed ts) := by
  intro rest boundary offset
  obtain ⟨m, middle⟩ := inner (')' :: rest) (.cons _ (.inr (.inl rfl))) (offset + 1)
  have left : (Reader.mk ('(' :: (cs ++ ')' :: rest)) offset).Passes [.leftParen]
      ⟨cs ++ ')' :: rest, offset + 1⟩ := Reader.passes_symbol _ _ rfl rfl
  have right : (Reader.mk (')' :: rest) m).Passes [.rightParen] ⟨rest, m + 1⟩ :=
    Reader.passes_symbol _ _ rfl rfl
  refine ⟨m + 1, ?_⟩
  rw [List.append_assoc, List.cons_append, List.singleton_append]
  exact left.trans (middle.trans right)

end Spells

theorem Spells.tokenize {cs : List Char} {ts : List Token} (h : Spells cs ts) :
    ∃ ls stop, RecordFilter.tokenize (String.ofList cs) = .ok (ls, stop) ∧
      ls.map (·.token) = ts := by
  obtain ⟨stop, ls, tokens, read⟩ := h [] .nil 0
  rw [List.append_nil, Reader.lexemes_nil, List.append_nil] at read
  refine ⟨ls, stop, ?_, tokens⟩
  rw [RecordFilter.tokenize, Reader.ofText, String.toList_ofList, read]

end RecordFilter
