import RecordFilter.Proofs.Token.Partition

namespace RecordFilter

open Numeral (isDigit)

namespace Scan

/-- A string that does not end is at fault where it starts, and one with a bad escape at the
backslash, which is still to be read when the string is. -/
theorem string_error {start passed n : Nat} {quote : Char} {content cs : List Char} {e : LexError}
    (h : string start quote passed content cs = .error e n) :
    e.offset ≤ start + passed + cs.length := by
  fun_induction string start quote passed content cs with
  | case1 =>
    cases h
    exact Nat.le_trans (Nat.le_add_right ..) (Nat.le_add_right ..)
  | case2 =>
    cases h
    exact Nat.le_trans (Nat.le_add_right ..) (Nat.le_add_right ..)
  | case3 passed content c rest e escape ih =>
    have later := ih h
    simp only [List.length_cons]
    omega
  | case4 =>
    cases h
    exact Nat.le_add_right ..
  | case5 => cases h
  | case6 passed content c rest escape other ih =>
    have later := ih h
    simp only [List.length_cons]
    omega

theorem word_error {start n : Nat} {name : List Char} {e : LexError}
    (h : word start name = .error e n) : e.offset = start := by
  unfold word at h
  dsimp only at h
  split at h
  case h_4 =>
    split at h <;> cases h
    all_goals rfl
  all_goals cases h

theorem integer_error {start n : Nat} {negative : Bool} {digits text : List Char} {e : LexError}
    (h : integer start negative digits text = .error e n) : e.offset = start := by
  unfold integer at h
  dsimp only at h
  split at h <;> cases h
  rfl

theorem double_error {start n : Nat} {negative : Bool}
    {whole fraction mark digits text : List Char} {e : LexError}
    (h : double start negative whole fraction mark digits text = .error e n) :
    e.offset = start := by
  unfold double at h
  dsimp only at h
  split at h <;> cases h
  rfl

theorem number_error {start n : Nat} {text : List Char} {e : LexError}
    (h : number start text = .error e n) : e.offset = start := by
  obtain ⟨p, rest, rfl, before⟩ := Parts.exists_before text
  rw [before.number_eq] at h
  unfold Parts.scan at h
  dsimp only at h
  split at h
  · cases h
    rfl
  · split at h
    · cases h
      rfl
    · split at h
      · cases h
        rfl
      · split at h
        · exact double_error h
        · exact integer_error h

theorem read_error {start n : Nat} {c : Char} {cs : List Char} {e : LexError}
    (h : read start c cs = .error e n) : e.offset ≤ start + (c :: cs).length := by
  have inString {quote : Char} (h : string start quote 1 [] cs = .error e n) :
      e.offset ≤ start + (c :: cs).length := by
    have place := string_error h
    rw [List.length_cons]
    omega
  unfold read at h
  split at h
  case h_17 | h_18 => exact inString h
  case h_19 =>
    have atStart : e.offset = start := by
      split at h
      · exact number_error h
      · split at h
        · exact word_error h
        · cases h
          rfl
    omega
  all_goals cases h

end Scan

namespace Reader

def last (r : Reader) : Nat := r.offset + r.rest.length

theorem last_skipBlanks (r : Reader) : r.skipBlanks.last = r.last := by
  obtain ⟨blanks, text, place, -⟩ := r.exists_blanks
  rw [last, last, text, place, List.length_append, Nat.add_assoc]

theorem next_lexeme_last {r r' : Reader} {l : Lexeme} (h : r.next = (.lexeme l, r')) :
    l.start < r.last ∧ r'.last = r.last := by
  rw [← r.last_skipBlanks]
  unfold next at h
  dsimp only at h
  split at h
  · cases h
  · next c cs front =>
    split at h
    · next t more read =>
      cases h
      obtain ⟨tail, rest, rfl, rfl, -⟩ := Scan.read_again read
      have left : (r.skipBlanks.advance (tail.length + 1)).rest = rest := by
        simp [advance, front]
      rw [last, last, left, front]
      simp only [advance, List.length_cons, List.length_append]
      omega
    · cases h

theorem next_finish_last {r r' : Reader} {n : Nat} (h : r.next = (.finish n, r')) : n = r.last :=
  (tiled_of_finish h).last_eq

theorem next_error_last {r r' : Reader} {e : LexError} (h : r.next = (.error e, r')) :
    e.offset ≤ r.last := by
  rw [← r.last_skipBlanks]
  unfold next at h
  dsimp only at h
  split at h
  · cases h
  · next c cs front =>
    split at h
    · cases h
    · next e passed read =>
      cases h
      rw [last, front]
      exact Scan.read_error read

/-- What is read of a text stands in it. -/
structure Within (last : Nat) (ls : List Lexeme) (ending : Except LexError Nat) : Prop where
  starts : ∀ l ∈ ls, l.start < last
  finish : ∀ n, ending = .ok n → n = last
  error : ∀ e, ending = .error e → e.offset ≤ last

theorem lexemes_within (r : Reader) : Within r.last r.lexemes.1 r.lexemes.2 := by
  fun_induction lexemes r with
  | case1 r l r' next shorter ls ending others ih =>
    obtain ⟨inside, same⟩ := next_lexeme_last next
    rw [others, same] at ih
    exact ⟨List.forall_mem_cons.mpr ⟨inside, ih.starts⟩, ih.finish, ih.error⟩
  | case2 r n r' next =>
    refine ⟨List.forall_mem_nil _, fun m same => ?_, fun e same => ?_⟩
    · cases same
      exact next_finish_last next
    · cases same
  | case3 r e r' next =>
    refine ⟨List.forall_mem_nil _, fun m same => ?_, fun e' same => ?_⟩
    · cases same
    · cases same
      exact next_error_last next

theorem lexemes_ofText_within (text : String) :
    Within text.length (ofText text).lexemes.1 (ofText text).lexemes.2 := by
  have last : (ofText text).last = text.length := by
    simp [last, ofText, String.length_toList]
  rw [← last]
  exact lexemes_within (ofText text)

end Reader
end RecordFilter
