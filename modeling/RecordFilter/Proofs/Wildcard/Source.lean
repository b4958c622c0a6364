import RecordFilter.Proofs.Wildcard.Matching

namespace RecordFilter.Wildcard

open Regex (PatternState Piece SpansAll)

def spellChar : Char → List Char
  | '%' => ['.', '*']
  | '_' => ['.']
  | c => escaped [c]

theorem spellChar_eq {c : Char} (other : c ≠ '%') (other' : c ≠ '_') :
    spellChar c = if isMeta c then ['\\', c] else [c] := by
  have self : spellChar c = escaped [c] := by
    rw [spellChar]
    · exact other
    · exact other'
  rw [self, escaped, List.flatMap_singleton]

theorem spell_eq (literal cs : List Char) :
    spell literal cs = escaped literal ++ (cs.flatMap spellChar ++ ['$']) := by
  induction literal, cs using spell.induct with
  | case1 literal => rfl
  | case2 literal cs ih =>
    rw [spell, ih]
    rfl
  | case3 literal cs ih =>
    rw [spell, ih]
    rfl
  | case4 literal c cs other other' ih =>
    have kept : spell literal (c :: cs) = spell (literal ++ [c]) cs := by
      rw [spell]
      · exact other
      · exact other'
    rw [kept, ih, List.flatMap_cons, spellChar_eq other other']
    simp [escaped]

theorem head_spelled (cs : List Char) : (cs.flatMap spellChar ++ ['$']).head? ≠ some '?' := by
  cases cs with
  | nil => decide
  | cons c cs =>
    rw [List.flatMap_cons]
    by_cases other : c = '%'
    · rw [other]
      simp [spellChar]
    · by_cases other' : c = '_'
      · rw [other']
        simp [spellChar]
      · rw [spellChar_eq other other']
        cases special : isMeta c with
        | true => simp
        | false =>
          have plain : c ≠ '?' := by
            rintro rfl
            exact absurd special (by decide)
          simpa using plain

def piece (c : Char) : Piece := ⟨charRegex c, if c = '%' then 1 else 0, true⟩

theorem piece_eq {c : Char} (other : c ≠ '%') (other' : c ≠ '_') :
    piece c = ⟨.literal [c], 0, true⟩ := by
  rw [piece, if_neg other, charRegex]
  · exact other
  · exact other'

/-- Inside the text of a pattern, where these parts have been read, the last first. -/
def reading (ps : List Piece) : PatternState := ⟨{ dotAll := true }, [], 0, ⟨none, {}, [], ps⟩, []⟩

def opening : List Piece := [⟨.anchor .textStart, 0, true⟩, ⟨.empty, 0, false⟩]

def ending : Piece := ⟨.anchor .textStop, 0, true⟩

theorem finish?_start (n : Nat) (rest : List Char) :
    PatternState.start.finish? (n + 2) ('(' :: '?' :: 's' :: ')' :: '^' :: rest) =
      (reading opening).finish? n rest := rfl

theorem finish?_of_read {ps ps' : List Piece} {c : Char} {cs rest : List Char} (n : Nat)
    (read : (reading ps).read c cs = some (reading ps', rest)) :
    (reading ps).finish? (n + 1) (c :: cs) = (reading ps').finish? n rest := by
  have skipped : (reading ps).flags.skip (c :: cs) = c :: cs := rfl
  simp only [PatternState.finish?, skipped, read]

theorem literal?_eq (c : Char) :
    Regex.literal? { dotAll := true } c false = some (.literal [c]) := by
  have only : (CharSet.single c).only? = some c := by
    simp [CharSet.only?, CharSet.single]
  show some (Regex.ofSet (.single c)) = _
  rw [Regex.ofSet, only]

theorem read_dot (ps : List Piece) (rest : List Char) :
    (reading ps).read '.' rest = some (reading (piece '_' :: ps), rest) := rfl

theorem read_star (ps : List Piece) {rest : List Char} (plain : rest.head? ≠ some '?') :
    (reading (piece '_' :: ps)).read '*' rest = some (reading (piece '%' :: ps), rest) := by
  have unmarked : Regex.lazyMark rest = (false, rest) := by
    cases rest with
    | nil => rfl
    | cons c cs =>
      rw [Regex.lazyMark]
      intro cs' marked
      cases marked
      exact plain rfl
  have repeated : Regex.repetition (.set .all) 0 none false = charRegex '%' := by decide
  show (reading (piece '_' :: ps)).repeatLast 0 none rest = _
  rw [PatternState.repeatLast, unmarked]
  show some (reading (⟨Regex.repetition (.set .all) 0 none false, 1, true⟩ :: ps), rest) = _
  rw [repeated]
  rfl

theorem escape_of_isMeta {c : Char} (rest : List Char) (special : isMeta c = true) :
    Regex.escape { dotAll := true } (c :: rest) = some (.literal c false, rest) := by
  simp only [isMeta, List.contains_iff_mem, List.mem_cons, List.not_mem_nil, or_false] at special
  rcases special with rfl | rfl | rfl | rfl | rfl | rfl | rfl | rfl | rfl | rfl | rfl | rfl | rfl |
    rfl | rfl | rfl | rfl | rfl <;> rfl

theorem read_escaped (ps : List Piece) {c : Char} (rest : List Char) (special : isMeta c = true) :
    (reading ps).read '\\' (c :: rest) = some (reading (⟨.literal [c], 0, true⟩ :: ps), rest) := by
  have read : (reading ps).read '\\' (c :: rest) =
      (Regex.escape { dotAll := true } (c :: rest)).bind fun x =>
        (x.1.regex? { dotAll := true }).bind fun r => some ((reading ps).add r 0, x.2) := rfl
  rw [read, escape_of_isMeta rest special, Option.bind_some, Regex.Atom.regex?, literal?_eq]
  rfl

theorem read_plain (ps : List Piece) {c : Char} (rest : List Char) (plain : isMeta c = false) :
    (reading ps).read c rest = some (reading (⟨.literal [c], 0, true⟩ :: ps), rest) := by
  have read : (reading ps).read c rest =
      (Regex.literal? { dotAll := true } c false).map fun r => ((reading ps).add r 0, rest) := by
    rw [PatternState.read]
    · rfl
    all_goals
      rintro rfl
      exact absurd plain (by decide)
  rw [read, literal?_eq]
  rfl

/-- One character of the pattern gives one part, and the rounds suffice for the rest. -/
theorem finish?_spellChar (ps : List Piece) (c : Char) {rest : List Char}
    (plain : rest.head? ≠ some '?') {n : Nat} (enough : (spellChar c ++ rest).length < n) :
    ∃ m, rest.length < m ∧ (reading ps).finish? n (spellChar c ++ rest) =
      (reading (piece c :: ps)).finish? m rest := by
  have round (used : 0 < n) : ∃ m, m + 1 = n := ⟨n - 1, by omega⟩
  obtain ⟨m, rfl⟩ := round (by omega)
  by_cases other : c = '%'
  · subst other
    have enough : rest.length + 2 < m + 1 := enough
    obtain ⟨m, rfl⟩ : ∃ k, k + 1 = m := ⟨m - 1, by omega⟩
    refine ⟨m, by omega, ?_⟩
    exact (finish?_of_read (m + 1) (read_dot ps _)).trans (finish?_of_read m (read_star ps plain))
  · by_cases other' : c = '_'
    · subst other'
      exact ⟨m, Nat.lt_of_succ_lt_succ enough, finish?_of_read m (read_dot ps rest)⟩
    · rw [spellChar_eq other other', List.length_append] at enough
      rw [spellChar_eq other other', piece_eq other other']
      cases special : isMeta c with
      | true =>
        simp only [special, if_true, List.length_cons, List.length_nil] at enough
        exact ⟨m, by omega, finish?_of_read m (read_escaped ps rest special)⟩
      | false =>
        simp only [special, Bool.false_eq_true, if_false, List.length_singleton] at enough
        exact ⟨m, by omega, finish?_of_read m (read_plain ps rest special)⟩

theorem finish?_spelled (cs : List Char) (ps : List Piece) {n : Nat}
    (enough : (cs.flatMap spellChar ++ ['$']).length < n) :
    (reading ps).finish? n (cs.flatMap spellChar ++ ['$']) =
      some (reading (ending :: ((cs.map piece).reverse ++ ps))).group.close := by
  induction cs generalizing ps n with
  | nil =>
    obtain ⟨n, rfl⟩ := Nat.exists_eq_add_of_le' enough
    rfl
  | cons c cs ih =>
    rw [List.flatMap_cons, List.append_assoc] at enough ⊢
    obtain ⟨m, enough, read⟩ := finish?_spellChar ps c (head_spelled cs) enough
    rw [read, ih _ enough, List.map_cons, List.reverse_cons, List.append_assoc]
    rfl

def expression (pattern : String) : Regex := .sequence (.empty :: parts pattern)

theorem tallest_le {ps : List Piece} {h : Nat} (low : ∀ p ∈ ps, p.height ≤ h) :
    Regex.tallest ps ≤ h := by
  have bounded (ps : List Piece) (low : ∀ p ∈ ps, p.height ≤ h) (m : Nat) (base : m ≤ h) :
      ps.foldl (fun h p => max h p.height) m ≤ h := by
    induction ps generalizing m with
    | nil => exact base
    | cons p ps ih =>
      obtain ⟨first, others⟩ := List.forall_mem_cons.mp low
      exact ih others _ (Nat.max_le.mpr ⟨base, first⟩)
  exact bounded ps low 0 h.zero_le

def pieces (pattern : String) : List Piece :=
  ending :: ((pattern.toList.map piece).reverse ++ opening)

theorem close_reading (pattern : String) :
    ∃ height ≤ 2, (reading (pieces pattern)).group.close =
      ⟨expression pattern, height, true⟩ := by
  generalize whole : pieces pattern = ps
  rw [pieces] at whole
  have low : ∀ p ∈ ps, p.height ≤ 1 := by
    intro p member
    rw [← whole] at member
    simp only [opening, List.mem_cons, List.mem_append, List.mem_reverse, List.mem_map,
      List.not_mem_nil, or_false] at member
    rcases member with rfl | ⟨c, -, rfl⟩ | rfl | rfl
    · exact Nat.zero_le 1
    · simp only [piece]
      split <;> decide
    · exact Nat.zero_le 1
    · exact Nat.zero_le 1
  have inOrder : ps.reverse.map (·.regex) = .empty :: parts pattern := by
    simp [← whole, piece, parts, opening, ending]
  have close : (reading ps).group.close =
      ⟨.sequence (ps.reverse.map (·.regex)), Regex.tallest ps + 1, true⟩ := by
    rw [← whole]
    cases (pattern.toList.map piece).reverse <;> rfl
  refine ⟨Regex.tallest ps + 1, Nat.succ_le_succ (tallest_le low), ?_⟩
  rw [close, inOrder, expression]

theorem ofPattern?_source (pattern : String) :
    Regex.ofPattern? (source pattern) =
      if (expression pattern).fits then some (expression pattern) else none := by
  generalize spelled : pattern.toList.flatMap spellChar ++ ['$'] = rest
  have text : (source pattern).toList = '(' :: '?' :: 's' :: ')' :: '^' :: rest := by
    rw [source, String.toList_ofList, spell_eq, spelled]
    rfl
  have rounds : (source pattern).toList.length + 1 = rest.length + 4 + 2 := by
    rw [text]
    rfl
  obtain ⟨height, low, closed⟩ := close_reading pattern
  have read : PatternState.start.finish? (rest.length + 4 + 2)
      ('(' :: '?' :: 's' :: ')' :: '^' :: rest) = some ⟨expression pattern, height, true⟩ := by
    rw [finish?_start, ← spelled, finish?_spelled pattern.toList opening (by omega), ← pieces,
      closed]
  have shallow : height ≤ Regex.nestLimit := low.trans (by decide)
  rw [Regex.ofPattern?, rounds, text, read]
  simp only [shallow, decide_true, Bool.true_and]

theorem isMatch_expression_iff (pattern text : String) :
    (expression pattern).isMatch text = true ↔
      ∃ runs, runs.flatten = text.toList ∧ List.Forall₂ Stands pattern.toList runs := by
  have countable : (expression pattern).Countable := by
    refine Regex.countable_sequence (List.forall_mem_cons.mpr ⟨trivial, ?_⟩)
    exact countable_parts pattern
  refine isMatch_iff_of_parts countable (fun text i k => ?_) text
  rw [expression, Regex.spans_sequence, SpansAll]
  simp only [Regex.spans_empty_iff, exists_eq_left']

/-- A key can be compared with any pattern, and a text fits where it can be cut into runs that the
characters of the pattern stand for, with nothing left over. Spelled out as a text, the pattern is
read as an expression that matches the same, unless that gets too large. -/
theorem like_matches (key pattern : String) :
    ∃ c matcher, Comparison.make (.key key) .like (.string pattern) = .ok c ∧
      c.matcher = some matcher ∧
      (∀ text : String, matcher.isMatch text = true ↔
        ∃ runs, runs.flatten = text.toList ∧ List.Forall₂ Stands pattern.toList runs) ∧
      ∃ r : Regex, (Regex.ofPattern? (source pattern) = if r.fits then some r else none) ∧
        ∀ text, r.isMatch text = matcher.isMatch text := by
  let c : Comparison := ⟨.key key, .like, .string pattern, some (regex pattern), rfl⟩
  refine ⟨c, regex pattern, rfl, rfl, isMatch_regex_iff pattern, expression pattern,
    ofPattern?_source pattern, fun text => ?_⟩
  rw [Bool.eq_iff_iff, isMatch_expression_iff, isMatch_regex_iff]

end RecordFilter.Wildcard
