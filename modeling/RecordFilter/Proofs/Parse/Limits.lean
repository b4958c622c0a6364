import RecordFilter.Proofs.Bracket.Reading
import RecordFilter.Proofs.Parse.Acceptance
import RecordFilter.Proofs.Parse.Levels

namespace RecordFilter

variable {options : ParseOptions}

theorem Reader.length_lexemes_le (r : Reader) : r.lexemes.1.length ≤ r.rest.length := by
  fun_induction lexemes r with
  | case1 r l r' next shorter ls ending rest ih =>
    have below : ls.length ≤ r'.rest.length := by
      rw [rest] at ih
      exact ih
    have := next_lexeme_rest_length r l r' next
    simp only [List.length_cons]
    omega
  | case2 => exact Nat.zero_le _
  | case3 => exact Nat.zero_le _

theorem length_le_of_tokenize {text : String} {ls : List Lexeme} {stop : Nat}
    (h : tokenize text = .ok (ls, stop)) : ls.length ≤ text.length := by
  have short := (Reader.ofText text).length_lexemes_le
  rw [tokenize_eq_ok.mp h] at short
  exact String.length_toList ▸ short

/-- A text is read as an expression of the grammar within the limits, with the brackets of its
tokens. -/
theorem parse_eq_ok_iff {text : String} {p : Parsed} : parse text options = .ok p ↔
    ∃ ls stop, tokenize text = .ok (ls, stop) ∧
      Nested.Derives options.maxDepth 0 (ls.map (·.token)) p.expression ∧
      p.expression.depth ≤ options.maxExpressionDepth ∧
      p.brackets = (BracketReader.start.read ls).tree := by
  constructor
  · intro h
    obtain ⟨ls, stop, lexed⟩ := tokenize_of_parse h
    rw [parse_of_tokenize lexed] at h
    obtain ⟨derived, depth⟩ := derives_of_parseLexemes h
    exact ⟨ls, stop, lexed, derived, depth, brackets_of_parseLexemes h⟩
  · rintro ⟨ls, stop, lexed, derived, depth, brackets⟩
    rw [parse_of_tokenize lexed]
    obtain ⟨q, read, same⟩ := map_eq_ok.mp (parseLexemes_of_derives stop derived depth)
    have whole : q = p := by
      obtain ⟨e, t⟩ := q
      obtain ⟨e', t'⟩ := p
      rw [Parsed.mk.injEq]
      exact ⟨same, (brackets_of_parseLexemes read).trans brackets.symm⟩
    rw [read, whole]

theorem Expression.depth_le_iff {e : Expression} {limit : Nat} :
    e.depth ≤ limit ↔ ∀ c, e = .condition c → c.depth ≤ limit := by
  cases e with
  | operand => simp [Expression.depth]
  | condition => simp [Expression.depth]

/-- The limits refuse a text that is read without them just where a negation or a bracket stands on
a level beyond the one or the tree is higher than the other. So what is read within some limits is
read as the same within higher ones. -/
theorem parse_eq_ok_iff_unlimited {text : String} (options unlimited : ParseOptions)
    (nesting : text.length ≤ unlimited.maxDepth)
    (height : text.length ≤ unlimited.maxExpressionDepth) (p : Parsed) :
    (parse text options = .ok p ↔ parse text unlimited = .ok p ∧
      (∃ ls stop, tokenize text = .ok (ls, stop) ∧
        ∀ n ∈ LevelReader.start.levels (ls.map (·.token)), n ≤ options.maxDepth) ∧
      ∀ c, p.expression = .condition c → c.depth ≤ options.maxExpressionDepth) ∧
    ∀ higher : ParseOptions, options.maxDepth ≤ higher.maxDepth →
      options.maxExpressionDepth ≤ higher.maxExpressionDepth →
      parse text options = .ok p → parse text higher = .ok p := by
  simp only [parse_eq_ok_iff, ← Expression.depth_le_iff, Nested.derives_iff]
  refine ⟨⟨?_, ?_⟩, ?_⟩
  · rintro ⟨ls, stop, lexed, ⟨derived, within⟩, depth, brackets⟩
    have short : (ls.map (·.token)).length ≤ text.length := by
      rw [List.length_map]
      exact length_le_of_tokenize lexed
    have nested := derived.nested (Nat.le_trans short nesting)
    have low := Nat.le_trans derived.depth_le (Nat.le_trans short height)
    exact ⟨⟨ls, stop, lexed, ⟨derived, nested.within⟩, low, brackets⟩, ⟨ls, stop, lexed, within⟩,
      depth⟩
  · rintro ⟨⟨ls, stop, lexed, ⟨derived, -⟩, -, brackets⟩, ⟨ls', stop', lexed', within⟩, depth⟩
    cases lexed.symm.trans lexed'
    exact ⟨ls, stop, lexed, ⟨derived, within⟩, depth, brackets⟩
  · rintro higher deeper taller ⟨ls, stop, lexed, ⟨derived, within⟩, depth, brackets⟩
    exact ⟨ls, stop, lexed, ⟨derived, fun n member => Nat.le_trans (within n member) deeper⟩,
      Nat.le_trans depth taller, brackets⟩

/-- Negations on both sides of a value in brackets, within limits that are just large enough. -/
theorem parse_eq_ok_iff_unlimited_negations :
    "NOT (a) NOT = ?".length ≤ 64 ∧ "NOT (a) NOT = ?".length ≤ 256 ∧
    ∃ p, parse "NOT (a) NOT = ?" ⟨2, 3⟩ = .ok p ∧ parse "NOT (a) NOT = ?" ⟨64, 256⟩ = .ok p ∧
      (∃ ls stop, tokenize "NOT (a) NOT = ?" = .ok (ls, stop) ∧
        ∀ n ∈ LevelReader.start.levels (ls.map (·.token)), n ≤ 2) ∧
      ∀ c, p.expression = .condition c → c.depth ≤ 3 := by
  have nesting : "NOT (a) NOT = ?".length ≤ 64 := by decide
  have height : "NOT (a) NOT = ?".length ≤ 256 := by decide
  have read : parse "NOT (a) NOT = ?" ⟨2, 3⟩ = .ok ⟨.condition (.negation (.negation
      (.comparison ⟨.key "a", .equal, .placeholder, none, rfl⟩))),
      ⟨#[⟨.group, 4, some 6, none, []⟩]⟩⟩ := by cbv
  exact ⟨nesting, height, _, read,
    (parse_eq_ok_iff_unlimited ⟨2, 3⟩ ⟨64, 256⟩ nesting height _).1.mp read⟩

end RecordFilter
