import RecordFilter.Proofs.Parse.Completeness
import RecordFilter.Proofs.Parse.Soundness

namespace RecordFilter

variable {options : ParseOptions}

theorem tokenize_eq_ok {text : String} {ls : List Lexeme} {stop : Nat} :
    tokenize text = .ok (ls, stop) ↔ (Reader.ofText text).lexemes = (ls, .ok stop) := by
  unfold tokenize
  split
  · next h => simp [h]
  · next h => simp [h]

theorem parse_of_tokenize {text : String} {ls : List Lexeme} {stop : Nat}
    (h : tokenize text = .ok (ls, stop)) : parse text options = parseLexemes options ls stop := by
  rw [parse, tokenize_eq_ok.mp h]

theorem tokenize_of_parse {text : String} {p : Parsed} (h : parse text options = .ok p) :
    ∃ ls stop, tokenize text = .ok (ls, stop) := by
  unfold parse at h
  split at h
  · next ls stop lexed => exact ⟨ls, stop, tokenize_eq_ok.mpr lexed⟩
  · obtain ⟨s, -, h⟩ := bind_eq_ok.mp h
    cases h

theorem Expression.parse_eq_ok {text : String} {e : Expression} :
    Expression.parse text options = .ok e ↔ ∃ ls stop, tokenize text = .ok (ls, stop) ∧
      (parseLexemes options ls stop).map (·.expression) = .ok e := by
  unfold Expression.parse RecordFilter.parse
  constructor
  · intro h
    split at h
    · next ls stop lexed => exact ⟨ls, stop, tokenize_eq_ok.mpr lexed, h⟩
    · next ls fault lexed =>
      obtain ⟨parsed, h, -⟩ := map_eq_ok.mp h
      obtain ⟨s, -, h⟩ := bind_eq_ok.mp h
      cases h
  · rintro ⟨ls, stop, lexed, h⟩
    rw [tokenize_eq_ok.mp lexed]
    exact h

/-- A text is read if and only if its tokens have a derivation within the limits. -/
theorem Expression.parse_eq_ok_iff_nested {text : String} {e : Expression} :
    Expression.parse text options = .ok e ↔ ∃ ls stop, tokenize text = .ok (ls, stop) ∧
      Nested.Derives options.maxDepth 0 (ls.map (·.token)) e ∧
      e.depth ≤ options.maxExpressionDepth := by
  rw [Expression.parse_eq_ok]
  constructor
  · rintro ⟨ls, stop, lexed, h⟩
    obtain ⟨parsed, read, rfl⟩ := map_eq_ok.mp h
    exact ⟨ls, stop, lexed, derives_of_parseLexemes read⟩
  · rintro ⟨ls, stop, lexed, derived, depth⟩
    exact ⟨ls, stop, lexed, parseLexemes_of_derives stop derived depth⟩

namespace Grammar

theorem Derives.nested {ts : List Token} {e : Expression} (h : Derives ts e) {limit : Nat}
    (room : ts.length ≤ limit) : Nested.Derives limit 0 ts e := by
  cases h with
  | operand bare => exact .operand (bare.nested (by omega))
  | condition logic => exact .condition (logic.nested (by omega))

theorem Derives.depth_le {ts : List Token} {e : Expression} (h : Derives ts e) :
    e.depth ≤ ts.length := by
  cases h with
  | operand => exact Nat.zero_le _
  | condition logic => exact logic.depth_le

end Grammar

/-- Limits that leave room for every token decide nothing: the grammar alone says which texts are
read, and as what. -/
theorem Expression.parse_eq_ok_iff_derives (text : String) (options : ParseOptions) (e : Expression)
    (room : ∀ ls stop, tokenize text = .ok (ls, stop) →
      ls.length ≤ options.maxDepth ∧ ls.length ≤ options.maxExpressionDepth) :
    Expression.parse text options = .ok e ↔ ∃ ls stop, tokenize text = .ok (ls, stop) ∧
      Grammar.Derives (ls.map (·.token)) e := by
  rw [Expression.parse_eq_ok_iff_nested]
  constructor
  · rintro ⟨ls, stop, lexed, derived, -⟩
    exact ⟨ls, stop, lexed, derived.plain⟩
  · rintro ⟨ls, stop, lexed, derived⟩
    obtain ⟨nesting, height⟩ := room ls stop lexed
    have depth : e.depth ≤ ls.length := by simpa using derived.depth_le
    exact ⟨ls, stop, lexed, derived.nested (by simpa using nesting), Nat.le_trans depth height⟩

/-- Negations in front of a comparison and inside it, with limits that are just large enough. -/
theorem Expression.parse_eq_ok_iff_derives_negations :
    (∀ ls stop, tokenize "NOT (a) NOT = ?" = .ok (ls, stop) →
      ls.length ≤ (⟨7, 7⟩ : ParseOptions).maxDepth ∧
        ls.length ≤ (⟨7, 7⟩ : ParseOptions).maxExpressionDepth) ∧
    (Expression.parse "NOT (a) NOT = ?" ⟨7, 7⟩ =
        .ok (.condition (.negation (.negation
          (.comparison ⟨.key "a", .equal, .placeholder, none, rfl⟩)))) ↔
      ∃ ls stop, tokenize "NOT (a) NOT = ?" = .ok (ls, stop) ∧
        Grammar.Derives (ls.map (·.token)) (.condition (.negation (.negation
          (.comparison ⟨.key "a", .equal, .placeholder, none, rfl⟩))))) := by
  have tokens : (tokenize "NOT (a) NOT = ?").map (·.1.length) = .ok 7 := by cbv
  have room : ∀ ls stop, tokenize "NOT (a) NOT = ?" = .ok (ls, stop) →
      ls.length ≤ 7 ∧ ls.length ≤ 7 := by
    intro ls stop lexed
    have count : ls.length = 7 := by simpa [lexed, Except.map] using tokens
    omega
  exact ⟨room, parse_eq_ok_iff_derives _ _ _ room⟩

end RecordFilter
