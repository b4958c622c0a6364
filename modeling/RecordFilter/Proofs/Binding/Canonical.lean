import RecordFilter.Proofs.Binding.Fill

namespace RecordFilter.Expression

/-- How many brackets stand inside each other in the text of an expression; those of a list that
stands by itself do not count. -/
def nesting : Expression → Nat
  | operand _ => 0
  | condition c => c.draft.nesting

theorem bind_operand_eq_ok {x : Operand} {values : List Value} {e : Expression}
    (h : (operand x).bind values = .ok e) :
    ∃ xs, Operand.Convert values xs ∧ e = .operand (x.fill xs) := by
  rw [bind] at h
  split at h
  · cases h
  · next arity =>
    obtain ⟨⟨y, rest⟩, bound, rfl⟩ := map_eq_ok.mp h
    obtain ⟨xs, taken, rfl⟩ := (Operand.bind_eq_ok_iff x).mp bound
    exact ⟨xs, taken.all (not_not.mp arity), rfl⟩

/-- A bound expression is read back from its text exactly if it is not a list by itself and its
brackets stay within the limit on nesting. -/
theorem parse_text_of_bind_iff {text : String} {options : ParseOptions} {e bound : Expression}
    {values : List Value} (h : Expression.parse text options = .ok e)
    (binds : e.bind values = .ok bound) :
    Expression.parse bound.text options = .ok bound ↔
      (∀ items, bound ≠ .operand (.list items)) ∧ bound.nesting ≤ options.maxDepth := by
  cases e with
  | operand x =>
    obtain ⟨xs, converted, rfl⟩ := bind_operand_eq_ok binds
    have legible := (Operand.legible_of_parse h).1.fill converted.legible
    have readable := Operand.parse_text_iff legible options
    rw [show (operand (x.fill xs)).text = (x.fill xs).text from rfl, readable]
    constructor
    · intro single
      refine ⟨?_, Nat.zero_le _⟩
      rintro items same
      injection same with same
      simp [same, Operand.isList] at single
    · rintro ⟨noList, -⟩
      cases shape : x.fill xs with
      | list items => exact absurd (by rw [shape]) (noList items)
      | _ => rfl
  | condition c =>
    obtain ⟨b, bound', rfl⟩ := map_eq_ok.mp binds
    obtain ⟨-, xs, converted, same⟩ := Condition.bind_eq_ok_iff.mp bound'
    obtain ⟨legible, -, depth⟩ := Condition.legible_of_parse h
    have legible' : b.draft.Legible := same ▸ legible.fill converted.legible
    have depth' : b.draft.depth ≤ options.maxExpressionDepth := by
      rw [same, Draft.depth_fill, Condition.depth_draft]
      exact depth
    rw [show (condition b).text = b.text from rfl, ← b.text_draft, Draft.parse_text_iff legible']
    constructor
    · rintro ⟨k, -, -, nesting, -⟩
      exact ⟨by simp, nesting⟩
    · rintro ⟨-, nesting⟩
      exact ⟨b, rfl, rfl, nesting, depth'⟩

/-- A list in the place of a placeholder, within the limits that are set where none are given. -/
theorem parse_text_of_bind_member :
    let c : Expression := .condition
      (.negation (.comparison ⟨.key "a", .member, .placeholder, none, rfl⟩))
    let bound : Expression := .condition
      (.negation (.comparison ⟨.key "a", .member, .list [.number (.int32 1)], none, rfl⟩))
    Expression.parse "a NOT IN ?" = .ok c ∧ c.bind [.array [.integer 1]] = .ok bound ∧
      bound.nesting ≤ 64 ∧ Expression.parse bound.text = .ok bound := by
  intro c bound
  have source : Expression.parse "a NOT IN ?" = .ok c := by cbv
  have binds : c.bind [.array [.integer 1]] = .ok bound := by cbv
  have nesting : bound.nesting ≤ 64 := by decide
  exact ⟨source, binds, nesting,
    (parse_text_of_bind_iff source binds).mpr ⟨by simp [bound], nesting⟩⟩

/-- A placeholder by itself may become a list, whose text is that of a group and no group. -/
theorem parse_text_of_bind_list :
    Expression.parse "?" = .ok (.operand .placeholder) ∧
      (operand .placeholder).bind [.array [.integer 1, .integer 2]] =
        .ok (.operand (.list [.number (.int32 1), .number (.int32 2)])) ∧
      (operand (.list [.number (.int32 1), .number (.int32 2)])).text = "(1, 2)" ∧
      Expression.parse "(1, 2)" = .error ⟨2, .strayComma⟩ := by
  refine ⟨by cbv, by cbv, by cbv, by cbv⟩

end RecordFilter.Expression
