import RecordFilter.Proofs.Binding.Places

namespace RecordFilter.Condition

/-- A condition that has been read binds to what its text is read as once the values are written in
the places of its placeholders. -/
theorem bind_iff_parse_filled {text : String} {options : ParseOptions} {c : Condition}
    (h : Expression.parse text options = .ok (.condition c)) (values : List Value)
    (e : Expression) :
    (c.bind values).map .condition = .ok e ↔
      values.length = c.placeholders ∧ ∃ xs,
        List.Forall₂ (fun v x => Operand.ofValue v = .ok x) values xs ∧
          Expression.parse (fillPlaceholders c.text (xs.map Operand.text))
            { options with maxDepth := options.maxDepth + 1 } = .ok e := by
  obtain ⟨legible, nesting, depth⟩ := legible_of_parse h
  have text_read {xs : List Operand} (count : values.length = c.placeholders)
      (converted : Operand.Convert values xs) :
      Expression.parse (fillPlaceholders c.text (xs.map Operand.text))
          { options with maxDepth := options.maxDepth + 1 } = .ok e ↔
        ∃ b : Condition, e = .condition b ∧ b.draft = c.draft.fill xs := by
    have filled : xs.length = c.draft.placeholders := by
      rw [placeholders_draft, ← count, converted.length_eq]
    have room := c.draft.nesting_fill_le xs
    rw [← text_draft, Draft.fillPlaceholders_text legible filled,
      Draft.parse_text_iff (legible.fill converted.legible), Draft.depth_fill, depth_draft]
    constructor
    · rintro ⟨b, rfl, same, -⟩
      exact ⟨b, rfl, same⟩
    · rintro ⟨b, rfl, same⟩
      exact ⟨b, rfl, same, Nat.le_trans room (Nat.succ_le_succ nesting), depth⟩
  rw [map_eq_ok]
  constructor
  · rintro ⟨b, bound, rfl⟩
    obtain ⟨count, xs, converted, same⟩ := bind_eq_ok_iff.mp bound
    exact ⟨count, xs, converted, (text_read count converted).mpr ⟨b, rfl, same⟩⟩
  · rintro ⟨count, xs, converted, read⟩
    obtain ⟨b, rfl, same⟩ := (text_read count converted).mp read
    exact ⟨b, bind_eq_ok_iff.mpr ⟨count, xs, converted, same⟩, rfl⟩

/-- A list and a string with quotes are bound in a text whose limits leave no room for the list. -/
theorem bind_iff_parse_filled_list :
    let a : Comparison := ⟨.key "a", .member, .placeholder, none, rfl⟩
    let b : Comparison := ⟨.key "b", .equal, .placeholder, none, rfl⟩
    let c := join (negation (comparison a)) .or (comparison b)
    let values : List Value := [.array [.integer 1, .null], .string "it's"]
    let xs : List Operand := [.list [.number (.int32 1), .null], .string "it's"]
    let bound := join
      (negation (comparison ⟨.key "a", .member, .list [.number (.int32 1), .null], none, rfl⟩)) .or
      (comparison ⟨.key "b", .equal, .string "it's", none, rfl⟩)
    Expression.parse "NOT a IN ? || b = ?" ⟨1, 3⟩ = .ok (.condition c) ∧
      (c.bind values).map Expression.condition = .ok (.condition bound) ∧
      fillPlaceholders c.text (xs.map Operand.text) = "NOT (a IN (1, null)) OR b = 'it\\'s'" ∧
      Expression.parse "NOT (a IN (1, null)) OR b = 'it\\'s'" ⟨2, 3⟩ = .ok (.condition bound) := by
  intro a b c values xs bound
  have source : Expression.parse "NOT a IN ? || b = ?" ⟨1, 3⟩ = .ok (.condition c) := by cbv
  have filled : fillPlaceholders c.text (xs.map Operand.text) =
      "NOT (a IN (1, null)) OR b = 'it\\'s'" := by
    cbv
  have read : Expression.parse "NOT (a IN (1, null)) OR b = 'it\\'s'" ⟨2, 3⟩ =
      .ok (.condition bound) := by
    cbv
  have converted : List.Forall₂ (fun v x => Operand.ofValue v = .ok x) values xs :=
    .cons rfl (.cons rfl .nil)
  exact ⟨source, (bind_iff_parse_filled source values _).mpr
    ⟨rfl, xs, converted, filled ▸ read⟩, filled, read⟩

end RecordFilter.Condition
