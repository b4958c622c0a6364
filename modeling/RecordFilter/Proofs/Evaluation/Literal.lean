import RecordFilter.Proofs.Evaluation.Failures

namespace RecordFilter

theorem Kind.isNumber_of_sameFamily {a b : Kind} (h : a.sameFamily b = true) :
    a.isNumber = b.isNumber := by
  simp only [sameFamily, Bool.or_eq_true, decide_eq_true_eq, Bool.and_eq_true] at h
  rcases h with rfl | ⟨left, right⟩
  · rfl
  · rw [left, right]

theorem Kind.eq_string_of_sameFamily {a : Kind} (h : a.sameFamily .string = true) :
    a = .string := by
  simpa [sameFamily, isNumber] using h

namespace Operand

variable {x : Operand} {v : Value}

theorem isNumber_of_value? (h : x.value? = some v) : v.isNumber = x.kind.isNumber := by
  cases x with
  | number n =>
    cases h
    cases n <;> rfl
  | list items =>
    obtain ⟨vs, -, rfl⟩ := Option.map_eq_some_iff.mp h
    rfl
  | _ => cases h <;> rfl

theorem kind_of_value? (h : x.value? = some v) (string : x.kind = .string) : v.kind = .string := by
  cases x with
  | string s =>
    cases h
    rfl
  | number n => cases n <;> cases string
  | _ => cases string

end Operand

namespace Comparison

/-- Literals stand on both sides. A key would stand on the left, and a placeholder on the right. -/
def IsLiteral (c : Comparison) : Prop := c.left.isKey = false ∧ c.placeholders = 0

variable {c : Comparison}

theorem sameFamily_of_literal (literal : c.IsLiteral) (other : c.op ≠ .member) :
    c.left.kind.sameFamily c.right.kind = true := by
  obtain ⟨keyless, bound⟩ := literal
  rw [placeholders] at bound
  have legal := c.legal
  unfold assess at legal
  split at legal
  · cases legal
  · cases legal
  · split at legal
    · cases legal
    · next families => simpa [keyless, other, bound] using families

/-- A literal is never refused: a number meets a number where numbers are ordered, and a string a
string where strings are ordered or a pattern is looked for. -/
theorem not_refuses_of_literal (literal : c.IsLiteral) {v : Value}
    (value : c.left.value? = some v) :
    ¬c.Refuses v := by
  rintro ⟨-, ⟨ordering, noNumbers, noStrings⟩ | ⟨pattern, noString⟩⟩
  · have other : c.op ≠ .member := by
      intro op
      simp [op, Comparator.isOrdering] at ordering
    have family := sameFamily_of_literal literal other
    rcases right_of_ordering literal.2 ordering with ⟨n, right⟩ | ⟨s, right⟩
    · have number : c.right.kind.isNumber = true := by
        rw [right]
        cases n <;> rfl
      have left : v.isNumber = true := by
        rw [Operand.isNumber_of_value? value, Kind.isNumber_of_sameFamily family, number]
      exact noNumbers ⟨left, number⟩
    · rw [right] at family noStrings
      have string := Kind.eq_string_of_sameFamily family
      exact noStrings ⟨Operand.kind_of_value? value string, rfl⟩
  · have other : c.op ≠ .member := by
      intro op
      simp [op, Comparator.isPattern] at pattern
    have family := sameFamily_of_literal literal other
    obtain ⟨s, right⟩ := right_of_pattern literal.2 pattern
    rw [right] at family
    exact noString (Operand.kind_of_value? value (Kind.eq_string_of_sameFamily family))

theorem evaluate_literal (literal : c.IsLiteral) :
    ∃ b, c.constant? = some b ∧ ∀ record, c.evaluate record = ⟨.ok b, []⟩ := by
  obtain ⟨keyless, bound⟩ := literal
  obtain ⟨b, answer⟩ : ∃ b, c.compare c.left.value? = .ok b := by
    cases value : c.left.value? with
    | none => exact compare_none bound
    | some v =>
      rcases compare_some bound v with ⟨refused, -⟩ | ⟨-, answers⟩
      · exact absurd refused (not_refuses_of_literal ⟨keyless, bound⟩ value)
      · exact answers
  have evaluated (record : Record) : c.evaluate record = ⟨.ok b, []⟩ :=
    answer ▸ (Condition.Evaluates.literal bound keyless).evaluate_eq
  refine ⟨b, ?_, evaluated⟩
  simp [constant?, keyless, bound, evaluated]

end Comparison

namespace Condition

def IsLiteral (c : Condition) : Prop := ∀ k ∈ c.comparisons, k.IsLiteral

theorem evaluate_literal {c : Condition} (literal : c.IsLiteral) :
    ∃ b, (∀ v, c.settled v = decide (v = b)) ∧ ∀ record, c.evaluate record = ⟨.ok b, []⟩ := by
  induction c with
  | comparison c =>
    obtain ⟨b, constant, evaluated⟩ := Comparison.evaluate_literal (literal c List.mem_cons_self)
    refine ⟨b, fun v => ?_, evaluated⟩
    rw [settled, constant]
    exact decide_eq_decide.mpr ⟨fun h => (Option.some.inj h).symm, fun h => h ▸ rfl⟩
  | negation inner ih =>
    obtain ⟨b, verdict, evaluated⟩ := ih literal
    refine ⟨!b, fun v => ?_, fun record => ?_⟩
    · rw [settled, verdict]
      exact decide_eq_decide.mpr Bool.not_eq_eq_eq_not
    · rw [evaluate_negation, evaluated]
      rfl
  | join left op right first second =>
    obtain ⟨a, verdict, evaluated⟩ := first fun k member =>
      literal k (List.mem_append_left _ member)
    obtain ⟨b, verdict', evaluated'⟩ :=
      second fun k member => literal k (List.mem_append_right _ member)
    by_cases decided : a = op.decisive
    · refine ⟨a, fun v => ?_, fun record => ?_⟩
      · rw [settled, verdict, verdict', decided]
        by_cases decisive : v = op.decisive <;> simp [decisive]
      · rw [evaluate_join_decided (by rw [evaluated, decided]), evaluated, decided]
    · obtain rfl := Bool.eq_not.mpr decided
      refine ⟨b, fun v => ?_, fun record => ?_⟩
      · rw [settled, verdict, verdict']
        by_cases decisive : v = op.decisive
        · simp [decisive]
        · simp [Bool.eq_not.mpr decisive]
      · rw [evaluate_join_open (by rw [evaluated]), evaluated, evaluated']
        rfl

/-- A condition of literals is tested without failing and without asking the record for anything. It
is always true exactly if the test is passed, always false exactly if it is not, and always one of
the two. -/
theorem settled_iff_fit_of_literal (c : Condition) (literal : c.IsLiteral) (record : Record) :
    (∃ b, c.fit record = .ok b) ∧ (c.evaluate record).reads = [] ∧
      (c.alwaysTrue = true ↔ c.fit record = .ok true) ∧
      (c.alwaysFalse = true ↔ c.fit record = .ok false) ∧
      (c.alwaysTrue = true ∧ c.alwaysFalse = false ∨
        c.alwaysTrue = false ∧ c.alwaysFalse = true) := by
  obtain ⟨b, verdict, evaluated⟩ := evaluate_literal literal
  have result : c.fit record = .ok b := congrArg Outcome.result (evaluated record)
  refine ⟨⟨b, result⟩, congrArg Outcome.reads (evaluated record), ?_⟩
  rw [alwaysTrue, alwaysFalse, verdict, verdict, result]
  cases b <;> simp

/-- `NOT (1 IN (1, 'x')) OR 'b' LIKE 'a%' AND 2 > 1` holds for no record. -/
theorem settled_iff_fit_of_literal_joined :
    let member : Comparison := ⟨.number (.int32 1), .member,
      .list [.number (.int32 1), .string "x"], none, rfl⟩
    let like : Comparison := ⟨.string "b", .like, .string "a%", some (Wildcard.regex "a%"), rfl⟩
    let greater : Comparison := ⟨.number (.int32 2), .greater, .number (.int32 1), none, rfl⟩
    let c := join (join (negation (comparison member)) .or (comparison like)) .and
      (comparison greater)
    let record := Value.record (.object [("a", .integer 5)])
    c.IsLiteral ∧ c.alwaysFalse = true ∧ c.fit record = .ok false ∧
      (c.evaluate record).reads = [] := by
  intro member like greater c record
  have literal : c.IsLiteral := by
    simp [c, IsLiteral, comparisons, member, like, greater, Comparison.IsLiteral, Operand.isKey,
      Comparison.placeholders, Operand.placeholders, Operand.placeholdersIn]
  have settled : c.alwaysFalse = true := by
    cbv
  obtain ⟨-, reads, -, verdict, -⟩ := settled_iff_fit_of_literal c literal record
  exact ⟨literal, settled, verdict.mp settled, reads⟩

end Condition
end RecordFilter
