import RecordFilter.Proofs.Draft.Reading
import RecordFilter.Proofs.Evaluation.Settled

namespace RecordFilter

namespace Comparison

/-- What stands on the left for a record: the value of its field, or that of a literal. -/
def leftValue (c : Comparison) (record : Record) : Option Value :=
  match c.left with
  | .key name => record name
  | literal => literal.value?

/-- The comparator has no answer for a value: numbers are ordered with numbers and strings with
strings, and patterns are looked for in strings. A null is never refused. -/
def Refuses (c : Comparison) (v : Value) : Prop :=
  v ≠ .null ∧
    (c.op.isOrdering = true ∧ ¬(v.isNumber = true ∧ c.right.kind.isNumber = true) ∧
        ¬(v.kind = .string ∧ c.right.kind = .string) ∨
      c.op.isPattern = true ∧ v.kind ≠ .string)

variable {c : Comparison}

theorem right_of_member (bound : c.placeholders = 0) (h : c.op = .member) :
    ∃ items, c.right = .list items := by
  have legal := c.faults_of_legal.2
  rw [h] at legal
  cases shape : c.right with
  | list items => exact ⟨items, rfl⟩
  | placeholder => simp [placeholders, shape, Operand.placeholders] at bound
  | _ => simp [shape, Operand.rightFault] at legal

theorem right_of_ordering (bound : c.placeholders = 0) (h : c.op.isOrdering = true) :
    (∃ n, c.right = .number n) ∨ ∃ s, c.right = .string s := by
  have legal := c.faults_of_legal.2
  obtain ⟨other, unequal⟩ : c.op ≠ .member ∧ c.op.isEquality = false := by
    cases op : c.op <;> simp_all [Comparator.isOrdering, Comparator.isEquality]
  cases shape : c.right with
  | number n => exact .inl ⟨n, rfl⟩
  | string s => exact .inr ⟨s, rfl⟩
  | placeholder => simp [placeholders, shape, Operand.placeholders] at bound
  | _ =>
    simp [shape, Operand.rightFault, other, Operand.scalarFault, Operand.kind, unequal] at legal

theorem right_of_pattern (bound : c.placeholders = 0) (h : c.op.isPattern = true) :
    ∃ s, c.right = .string s := by
  have legal := c.faults_of_legal.2
  obtain ⟨other, unequal, unordered⟩ :
      c.op ≠ .member ∧ c.op.isEquality = false ∧ c.op.isOrdering = false := by
    cases op : c.op <;>
      simp_all [Comparator.isPattern, Comparator.isOrdering, Comparator.isEquality]
  cases shape : c.right with
  | string s => exact ⟨s, rfl⟩
  | placeholder => simp [placeholders, shape, Operand.placeholders] at bound
  | number n =>
    cases n <;> simp [shape, Operand.rightFault, other, Operand.scalarFault, Operand.kind,
      Number.kind, unequal, unordered] at legal
  | _ =>
    simp [shape, Operand.rightFault, other, Operand.scalarFault, Operand.kind, unequal] at legal

theorem matcher_of_pattern (bound : c.placeholders = 0) (h : c.op.isPattern = true) :
    ∃ matcher, c.matcher = some matcher := by
  obtain ⟨s, shape⟩ := right_of_pattern bound h
  have legal := c.legal
  unfold assess at legal
  rw [shape, h] at legal
  split at legal
  · cases legal
  · cases legal
  · split at legal
    · cases legal
    · dsimp only at legal
      split at legal
      · next matcher _ => exact ⟨matcher, (Except.ok.inj legal).symm⟩
      · cases legal

theorem not_refuses {v : Value} (ordering : c.op.isOrdering = false)
    (pattern : c.op.isPattern = false) : ¬c.Refuses v := by
  simp [Refuses, ordering, pattern]

theorem order_some (bound : c.placeholders = 0) (ordering : c.op.isOrdering = true) (v : Value) :
    (c.Refuses v ∧ c.order (some v) = .error (c.mismatch (some v))) ∨
      ¬c.Refuses v ∧ ∃ o, c.order (some v) = .ok o := by
  have pattern : c.op.isPattern = false := by
    cases op : c.op <;> simp_all [Comparator.isPattern, Comparator.isOrdering]
  rcases right_of_ordering bound ordering with ⟨n, shape⟩ | ⟨s, shape⟩
  · obtain ⟨number, noString⟩ : n.kind.isNumber = true ∧ n.kind ≠ .string := by
      cases n <;> exact ⟨rfl, Kind.noConfusion⟩
    cases v <;> simp [order, shape, Refuses, ordering, pattern, Value.isNumber, Value.kind,
      Operand.kind, number, noString]
  · cases v <;> simp [order, shape, Refuses, ordering, pattern, Value.isNumber, Value.kind,
      Operand.kind, Kind.isNumber]

theorem compare_of_ordering (h : c.op.isOrdering = true) (left : Option Value) :
    c.compare left = (c.order left).map fun o => o.any c.op.admits := by
  unfold compare
  cases op : c.op <;> simp_all [Comparator.isOrdering]

theorem compare_of_pattern (h : c.op.isPattern = true) {matcher : Regex}
    (compiled : c.matcher = some matcher) (left : Option Value) :
    c.compare left = match left with
      | none | some .null => .ok false
      | some (.string text) => .ok (matcher.isMatch text)
      | some v => .error (c.mismatch (some v)) := by
  unfold compare
  cases op : c.op <;> simp only [op, Comparator.isPattern, Bool.false_eq_true] at h
  all_goals
    cases left with
    | none => rfl
    | some v => cases v <;> simp [compiled]

theorem compare_of_neither (bound : c.placeholders = 0) (ordering : c.op.isOrdering = false)
    (pattern : c.op.isPattern = false) (left : Option Value) : ∃ b, c.compare left = .ok b := by
  cases op : c.op with
  | member =>
    obtain ⟨items, shape⟩ := right_of_member bound op
    simp [compare, op, shape]
  | equal => simp [compare, op]
  | notEqual => simp [compare, op]
  | _ => simp_all [Comparator.isOrdering, Comparator.isPattern]

/-- A value is refused with a mismatch, and is answered for otherwise. -/
theorem compare_some (bound : c.placeholders = 0) (v : Value) :
    (c.Refuses v ∧ c.compare (some v) = .error (c.mismatch (some v))) ∨
      ¬c.Refuses v ∧ ∃ b, c.compare (some v) = .ok b := by
  cases ordering : c.op.isOrdering with
  | true =>
    rw [compare_of_ordering ordering]
    rcases order_some bound ordering v with ⟨refused, fails⟩ | ⟨taken, o, answers⟩
    · exact .inl ⟨refused, by rw [fails]; rfl⟩
    · exact .inr ⟨taken, o.any c.op.admits, by rw [answers]; rfl⟩
  | false =>
    cases pattern : c.op.isPattern with
    | true =>
      obtain ⟨matcher, compiled⟩ := matcher_of_pattern bound pattern
      rw [compare_of_pattern pattern compiled]
      cases v <;> simp [Refuses, ordering, pattern, Value.kind]
    | false =>
      exact .inr ⟨not_refuses ordering pattern,
        compare_of_neither bound ordering pattern (some v)⟩

theorem compare_none (bound : c.placeholders = 0) : ∃ b, c.compare none = .ok b := by
  cases ordering : c.op.isOrdering with
  | true => exact ⟨false, by simp [compare_of_ordering ordering, order, Except.map]⟩
  | false =>
    cases pattern : c.op.isPattern with
    | true =>
      obtain ⟨matcher, compiled⟩ := matcher_of_pattern bound pattern
      exact ⟨false, compare_of_pattern pattern compiled none⟩
    | false => exact compare_of_neither bound ordering pattern none

theorem evaluate_bound (bound : c.placeholders = 0) (record : Record) :
    (c.evaluate record).result = c.compare (c.leftValue record) := by
  unfold evaluate leftValue
  rw [if_neg (not_not.mpr bound)]
  cases c.left <;> rfl

/-- Once bound, a comparison fails exactly on the values that it refuses. -/
theorem result_eq_error_iff (bound : c.placeholders = 0) (record : Record) (e : EvalError) :
    (c.evaluate record).result = .error e ↔
      ∃ v, c.leftValue record = some v ∧ c.Refuses v ∧
        e = .typeMismatch c.op (some v.kind) c.right.kind := by
  rw [evaluate_bound bound]
  cases c.leftValue record with
  | none =>
    obtain ⟨b, answers⟩ := compare_none bound
    simp [answers]
  | some v =>
    rcases compare_some bound v with ⟨refused, fails⟩ | ⟨taken, b, answers⟩
    · simp [fails, refused, mismatch, eq_comm]
    · simp [answers, taken]

end Comparison

namespace Condition

def comparisons : Condition → List Comparison
  | comparison c => [c]
  | negation inner => inner.comparisons
  | join left _ right => left.comparisons ++ right.comparisons

variable {record : Record}

theorem tested_subset (c : Condition) : c.tested record ⊆ c.comparisons := by
  induction c with
  | comparison c => exact List.Subset.refl _
  | negation inner ih => exact ih
  | join left op right first second =>
    have whole : left.tested record ++ right.tested record ⊆
        left.comparisons ++ right.comparisons :=
      List.append_subset.mpr ⟨List.subset_append_of_subset_left _ first,
        List.subset_append_of_subset_right _ second⟩
    have part := List.Subset.trans (List.subset_append_left _ (right.tested record)) whole
    rw [tested, comparisons]
    split
    · split
      · exact part
      · exact whole
    · exact part

theorem placeholders_of_mem {c : Condition} (bound : c.placeholders = 0) :
    ∀ k ∈ c.comparisons, k.placeholders = 0 := by
  induction c with
  | comparison c => exact List.forall_mem_singleton.mpr bound
  | negation inner ih => exact ih bound
  | join left op right first second =>
    obtain ⟨none, none'⟩ := Nat.add_eq_zero_iff.mp bound
    intro k member
    exact (List.mem_append.mp member).elim (first none k) (second none' k)

/-- A test fails at a placeholder exactly if it comes to one. -/
theorem fit_ne_unboundPlaceholder_iff (c : Condition) :
    (∀ k, c.fit record ≠ .error (.unboundPlaceholder k)) ↔
      ∀ k ∈ c.tested record, k.placeholders = 0 := by
  constructor
  · intro passes k tested
    by_contra unbound
    have fails : (k.evaluate record).result = .error (.unboundPlaceholder k) := by
      rw [Comparison.evaluate, if_pos unbound]
    exact passes k ((c.fit_eq_error_iff _).mpr ⟨k, tested, fails⟩)
  · intro bound k fails
    obtain ⟨k', tested, fails⟩ := (c.fit_eq_error_iff _).mp fails
    obtain ⟨v, -, -, other⟩ :=
      (Comparison.result_eq_error_iff (bound k' tested) record _).mp fails
    cases other

/-- A test fails only where a comparison fails that it comes to. A comparison that is bound fails on
the values that it refuses and on no others, with a mismatch of the two kinds: its right side is a
list where one must be searched, a pattern has its matcher, and that nothing stands on the left is
never a failure. So a bound condition that only asks for equality and membership never fails. -/
theorem errors_are_mismatches (c : Condition) (record : Record) :
    (∀ e, c.fit record = .error e ↔ ∃ k ∈ c.tested record, (k.evaluate record).result = .error e) ∧
      (∀ k ∈ c.comparisons, k.placeholders = 0 →
        (∀ e, (k.evaluate record).result = .error e ↔
          ∃ v, k.leftValue record = some v ∧ k.Refuses v ∧
            e = .typeMismatch k.op (some v.kind) k.right.kind) ∧
        (k.op = .member → ∃ items, k.right = .list items) ∧
        (k.op.isPattern = true → ∃ matcher, k.matcher = some matcher) ∧
        ∀ op kind, (k.evaluate record).result ≠ .error (.typeMismatch op none kind)) ∧
      (c.placeholders = 0 →
        (∀ k ∈ c.comparisons, k.op = .equal ∨ k.op = .notEqual ∨ k.op = .member) →
        ∃ b, c.fit record = .ok b) := by
  refine ⟨c.fit_eq_error_iff, fun k _ bound => ?_, fun bound equalities => ?_⟩
  · refine ⟨Comparison.result_eq_error_iff bound record, Comparison.right_of_member bound,
      Comparison.matcher_of_pattern bound, fun op kind fails => ?_⟩
    obtain ⟨v, -, -, same⟩ := (Comparison.result_eq_error_iff bound record _).mp fails
    cases same
  · rw [fit_ok_iff]
    intro k tested
    have member : k ∈ c.comparisons := c.tested_subset tested
    cases result : (k.evaluate record).result with
    | ok v => exact ⟨v, rfl⟩
    | error e =>
      obtain ⟨v, -, refused, -⟩ :=
        (Comparison.result_eq_error_iff (placeholders_of_mem bound k member) record e).mp result
      refine absurd refused (Comparison.not_refuses ?_ ?_)
      all_goals rcases equalities k member with op | op | op <;> rw [op] <;> rfl

/-- A string is refused by an ordering of numbers, and is no failure for a membership. -/
theorem errors_are_mismatches_string :
    let less : Comparison := ⟨.key "a", .less, .number (.int32 1), none, rfl⟩
    let like : Comparison :=
      ⟨.key "a", .like, .string "x%", some (Wildcard.regex "x%"), rfl⟩
    let member : Comparison := ⟨.key "a", .member, .list [.number (.int32 1)], none, rfl⟩
    let c := join (join (comparison like) .and (comparison less)) .or (comparison member)
    let record := Value.record (.object [("a", .string "x")])
    less ∈ c.comparisons ∧ less.placeholders = 0 ∧ less.Refuses (.string "x") ∧
      (less.evaluate record).result = .error (.typeMismatch .less (some .string) .int32) ∧
      like ∈ c.comparisons ∧ like.op.isPattern = true ∧ (∃ matcher, like.matcher = some matcher) ∧
      member ∈ c.comparisons ∧ (∃ items, member.right = .list items) ∧
      (∀ k ∈ (comparison member).comparisons, k.op = .equal ∨ k.op = .notEqual ∨ k.op = .member) ∧
      ∃ b, (comparison member).fit record = .ok b := by
  intro less like member c record
  have refused : less.Refuses (.string "x") := ⟨by simp, .inl ⟨rfl, by decide, by decide⟩⟩
  have first : like ∈ c.comparisons := by simp [c, comparisons]
  have second : less ∈ c.comparisons := by simp [c, comparisons]
  have third : member ∈ c.comparisons := by simp [c, comparisons]
  obtain ⟨-, failures, -⟩ := errors_are_mismatches c record
  obtain ⟨-, -, unfailing⟩ := errors_are_mismatches (comparison member) record
  refine ⟨second, rfl, refused, ?_, first, rfl, ?_, third, ?_, ?_, ?_⟩
  · exact ((failures less second rfl).1 _).mpr ⟨.string "x", rfl, refused, rfl⟩
  · exact (failures like first rfl).2.2.1 rfl
  · exact (failures member third rfl).2.1 rfl
  · simp [comparisons, member]
  · exact unfailing rfl (by simp [comparisons, member])

end Condition
end RecordFilter
