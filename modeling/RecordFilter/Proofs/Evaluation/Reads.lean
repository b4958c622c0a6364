import RecordFilter.Proofs.Evaluation.Failures

namespace RecordFilter

variable {record other : Record}

namespace Comparison

variable {c : Comparison}

theorem left_of_mem_reads {name : String} (h : name ∈ (c.evaluate record).reads) :
    c.left = .key name := by
  unfold evaluate at h
  split at h
  · cases h
  · split at h
    · next key left => rw [left, List.mem_singleton.mp h]
    · cases h

theorem evaluate_of_same_reads
    (same : ∀ name ∈ (c.evaluate record).reads, other name = record name) :
    c.evaluate other = c.evaluate record := by
  by_cases bound : c.placeholders = 0
  · cases left : c.left with
    | key name =>
      have read : (c.evaluate record).reads = [name] := by simp [evaluate, bound, left]
      have answer : other name = record name := same name (read ▸ List.mem_singleton_self name)
      simp [evaluate, bound, left, answer]
    | _ => simp [evaluate, bound, left]
  · simp [evaluate, bound]

end Comparison

namespace Condition

/-- A test reads what the comparisons read that it comes to. -/
theorem reads_eq (c : Condition) :
    (c.evaluate record).reads = (c.tested record).flatMap fun k => (k.evaluate record).reads := by
  induction c with
  | comparison c => simp [evaluate, tested]
  | negation inner ih => rw [evaluate_negation, ih, tested]
  | join left op right first second =>
    rw [tested_join, List.flatMap_append, ← first]
    by_cases undecided : left.fit record = .ok !op.decisive
    · rw [evaluate_join_open undecided, if_pos undecided, ← second]
    · rw [evaluate_join_closed undecided, if_neg undecided, List.flatMap_nil, List.append_nil]

/-- The reads of the left side are reads of the whole, and so are those of the right side where the
left one leaves the result open. -/
theorem evaluate_of_same_reads {c : Condition}
    (same : ∀ name ∈ (c.evaluate record).reads, other name = record name) :
    c.evaluate other = c.evaluate record := by
  induction c with
  | comparison c => exact Comparison.evaluate_of_same_reads same
  | negation inner ih =>
    rw [evaluate_negation] at same
    rw [evaluate_negation, evaluate_negation, ih same]
  | join left op right first second =>
    have reads : (left.evaluate record).reads ⊆ ((join left op right).evaluate record).reads := by
      rw [reads_eq (join left op right), tested_join, List.flatMap_append, ← reads_eq]
      exact List.subset_append_left ..
    refine evaluate_join_congr (first fun name member => same name (reads member))
      fun undecided => second fun name member => same name ?_
    rw [evaluate_join_open undecided]
    exact List.mem_append_right _ member

/-- Two records that agree on the fields that a test reads of the one are tested with the same
result or failure and the same reads, in the same order. Fields that are only named by comparisons
that the test does not come to have no say, and neither have those that are not named at all. -/
theorem fit_of_same_reads (c : Condition) (record other : Record) :
    ((∀ name ∈ (c.evaluate record).reads, other name = record name) →
      c.fit other = c.fit record ∧
        (c.evaluate other).reads = (c.evaluate record).reads) ∧
      ((∀ k ∈ c.tested record, ∀ name, k.left = .key name → other name = record name) →
        c.fit other = c.fit record ∧
          (c.evaluate other).reads = (c.evaluate record).reads) := by
  have alike (same : ∀ name ∈ (c.evaluate record).reads, other name = record name) :
      c.fit other = c.fit record ∧ (c.evaluate other).reads = (c.evaluate record).reads := by
    rw [fit, fit, evaluate_of_same_reads same]
    exact ⟨rfl, rfl⟩
  refine ⟨alike, fun untouched => alike fun name member => ?_⟩
  rw [reads_eq] at member
  obtain ⟨k, tested, read⟩ := List.mem_flatMap.mp member
  exact untouched k tested name (Comparison.left_of_mem_reads read)

/-- `(NOT (NOT (a = 1)) OR b < 1) AND c = 1` is settled by `a` and `b` here. -/
theorem fit_of_same_reads_connectives :
    let a : Condition := comparison ⟨.key "a", .equal, .number (.int32 1), none, rfl⟩
    let b : Condition := comparison ⟨.key "b", .less, .number (.int32 1), none, rfl⟩
    let c : Condition := comparison ⟨.key "c", .equal, .number (.int32 1), none, rfl⟩
    let e := join (join (negation (negation a)) .or b) .and c
    let record := Value.record (.object [("a", .integer 2), ("b", .integer 7), ("c", .integer 1)])
    let other := Value.record (.object [("a", .integer 2), ("b", .integer 7), ("c", .string "x"),
      ("d", .null)])
    (∀ name ∈ (e.evaluate record).reads, other name = record name) ∧
      (∀ k ∈ e.tested record, ∀ name, k.left = .key name → other name = record name) ∧
      e.fit other = .ok false ∧ (e.evaluate other).reads = ["a", "b"] := by
  intro a b c e record other
  have reads : (e.evaluate record).reads = ["a", "b"] := by decide
  have same : ∀ name ∈ (e.evaluate record).reads, other name = record name := by
    simp [reads, record, other, Value.record, Value.field?, Fields.get?]
  have tested : e.tested record = [⟨.key "a", .equal, .number (.int32 1), none, rfl⟩,
      ⟨.key "b", .less, .number (.int32 1), none, rfl⟩] := by decide
  have untouched : ∀ k ∈ e.tested record, ∀ name, k.left = .key name →
      other name = record name := by
    simp [tested, record, other, Value.record, Value.field?, Fields.get?]
  obtain ⟨result, still⟩ := (fit_of_same_reads e record other).1 same
  exact ⟨same, untouched, result.trans (by decide), still.trans reads⟩

end Condition
end RecordFilter
