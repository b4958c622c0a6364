import RecordFilter.Condition.Constant
import RecordFilter.Proofs.Evaluation.Rules

namespace RecordFilter

theorem Comparison.evaluate_of_constant {c : Comparison} {b : Bool} (h : c.constant? = some b)
    (record : Record) : (c.evaluate record).result = .ok b := by
  unfold constant? at h
  split at h
  · cases h
  · next literal =>
    obtain ⟨keyless, bound⟩ := not_or.mp literal
    have same : c.evaluate record = c.evaluate .empty := by
      unfold evaluate
      cases left : c.left with
      | key name => simp [left, Operand.isKey] at keyless
      | _ => rfl
    rw [same]
    split at h
    · next result =>
      injection h with h
      rw [result, h]
    · cases h

namespace Condition

/-- The comparisons that a test comes to, in order. -/
def tested (record : Record) : Condition → List Comparison
  | comparison c => [c]
  | negation inner => inner.tested record
  | join left op right => match left.fit record with
    | .ok a => if a = op.decisive then left.tested record
      else left.tested record ++ right.tested record
    | .error _ => left.tested record

/-- No comparison that the test comes to fails. -/
def Unfailing (c : Condition) (record : Record) : Prop :=
  ∀ k ∈ c.tested record, ∃ v, (k.evaluate record).result = .ok v

variable {record : Record}

theorem tested_join (left : Condition) (op : Connective) (right : Condition) :
    (join left op right).tested record = left.tested record ++
      if left.fit record = .ok !op.decisive then right.tested record else [] := by
  rw [tested]
  cases h : left.fit record with
  | error e => simp
  | ok a =>
    by_cases decided : a = op.decisive
    · simp [decided]
    · simp [Bool.eq_not.mpr decided]

theorem fit_eq_error_iff (c : Condition) (e : EvalError) :
    c.fit record = .error e ↔ ∃ k ∈ c.tested record, (k.evaluate record).result = .error e := by
  induction c with
  | comparison c => simp [tested, fit, evaluate]
  | negation inner ih =>
    rw [fit_negation, tested, ← ih]
    cases inner.fit record <;> simp [Except.map]
  | join left op right first second =>
    rw [fit_join, tested_join]
    by_cases undecided : left.fit record = .ok !op.decisive
    · have passed : ¬∃ k ∈ left.tested record, (k.evaluate record).result = .error e := by
        rw [← first, undecided]
        simp
      simp only [undecided, if_true, second, List.mem_append, or_and_right, exists_or, passed,
        false_or]
    · simp [undecided, first]

/-- A test has a verdict exactly if no comparison fails that it comes to. -/
theorem fit_ok_iff (c : Condition) : (∃ v, c.fit record = .ok v) ↔ c.Unfailing record := by
  have verdict (r : Except EvalError Bool) : (∃ v, r = .ok v) ↔ ∀ e, r ≠ .error e := by
    cases r <;> simp
  simp only [Unfailing, verdict, ne_eq, fit_eq_error_iff, not_exists, not_and]
  exact forall_comm.trans (forall_congr' fun k => forall_comm)

/-- A settled condition never gets the other verdict. -/
theorem fit_ne_of_settled {c : Condition} {b : Bool} (h : c.settled b = true) :
    c.fit record ≠ .ok !b := by
  induction c generalizing b with
  | comparison c =>
    have constant : c.constant? = some b := by simpa [settled] using h
    rw [fit, evaluate, Comparison.evaluate_of_constant constant]
    simp
  | negation inner ih =>
    intro verdict
    apply ih (b := !b) h
    rw [fit_negation] at verdict
    cases result : inner.fit record with
    | error e => simp [result, Except.map] at verdict
    | ok v => simpa [result, Except.map, Bool.not_eq_eq_eq_not] using verdict
  | join left op right first second =>
    intro verdict
    rw [fit_join] at verdict
    by_cases decisive : b = op.decisive
    · subst decisive
      have either : left.settled op.decisive = true ∨ right.settled op.decisive = true := by
        simpa [settled] using h
      split_ifs at verdict with undecided
      · exact either.elim (first · undecided) (second · verdict)
      · exact undecided verdict
    · have both : left.settled b = true ∧ right.settled b = true := by
        simpa [settled, decisive] using h
      split_ifs at verdict with undecided
      · exact second both.2 verdict
      · exact first both.1 verdict

/-- A settled condition gets its verdict exactly where its test comes to no comparison that fails.
-/
theorem fit_eq_iff_of_settled {c : Condition} {b : Bool} (h : c.settled b = true) :
    c.fit record = .ok b ↔ c.Unfailing record := by
  rw [← fit_ok_iff]
  constructor
  · intro verdict
    exact ⟨b, verdict⟩
  · rintro ⟨v, verdict⟩
    have other : v ≠ !b := by
      rintro rfl
      exact fit_ne_of_settled h verdict
    rw [verdict, Bool.eq_not_of_ne other, Bool.not_not]

/-- A condition that is always true, or always false, is that for a record exactly where its test
comes to no comparison that fails. -/
theorem fit_of_always (c : Condition) (record : Record) :
    (c.alwaysTrue = true → (c.fit record = .ok true ↔ c.Unfailing record)) ∧
      (c.alwaysFalse = true → (c.fit record = .ok false ↔ c.Unfailing record)) :=
  ⟨fit_eq_iff_of_settled, fit_eq_iff_of_settled⟩

/-- `a < 1 OR 1 = 1` is always true, and true for a record with a number. -/
theorem fit_of_always_number :
    let c := join (comparison ⟨.key "a", .less, .number (.int32 1), none, rfl⟩) .or
      (comparison ⟨.number (.int32 1), .equal, .number (.int32 1), none, rfl⟩)
    let record := Value.record (.object [("a", .integer 5)])
    c.alwaysTrue = true ∧ c.Unfailing record ∧ c.fit record = .ok true := by
  intro c record
  have always : c.alwaysTrue = true := by decide
  have passes : c.Unfailing record := by
    unfold Unfailing
    decide
  exact ⟨always, passes, ((fit_of_always c record).1 always).mpr passes⟩

/-- For a record with a string the test fails before it comes to the literals. -/
theorem fit_of_always_string :
    let c := join (comparison ⟨.key "a", .less, .number (.int32 1), none, rfl⟩) .or
      (comparison ⟨.number (.int32 1), .equal, .number (.int32 1), none, rfl⟩)
    c.alwaysTrue = true ∧
      c.fit (Value.record (.object [("a", .string "x")])) =
        .error (.typeMismatch .less (some .string) .int32) := by
  decide

end Condition
end RecordFilter
