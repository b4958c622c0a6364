import RecordFilter.Binding
import RecordFilter.Proofs.Evaluation.Failures
import RecordFilter.Proofs.Parse.Region

namespace RecordFilter

theorem Comparison.bind_eq_self {c : Comparison} (bound : c.placeholders = 0)
    (params : List Value) : c.bind params = .ok (c, params) :=
  if_pos bound

namespace Condition

variable {record : Record}

theorem evaluate_of_bindFrom {c b : Condition} {params rest : List Value}
    (bound : c.bindFrom params = .ok (b, rest)) (free : ∀ k ∈ c.tested record, k.placeholders = 0) :
    b.evaluate record = c.evaluate record := by
  induction c generalizing b params rest with
  | comparison c =>
    have none : c.placeholders = 0 := free c List.mem_cons_self
    rw [bindFrom, Comparison.bind_eq_self none] at bound
    cases bound
    rfl
  | negation inner ih =>
    obtain ⟨⟨b', rest'⟩, inside, same⟩ := map_eq_ok.mp bound
    cases same
    rw [evaluate_negation, evaluate_negation, ih inside free]
  | join left op right first second =>
    obtain ⟨⟨l, mid⟩, onLeft, more⟩ := bind_eq_ok.mp bound
    obtain ⟨⟨r, rest'⟩, onRight, same⟩ := bind_eq_ok.mp more
    cases same
    rw [tested_join] at free
    refine evaluate_join_congr
      (first onLeft fun k member => free k (List.mem_append_left _ member))
      fun undecided => second onRight fun k member => free k ?_
    rw [if_pos undecided]
    exact List.mem_append_right _ member

theorem bindFrom_of_bind {c b : Condition} {params : List Value} (h : c.bind params = .ok b) :
    ∃ rest, c.bindFrom params = .ok (b, rest) := by
  unfold bind at h
  split at h
  · cases h
  · obtain ⟨⟨b', rest⟩, bound, rfl⟩ := map_eq_ok.mp h
    exact ⟨rest, bound⟩

/-- A verdict that a test has before binding has not come to a placeholder, and it is the verdict
after binding, on the same reads in the same order. A failure that is not that of a placeholder is
the failure after binding as well. -/
theorem fit_of_bind {c b : Condition} {params : List Value} (bound : c.bind params = .ok b)
    (record : Record) :
    (∀ v, c.fit record = .ok v →
      (∀ k ∈ c.tested record, k.placeholders = 0) ∧ b.fit record = .ok v ∧
        (b.evaluate record).reads = (c.evaluate record).reads) ∧
      ∀ op left right, c.fit record = .error (.typeMismatch op left right) →
        b.fit record = .error (.typeMismatch op left right) ∧
          (b.evaluate record).reads = (c.evaluate record).reads := by
  obtain ⟨rest, bound⟩ := bindFrom_of_bind bound
  have unchanged (passes : ∀ k, c.fit record ≠ .error (.unboundPlaceholder k)) :
      (∀ k ∈ c.tested record, k.placeholders = 0) ∧ b.evaluate record = c.evaluate record := by
    have free := c.fit_ne_unboundPlaceholder_iff.mp passes
    exact ⟨free, evaluate_of_bindFrom bound free⟩
  constructor
  · intro v verdict
    obtain ⟨free, same⟩ := unchanged (by simp [verdict])
    exact ⟨free, (congrArg Outcome.result same).trans verdict, congrArg Outcome.reads same⟩
  · intro op left right fails
    obtain ⟨-, same⟩ := unchanged (by simp [fails])
    exact ⟨(congrArg Outcome.result same).trans fails, congrArg Outcome.reads same⟩

/-- `NOT a = 1 AND b IN (?, 2)` is settled by `a` for one record, and `a < 1 OR b = ?` fails at `a`
for another. -/
theorem fit_of_bind_settled :
    let settled : Condition := join
      (negation (comparison ⟨.key "a", .equal, .number (.int32 1), none, rfl⟩)) .and
      (comparison ⟨.key "b", .member, .list [.placeholder, .number (.int32 2)], none, rfl⟩)
    let settled' : Condition := join
      (negation (comparison ⟨.key "a", .equal, .number (.int32 1), none, rfl⟩)) .and
      (comparison ⟨.key "b", .member, .list [.string "x", .number (.int32 2)], none, rfl⟩)
    let failing : Condition := join
      (comparison ⟨.key "a", .less, .number (.int32 1), none, rfl⟩) .or
      (comparison ⟨.key "b", .equal, .placeholder, none, rfl⟩)
    let failing' : Condition := join
      (comparison ⟨.key "a", .less, .number (.int32 1), none, rfl⟩) .or
      (comparison ⟨.key "b", .equal, .string "x", none, rfl⟩)
    let one := Value.record (.object [("a", .integer 1), ("b", .string "x")])
    let other := Value.record (.object [("a", .boolean true), ("b", .string "x")])
    settled.bind [.string "x"] = .ok settled' ∧ settled.fit one = .ok false ∧
      settled'.fit one = .ok false ∧ (settled'.evaluate one).reads = ["a"] ∧
      failing.bind [.string "x"] = .ok failing' ∧
      failing.fit other = .error (.typeMismatch .less (some .boolean) .int32) ∧
      failing'.fit other = .error (.typeMismatch .less (some .boolean) .int32) := by
  intro settled settled' failing failing' one other
  have bound : settled.bind [.string "x"] = .ok settled' := by cbv
  have bound' : failing.bind [.string "x"] = .ok failing' := by cbv
  have verdict : settled.fit one = .ok false := by decide
  have fails : failing.fit other = .error (.typeMismatch .less (some .boolean) .int32) := by decide
  obtain ⟨-, kept, reads⟩ := (fit_of_bind bound one).1 false verdict
  obtain ⟨kept', -⟩ := (fit_of_bind bound' other).2 _ _ _ fails
  exact ⟨bound, verdict, kept, reads.trans (by decide), bound', fails, kept'⟩

end Condition
end RecordFilter
