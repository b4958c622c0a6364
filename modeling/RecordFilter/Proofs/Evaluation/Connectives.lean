import RecordFilter.Proofs.Evaluation.Rules

namespace RecordFilter

/-- The connective that a negation turns this one into. -/
def Connective.dual : Connective → Connective
  | and => or
  | or => and

theorem Connective.decisive_dual (op : Connective) : op.dual.decisive = !op.decisive := by
  cases op <;> rfl

namespace Outcome

def negate (o : Outcome) : Outcome := ⟨o.result.map (!·), o.reads⟩

/-- The outcome of a join. The second side adds to it where the first one leaves the result open. -/
def join (op : Connective) (l r : Outcome) : Outcome :=
  if l.result = .ok !op.decisive then ⟨r.result, l.reads ++ r.reads⟩ else l

variable {op : Connective} {l r : Outcome}

theorem join_open (h : l.result = .ok !op.decisive) :
    join op l r = ⟨r.result, l.reads ++ r.reads⟩ :=
  if_pos h

theorem join_closed (h : l.result ≠ .ok !op.decisive) : join op l r = l :=
  if_neg h

theorem negate_negate (o : Outcome) : o.negate.negate = o := by
  obtain ⟨result, reads⟩ := o
  cases result <;> simp [negate, Except.map]

theorem result_negate_eq_ok_iff {o : Outcome} {b : Bool} :
    o.negate.result = .ok b ↔ o.result = .ok !b := by
  obtain ⟨result, reads⟩ := o
  cases result <;> simp [negate, Except.map, Bool.not_eq_eq_eq_not]

/-- A side leaves a join open exactly if its negation leaves the dual one open. -/
theorem negate_join (op : Connective) (l r : Outcome) :
    (join op l r).negate = join op.dual l.negate r.negate := by
  have same : l.negate.result = .ok !op.dual.decisive ↔ l.result = .ok !op.decisive := by
    rw [result_negate_eq_ok_iff, op.decisive_dual, Bool.not_not]
  by_cases undecided : l.result = .ok !op.decisive
  · rw [join_open undecided, join_open (same.mpr undecided)]
    rfl
  · rw [join_closed undecided, join_closed (mt same.mp undecided)]

theorem join_assoc (op : Connective) (a b c : Outcome) :
    join op (join op a b) c = join op a (join op b c) := by
  by_cases first : a.result = .ok !op.decisive
  · rw [join_open first, join_open first]
    by_cases second : b.result = .ok !op.decisive
    · rw [join_open (l := ⟨b.result, a.reads ++ b.reads⟩) second, join_open second,
        List.append_assoc]
    · rw [join_closed (l := ⟨b.result, a.reads ++ b.reads⟩) second, join_closed second]
  · rw [join_closed first, join_closed first, join_closed first]

end Outcome

namespace Condition

variable {record : Record}

theorem evaluate_negate (inner : Condition) :
    (negation inner).evaluate record = (inner.evaluate record).negate :=
  evaluate_negation inner

theorem evaluate_join (left : Condition) (op : Connective) (right : Condition) :
    (join left op right).evaluate record =
      .join op (left.evaluate record) (right.evaluate record) := by
  by_cases undecided : (left.evaluate record).result = .ok !op.decisive
  · rw [evaluate_join_open undecided, Outcome.join_open undecided]
  · rw [evaluate_join_closed undecided, Outcome.join_closed undecided]

theorem evaluate_negation_join (left : Condition) (op : Connective) (right : Condition) :
    (negation (join left op right)).evaluate record =
      (join (negation left) op.dual (negation right)).evaluate record := by
  rw [evaluate_negate, evaluate_join, Outcome.negate_join, ← evaluate_negate, ← evaluate_negate,
    evaluate_join]

theorem evaluate_join_assoc (a : Condition) (op : Connective) (b c : Condition) :
    (join (join a op b) op c).evaluate record = (join a op (join b op c)).evaluate record := by
  rw [evaluate_join, evaluate_join, Outcome.join_assoc, ← evaluate_join, ← evaluate_join]

/-- No record tells the conditions apart: they have the same result or the same failure, and read
the same fields in the same order. -/
def Alike (x y : Condition) : Prop :=
  ∀ record : Record,
    x.fit record = y.fit record ∧ (x.evaluate record).reads = (y.evaluate record).reads

theorem alike_of_evaluate {x y : Condition}
    (h : ∀ record : Record, x.evaluate record = y.evaluate record) : x.Alike y :=
  fun record => ⟨congrArg Outcome.result (h record), congrArg Outcome.reads (h record)⟩

/-- A negation goes inside a conjunction or a disjunction, two negations in a row may be left out,
and what is joined by one connective may be grouped either way. -/
theorem laws_of_connectives (a b c : Condition) :
    (negation (join a .and b)).Alike (join (negation a) .or (negation b)) ∧
      (negation (join a .or b)).Alike (join (negation a) .and (negation b)) ∧
      (negation (negation a)).Alike a ∧
      (join (join a .and b) .and c).Alike (join a .and (join b .and c)) ∧
      (join (join a .or b) .or c).Alike (join a .or (join b .or c)) := by
  refine ⟨?conjunction, ?disjunction, ?twice, ?groupedAnd, ?groupedOr⟩
  case conjunction => exact alike_of_evaluate fun record => evaluate_negation_join a .and b
  case disjunction => exact alike_of_evaluate fun record => evaluate_negation_join a .or b
  case twice =>
    refine alike_of_evaluate fun record => ?_
    rw [evaluate_negate, evaluate_negate, Outcome.negate_negate]
  case groupedAnd => exact alike_of_evaluate fun record => evaluate_join_assoc a .and b c
  case groupedOr => exact alike_of_evaluate fun record => evaluate_join_assoc a .or b c

end Condition
end RecordFilter
