import Mathlib
import RecordFilter.Evaluation

namespace RecordFilter.Condition

/-- A test against the record has this result and reads these names, in this order. -/
inductive Evaluates (record : Record) : Condition → Except EvalError Bool → List String → Prop where
  | unbound {c : Comparison} (h : 0 < c.placeholders) :
      Evaluates record (.comparison c) (.error (.unboundPlaceholder c)) []
  | key {c : Comparison} {name : String} (bound : c.placeholders = 0) (left : c.left = .key name) :
      Evaluates record (.comparison c) (c.compare (record name)) [name]
  | literal {c : Comparison} (bound : c.placeholders = 0) (left : c.left.isKey = false) :
      Evaluates record (.comparison c) (c.compare c.left.value?) []
  | negation {inner : Condition} {b : Bool} {reads : List String}
      (h : Evaluates record inner (.ok b) reads) :
      Evaluates record (.negation inner) (.ok !b) reads
  | negationFails {inner : Condition} {e : EvalError} {reads : List String}
      (h : Evaluates record inner (.error e) reads) :
      Evaluates record (.negation inner) (.error e) reads
  | andFalse {left right : Condition} {reads : List String}
      (h : Evaluates record left (.ok false) reads) :
      Evaluates record (.join left .and right) (.ok false) reads
  | andTrue {left right : Condition} {result : Except EvalError Bool} {ls rs : List String}
      (first : Evaluates record left (.ok true) ls) (second : Evaluates record right result rs) :
      Evaluates record (.join left .and right) result (ls ++ rs)
  | orTrue {left right : Condition} {reads : List String}
      (h : Evaluates record left (.ok true) reads) :
      Evaluates record (.join left .or right) (.ok true) reads
  | orFalse {left right : Condition} {result : Except EvalError Bool} {ls rs : List String}
      (first : Evaluates record left (.ok false) ls) (second : Evaluates record right result rs) :
      Evaluates record (.join left .or right) result (ls ++ rs)
  | leftFails {left right : Condition} {op : Connective} {e : EvalError} {reads : List String}
      (h : Evaluates record left (.error e) reads) :
      Evaluates record (.join left op right) (.error e) reads

variable {record : Record}

/-- A negation turns the result around, whatever it negates. -/
theorem evaluate_negation (inner : Condition) :
    (negation inner).evaluate record =
      ⟨(inner.evaluate record).result.map (!·), (inner.evaluate record).reads⟩ := by
  induction inner with
  | comparison c => rfl
  | join left op right => rfl
  | negation twice ih =>
    have twofold (r : Except EvalError Bool) : (r.map (!·)).map (!·) = r := by
      cases r <;> simp [Except.map]
    rw [ih, twofold, evaluate]

theorem evaluate_join_open {left right : Condition} {op : Connective}
    (h : (left.evaluate record).result = .ok !op.decisive) :
    (join left op right).evaluate record =
      ⟨(right.evaluate record).result,
        (left.evaluate record).reads ++ (right.evaluate record).reads⟩ := by
  have passed (r : Except EvalError Bool) : r.map (op.apply !op.decisive) = r := by
    cases r <;> cases op <;> rfl
  simp [evaluate, h, passed]

theorem evaluate_join_decided {left right : Condition} {op : Connective}
    (h : (left.evaluate record).result = .ok op.decisive) :
    (join left op right).evaluate record = ⟨.ok op.decisive, (left.evaluate record).reads⟩ := by
  simp [evaluate, h]

theorem evaluate_join_error {left right : Condition} {op : Connective} {e : EvalError}
    (h : (left.evaluate record).result = .error e) :
    (join left op right).evaluate record = ⟨.error e, (left.evaluate record).reads⟩ := by
  simp [evaluate, h]

theorem evaluate_join_closed {left right : Condition} {op : Connective}
    (h : (left.evaluate record).result ≠ .ok !op.decisive) :
    (join left op right).evaluate record = left.evaluate record := by
  cases result : (left.evaluate record).result with
  | error e => rw [evaluate_join_error result, ← result]
  | ok a =>
    have decided : a = op.decisive := by
      rw [result, ne_eq, Except.ok.injEq] at h
      exact Bool.not_eq_not.mp h
    rw [evaluate_join_decided (result.trans (congrArg _ decided)), ← decided, ← result]

theorem fit_negation (inner : Condition) :
    (negation inner).fit record = (inner.fit record).map (!·) := by
  rw [fit, evaluate_negation]
  rfl

theorem fit_join (left : Condition) (op : Connective) (right : Condition) :
    (join left op right).fit record =
      if left.fit record = .ok !op.decisive then right.fit record else left.fit record := by
  by_cases undecided : left.fit record = .ok !op.decisive
  · rw [fit, evaluate_join_open undecided, if_pos undecided, fit]
  · rw [fit, evaluate_join_closed undecided, if_neg undecided, fit]

theorem evaluate_join_congr {left right left' right' : Condition} {op : Connective}
    {record' : Record} (first : left'.evaluate record' = left.evaluate record)
    (second : left.fit record = .ok !op.decisive →
      right'.evaluate record' = right.evaluate record) :
    (join left' op right').evaluate record' = (join left op right).evaluate record := by
  have fits : left'.fit record' = left.fit record := congrArg Outcome.result first
  by_cases undecided : left.fit record = .ok !op.decisive
  · rw [evaluate_join_open undecided, evaluate_join_open (fits.trans undecided), first,
      second undecided]
  · have closed : left'.fit record' ≠ .ok !op.decisive := by rwa [fits]
    rw [evaluate_join_closed undecided, evaluate_join_closed closed, first]

theorem Evaluates.evaluate_eq {c : Condition} {result : Except EvalError Bool}
    {reads : List String} (h : c.Evaluates record result reads) :
    c.evaluate record = ⟨result, reads⟩ := by
  induction h with
  | unbound h => simp [evaluate, Comparison.evaluate, Nat.ne_of_gt h]
  | key bound left => simp [evaluate, Comparison.evaluate, bound, left]
  | @literal c bound left =>
    simp only [evaluate, Comparison.evaluate, bound, ne_eq, not_true_eq_false, if_false]
    cases shape : c.left with
    | key name => simp [shape, Operand.isKey] at left
    | _ => rfl
  | negation _ ih => rw [evaluate_negation, ih]; rfl
  | negationFails _ ih => rw [evaluate_negation, ih]; rfl
  | andFalse _ ih => rw [evaluate_join_decided (by rw [ih]; rfl), ih]; rfl
  | andTrue _ _ first second => rw [evaluate_join_open (by rw [first]; rfl), first, second]
  | orTrue _ ih => rw [evaluate_join_decided (by rw [ih]; rfl), ih]; rfl
  | orFalse _ _ first second => rw [evaluate_join_open (by rw [first]; rfl), first, second]
  | leftFails _ ih => rw [evaluate_join_error (by rw [ih]), ih]

theorem evaluates_evaluate (c : Condition) :
    c.Evaluates record (c.evaluate record).result (c.evaluate record).reads := by
  induction c with
  | comparison c =>
    by_cases bound : c.placeholders = 0
    · cases left : c.left with
      | key name => simpa [evaluate, Comparison.evaluate, bound, left] using .key bound left
      | _ =>
        have keyless : c.left.isKey = false := by rw [left]; rfl
        simpa [evaluate, Comparison.evaluate, bound, left] using Evaluates.literal bound keyless
    · simpa [evaluate, Comparison.evaluate, bound] using .unbound (Nat.pos_of_ne_zero bound)
  | negation inner ih =>
    rw [evaluate_negation]
    cases h : (inner.evaluate record).result with
    | ok b => exact .negation (h ▸ ih)
    | error e => exact .negationFails (h ▸ ih)
  | join left op right first second =>
    cases h : (left.evaluate record).result with
    | error e =>
      rw [evaluate_join_error h]
      exact .leftFails (h ▸ first)
    | ok a =>
      rw [h] at first
      cases op <;> cases a
      · rw [evaluate_join_decided h]
        exact .andFalse first
      · rw [evaluate_join_open h]
        exact .andTrue first second
      · rw [evaluate_join_open h]
        exact .orFalse first second
      · rw [evaluate_join_decided h]
        exact .orTrue first

/-- A test has the result and the reads that the rules give it, and no others. -/
theorem fit_and_reads_iff (c : Condition) (record : Record) (result : Except EvalError Bool)
    (reads : List String) :
    c.fit record = result ∧ (c.evaluate record).reads = reads ↔
      c.Evaluates record result reads := by
  constructor
  · rintro ⟨rfl, rfl⟩
    exact evaluates_evaluate c
  · intro h
    rw [fit, h.evaluate_eq]
    exact ⟨rfl, rfl⟩

end RecordFilter.Condition
