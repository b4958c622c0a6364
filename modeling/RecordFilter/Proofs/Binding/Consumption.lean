import RecordFilter.Proofs.Binding.Fill
import RecordFilter.Proofs.Check
import RecordFilter.Proofs.Evaluation.Failures

namespace RecordFilter

mutual

/-- The first operand becomes the last one: its placeholders, met from left to right, have given way
to the operands of the list, one for each. -/
inductive Operand.Binds : Operand → List Operand → Operand → Prop where
  | placeholder (x : Operand) : Binds .placeholder [x] x
  | list {items items' xs : List Operand} (elements : BindsItems items xs items') :
      Binds (.list items) xs (.list items')
  | other {x : Operand} (single : x.isList = false) (plain : x ≠ .placeholder) : Binds x [] x

inductive Operand.BindsItems : List Operand → List Operand → List Operand → Prop where
  | nil : BindsItems [] [] []
  | cons {x y : Operand} {items items' xs ys : List Operand} (first : Binds x xs y)
      (others : BindsItems items ys items') : BindsItems (x :: items) (xs ++ ys) (y :: items')

end

/-- A condition becomes another one; the left sides of its comparisons stay as they are. -/
inductive Condition.Binds : Condition → List Operand → Condition → Prop where
  | comparison {c b : Comparison} {xs : List Operand} (left : b.left = c.left) (op : b.op = c.op)
      (right : c.right.Binds xs b.right) : Binds (comparison c) xs (comparison b)
  | negation {c b : Condition} {xs : List Operand} (inner : Binds c xs b) :
      Binds (negation c) xs (negation b)
  | join {l r l' r' : Condition} {op : Connective} {xs ys : List Operand} (first : Binds l xs l')
      (second : Binds r ys r') : Binds (join l op r) (xs ++ ys) (join l' op r')

inductive Expression.Binds : Expression → List Operand → Expression → Prop where
  | operand {x y : Operand} {xs : List Operand} (h : x.Binds xs y) :
      Binds (operand x) xs (operand y)
  | condition {c b : Condition} {xs : List Operand} (h : c.Binds xs b) :
      Binds (condition c) xs (condition b)

theorem lengths_of_add {α : Type} {xs : List α} {n m : Nat} (h : xs.length = n + m) :
    (xs.take n).length = n ∧ (xs.drop n).length = m := by
  rw [List.length_take, List.length_drop]
  omega

namespace Operand

mutual

theorem binds_fill : (x : Operand) → (xs : List Operand) → xs.length = x.placeholders →
    x.Binds xs (x.fill xs)
  | placeholder, xs, count => by
    obtain ⟨y, rfl⟩ := List.length_eq_one_iff.mp count
    exact .placeholder y
  | list items, xs, count => .list (bindsItems_fillItems items xs count)
  | key _, [], _ => .other rfl nofun
  | null, [], _ => .other rfl nofun
  | boolean _, [], _ => .other rfl nofun
  | number _, [], _ => .other rfl nofun
  | string _, [], _ => .other rfl nofun

theorem bindsItems_fillItems : (ys xs : List Operand) → xs.length = placeholdersIn ys →
    BindsItems ys xs (fillItems xs ys)
  | [], xs, count => by
    obtain rfl := List.length_eq_zero_iff.mp count
    exact .nil
  | y :: ys, xs, count => by
    obtain ⟨front, back⟩ := lengths_of_add count
    have whole := BindsItems.cons (binds_fill y _ front) (bindsItems_fillItems ys _ back)
    rwa [List.take_append_drop] at whole

end

mutual

theorem placeholders_fill : (x : Operand) → (xs : List Operand) → xs.length = x.placeholders →
    (∀ y ∈ xs, y.placeholders = 0) → (x.fill xs).placeholders = 0
  | placeholder, xs, count, plain => by
    obtain ⟨y, rfl⟩ := List.length_eq_one_iff.mp count
    exact plain y List.mem_cons_self
  | list items, xs, count, plain => placeholdersIn_fillItems items xs count plain
  | key _, _, _, _ => rfl
  | null, _, _, _ => rfl
  | boolean _, _, _, _ => rfl
  | number _, _, _, _ => rfl
  | string _, _, _, _ => rfl

theorem placeholdersIn_fillItems : (ys xs : List Operand) → xs.length = placeholdersIn ys →
    (∀ y ∈ xs, y.placeholders = 0) → placeholdersIn (fillItems xs ys) = 0
  | [], _, _, _ => rfl
  | y :: ys, xs, count, plain => by
    obtain ⟨front, back⟩ := lengths_of_add count
    have first := placeholders_fill y _ front fun z member =>
      plain z (List.mem_of_mem_take member)
    have others := placeholdersIn_fillItems ys _ back fun z member =>
      plain z (List.mem_of_mem_drop member)
    rw [fillItems, placeholdersIn, first, others]

end

mutual

theorem placeholders_of_ofValue : (v : Value) → {x : Operand} → ofValue v = .ok x →
    x.placeholders = 0
  | .null, _, h => by cases h; rfl
  | .boolean _, _, h => by cases h; rfl
  | .integer _, _, h => by cases h; rfl
  | .float x, _, h => by
    unfold ofValue at h
    split at h
    · cases h
      rfl
    · cases h
  | .string _, _, h => by cases h; rfl
  | .array items, _, h => by
    obtain ⟨xs, converted, rfl⟩ := map_eq_ok.mp h
    exact placeholdersIn_of_ofValues items converted
  | .object _, _, h => by cases h

theorem placeholdersIn_of_ofValues : (vs : List Value) → {xs : List Operand} →
    ofValues vs = .ok xs → placeholdersIn xs = 0
  | [], _, h => by cases h; rfl
  | v :: vs, _, h => by
    obtain ⟨x, first, h⟩ := bind_eq_ok.mp h
    obtain ⟨xs, others, h⟩ := bind_eq_ok.mp h
    cases h
    rw [placeholdersIn, placeholders_of_ofValue v first, placeholdersIn_of_ofValues vs others]

end

theorem Convert.plain {values : List Value} {xs : List Operand} (h : Convert values xs) :
    ∀ x ∈ xs, x.placeholders = 0 := by
  induction h with
  | nil => simp
  | cons first _ ih => simpa using ⟨placeholders_of_ofValue _ first, ih⟩

mutual

theorem ofValue_ne_outOfParameters : (v : Value) → ofValue v ≠ .error .outOfParameters
  | .null => by simp [ofValue]
  | .boolean _ => by simp [ofValue]
  | .integer _ => by simp [ofValue]
  | .float x => by unfold ofValue; split <;> simp
  | .string _ => by simp [ofValue]
  | .array items => by
    rw [ofValue, ne_eq, map_eq_error]
    exact ofValues_ne_outOfParameters items
  | .object _ => by simp [ofValue]

theorem ofValues_ne_outOfParameters : (vs : List Value) → ofValues vs ≠ .error .outOfParameters
  | [] => by simp [ofValues]
  | v :: vs => by
    intro h
    rcases bind_eq_error.mp h with first | ⟨x, -, h⟩
    · exact ofValue_ne_outOfParameters v first
    · rcases bind_eq_error.mp h with others | ⟨xs, -, h⟩
      · exact ofValues_ne_outOfParameters vs others
      · cases h

end

mutual

/-- Values that are enough by the count are enough for all placeholders that are met. -/
theorem bind_ne_outOfParameters : (x : Operand) → {values : List Value} →
    x.placeholders ≤ values.length → x.bind values ≠ .error .outOfParameters
  | placeholder, [], enough => absurd enough (by simp [placeholders])
  | placeholder, v :: values, _ => by
    rw [bind, ne_eq, map_eq_error]
    exact ofValue_ne_outOfParameters v
  | list items, values, enough => by
    rw [bind, ne_eq, map_eq_error]
    exact bindItems_ne_outOfParameters items enough
  | key _, _, _ => by simp [bind]
  | null, _, _ => by simp [bind]
  | boolean _, _, _ => by simp [bind]
  | number _, _, _ => by simp [bind]
  | string _, _, _ => by simp [bind]

theorem bindItems_ne_outOfParameters : (ys : List Operand) → {values : List Value} →
    placeholdersIn ys ≤ values.length → bindItems values ys ≠ .error .outOfParameters
  | [], _, _ => by simp [bindItems]
  | y :: ys, values, enough => by
    rw [placeholdersIn] at enough
    intro h
    rcases bind_eq_error.mp h with first | ⟨⟨z, mid⟩, first, h⟩
    · exact bind_ne_outOfParameters y (by omega) first
    · obtain ⟨xs, taken, -⟩ := (bind_eq_ok_iff y).mp first
      have lengths := taken.length_eq
      rcases bind_eq_error.mp h with others | ⟨_, -, h⟩
      · exact bindItems_ne_outOfParameters ys (by omega) others
      · cases h

end

end Operand

theorem Draft.placeholders_fill (d : Draft) {xs : List Operand} (count : xs.length = d.placeholders)
    (plain : ∀ x ∈ xs, x.placeholders = 0) : (d.fill xs).placeholders = 0 := by
  induction d generalizing xs with
  | comparison left op right => exact right.placeholders_fill xs count plain
  | negation inner ih => exact ih count plain
  | join left op right first second =>
    obtain ⟨front, back⟩ := lengths_of_add count
    have none := first front fun x member => plain x (List.mem_of_mem_take member)
    have none' := second back fun x member => plain x (List.mem_of_mem_drop member)
    rw [fill, placeholders, none, none']

theorem Comparison.bind_ne_outOfParameters {c : Comparison} {values : List Value}
    (enough : c.placeholders ≤ values.length) : c.bind values ≠ .error .outOfParameters := by
  unfold bind
  split
  · simp
  · intro h
    rcases bind_eq_error.mp h with right | ⟨⟨right, rest⟩, -, h⟩
    · exact c.right.bind_ne_outOfParameters enough right
    · dsimp only at h
      split at h <;> cases h

namespace Condition

theorem binds_of_draft {c b : Condition} {xs : List Operand} (count : xs.length = c.placeholders)
    (same : b.draft = c.draft.fill xs) : c.Binds xs b := by
  induction c generalizing b xs with
  | comparison c =>
    cases b with
    | comparison k =>
      injection same with left op right
      exact .comparison left op (right ▸ c.right.binds_fill xs count)
    | negation => cases same
    | join => cases same
  | negation inner ih =>
    cases b with
    | negation k =>
      injection same with same
      exact .negation (ih count same)
    | comparison => cases same
    | join => cases same
  | join left op right first second =>
    cases b with
    | join l op' r =>
      obtain ⟨front, back⟩ := lengths_of_add count
      rw [draft, draft, Draft.fill, placeholders_draft] at same
      injection same with same connective same'
      subst connective
      have whole : (Condition.join left op' right).Binds _ (join l op' r) :=
        .join (first front same) (second back same')
      rwa [List.take_append_drop] at whole
    | comparison => cases same
    | negation => cases same

theorem bindFrom_ne_outOfParameters {c : Condition} {values : List Value}
    (enough : c.placeholders ≤ values.length) : c.bindFrom values ≠ .error .outOfParameters := by
  induction c generalizing values with
  | comparison c =>
    rw [bindFrom, ne_eq, map_eq_error]
    exact Comparison.bind_ne_outOfParameters enough
  | negation inner ih =>
    rw [bindFrom, ne_eq, map_eq_error]
    exact ih enough
  | join left op right first second =>
    rw [placeholders] at enough
    intro h
    rcases bind_eq_error.mp h with bound | ⟨⟨l, mid⟩, bound, h⟩
    · exact first (by omega) bound
    · obtain ⟨xs, taken, -⟩ := bindFrom_eq_ok_iff.mp bound
      have lengths := taken.length_eq
      rcases bind_eq_error.mp h with bound' | ⟨_, -, h⟩
      · exact second (by omega) bound'
      · cases h

theorem fit_ne_unboundPlaceholder {c : Condition} (bound : c.placeholders = 0) (record : Record)
    (k : Comparison) : c.fit record ≠ .error (.unboundPlaceholder k) := by
  have none : ∀ k ∈ c.tested record, k.placeholders = 0 := fun k tested =>
    placeholders_of_mem bound k (c.tested_subset tested)
  exact c.fit_ne_unboundPlaceholder_iff.mpr none k

end Condition

namespace Expression

def bindFrom (params : List Value) : Expression → Except BindError (Expression × List Value)
  | operand x => (x.bind params).map fun (y, rest) => (operand y, rest)
  | condition c => (c.bindFrom params).map fun (b, rest) => (condition b, rest)

theorem bind_eq (e : Expression) (params : List Value) :
    e.bind params = if e.placeholders ≠ params.length then
      .error (.arity e.placeholders params.length) else (e.bindFrom params).map (·.1) := by
  cases e with
  | operand x =>
    simp only [bind, bindFrom, placeholders]
    by_cases arity : x.placeholders = params.length
    · simp only [arity, ne_eq, not_true_eq_false, if_false]
      cases x.bind params <;> rfl
    · simp only [arity, ne_eq, not_false_eq_true, if_true]
  | condition c =>
    simp only [bind, Condition.bind, bindFrom, placeholders]
    by_cases arity : c.placeholders = params.length
    · simp only [arity, ne_eq, not_true_eq_false, if_false]
      cases c.bindFrom params <;> rfl
    · simp only [arity, ne_eq, not_false_eq_true, if_true]
      rfl

theorem bindFrom_eq_ok {e b : Expression} {params rest : List Value}
    (h : e.bindFrom params = .ok (b, rest)) :
    b.placeholders = 0 ∧ ∃ xs, Operand.Takes params e.placeholders xs rest ∧ e.Binds xs b := by
  cases e with
  | operand x =>
    obtain ⟨⟨y, rest'⟩, bound, same⟩ := map_eq_ok.mp h
    cases same
    obtain ⟨xs, taken, rfl⟩ := (Operand.bind_eq_ok_iff x).mp bound
    have ⟨_, _, converted, count⟩ := taken
    have plain := x.placeholders_fill xs count converted.plain
    exact ⟨plain, xs, taken, .operand (x.binds_fill xs count)⟩
  | condition c =>
    obtain ⟨⟨b, rest'⟩, bound, same⟩ := map_eq_ok.mp h
    cases same
    obtain ⟨xs, taken, same⟩ := Condition.bindFrom_eq_ok_iff.mp bound
    have ⟨_, _, converted, count⟩ := taken
    refine ⟨?_, xs, taken, .condition (Condition.binds_of_draft count same)⟩
    have plain := c.draft.placeholders_fill (by rwa [c.placeholders_draft]) converted.plain
    rwa [← same, b.placeholders_draft] at plain

theorem bindFrom_ne_outOfParameters {e : Expression} {params : List Value}
    (enough : e.placeholders ≤ params.length) : e.bindFrom params ≠ .error .outOfParameters := by
  cases e with
  | operand x =>
    rw [bindFrom, ne_eq, map_eq_error]
    exact x.bind_ne_outOfParameters enough
  | condition c =>
    rw [bindFrom, ne_eq, map_eq_error]
    exact Condition.bindFrom_ne_outOfParameters enough

end Expression

theorem exists_of_mapM_eq_error {ε α β : Type} {f : α → Except ε β} {xs : List α} {e : ε}
    (h : xs.mapM f = .error e) : ∃ x ∈ xs, f x = .error e := by
  induction xs with
  | nil => cases h
  | cons x xs ih =>
    rw [List.mapM_cons] at h
    rcases bind_eq_error.mp h with first | ⟨y, -, h⟩
    · exact ⟨x, List.mem_cons_self, first⟩
    · rcases bind_eq_error.mp h with others | ⟨ys, -, h⟩
      · obtain ⟨z, member, fails⟩ := ih others
        exact ⟨z, List.mem_cons_of_mem x member, fails⟩
      · cases h

namespace Check

theorem placeholders_of_bound {check : Check} {e : Expression} (h : check.bound = .ok e) :
    e.placeholders = 0 := by
  obtain ⟨source, -, h⟩ := bind_eq_ok.mp h
  obtain ⟨params, -, h⟩ := bind_eq_ok.mp h
  split at h
  · next plain =>
    cases h
    exact plain.2
  · cases bound : source.bind params with
    | error fault => simp [bound, Except.mapError] at h
    | ok b =>
      rw [bound] at h
      cases h
      rw [Expression.bind_eq] at bound
      split at bound
      · cases bound
      · obtain ⟨⟨b, rest⟩, bound, same⟩ := map_eq_ok.mp bound
        exact same ▸ (Expression.bindFrom_eq_ok bound).1

theorem bound_ne_evaluate (check : Check) (e : CursorError) :
    check.bound ≠ .error (.evaluate e) := by
  intro h
  rcases bind_eq_error.mp h with parsed | ⟨source, -, h⟩
  · cases read : Expression.parse check.expression <;> simp [read, Except.mapError] at parsed
  rcases bind_eq_error.mp h with params | ⟨params, -, h⟩
  · obtain ⟨text, -, params⟩ := exists_of_mapM_eq_error params
    rw [map_eq_error, document] at params
    split at params <;> cases params
  split at h
  · cases h
  · cases bound : source.bind params <;> simp [bound, Except.mapError] at h

theorem tested_or_fails (c : Condition) (records : List Json) :
    (∀ x ∈ records, ∃ b, c.fit x.record = .ok b) ∨
      ∃ before x after e, records = before ++ x :: after ∧
        (∀ y ∈ before, ∃ b, c.fit y.record = .ok b) ∧ c.fit x.record = .error e := by
  induction records with
  | nil => exact .inl (by simp)
  | cons x records ih =>
    cases first : c.fit x.record with
    | error e => exact .inr ⟨[], x, records, e, rfl, by simp, first⟩
    | ok b =>
      rcases ih with tested | ⟨before, y, after, e, rfl, tested, fails⟩
      · exact .inl (by simpa [first] using tested)
      · exact .inr ⟨x :: before, y, after, e, rfl, by simpa [first] using tested, fails⟩

theorem fit_of_apply_error {countOnly : Bool} {c : Condition} {j : Json} {e : CursorError}
    (h : apply countOnly c j = .error (.evaluate e)) :
    ∃ record fault, e = .test fault ∧ c.fit record = .error fault := by
  cases j with
  | array records =>
    rcases tested_or_fails c records with tested | ⟨before, x, after, fault, rfl, tested, fails⟩
    · rw [apply_array_of_ok tested] at h
      cases h
    · rw [apply_array_of_error tested fails] at h
      cases h
      exact ⟨x.record, fault, rfl, fails⟩
  | object fields =>
    cases fit : c.fit (Json.object fields).record with
    | ok b => simp [apply, fit, Except.map, Except.mapError] at h
    | error fault =>
      simp only [apply, fit, Except.map, Except.mapError, Except.error.injEq,
        CheckError.evaluate.injEq] at h
      exact ⟨_, fault, h.symm, fit⟩
  | _ => cases h

/-- A check fails with a failure of a test only if its condition, which holds no placeholder by
then, fails on a record. -/
theorem fit_of_run_error {check : Check} {e : CursorError} (h : check.run = .error (.evaluate e)) :
    ∃ c record fault, c.placeholders = 0 ∧ e = .test fault ∧
      Condition.fit c record = .error fault := by
  rcases bind_eq_error.mp h with unbound | ⟨source, bound, h⟩
  · exact absurd unbound (check.bound_ne_evaluate e)
  cases source with
  | operand x => cases h
  | condition c =>
    dsimp only at h
    split at h
    · cases h
    · cases input : check.input with
      | none =>
        simp only [input] at h
        cases h
      | some text =>
        simp only [input] at h
        rcases bind_eq_error.mp h with unread | ⟨j, -, h⟩
        · unfold document at unread
          split at unread <;> cases unread
        · obtain ⟨record, fault, rfl, fails⟩ := fit_of_apply_error h
          exact ⟨c, record, fault, placeholders_of_bound bound, rfl, fails⟩

end Check

namespace Expression

/-- Where binding succeeds there was one value for each placeholder, each value has gone to its
placeholder in the order of the text, no value is left over, and no placeholder is left. Binding
never lacks a value that the count has promised, and no check ever tests a placeholder. -/
theorem bind_consumes (e : Expression) (params : List Value) :
    (∀ b, e.bind params = .ok b →
      b.placeholders = 0 ∧ params.length = e.placeholders ∧ e.bindFrom params = .ok (b, []) ∧
        ∃ xs, List.Forall₂ (fun v x => Operand.ofValue v = .ok x) params xs ∧ e.Binds xs b) ∧
      e.bind params ≠ .error .outOfParameters ∧
      ∀ (check : Check) (k : Comparison),
        check.run ≠ .error (.evaluate (.test (.unboundPlaceholder k))) := by
  refine ⟨?_, ?_, ?_⟩
  · intro b h
    rw [bind_eq] at h
    split at h
    · cases h
    · next arity =>
      have count : e.placeholders = params.length := not_not.mp arity
      obtain ⟨⟨b', rest⟩, bound, rfl⟩ := map_eq_ok.mp h
      obtain ⟨plain, xs, taken, binds⟩ := bindFrom_eq_ok bound
      obtain rfl := taken.rest_eq_nil count
      exact ⟨plain, count.symm, bound, xs, taken.all count, binds⟩
  · intro h
    rw [bind_eq] at h
    split at h
    · cases h
    · next arity =>
      have count : e.placeholders = params.length := not_not.mp arity
      exact bindFrom_ne_outOfParameters (Nat.le_of_eq count) (map_eq_error.mp h)
  · intro check k h
    obtain ⟨c, record, fault, plain, same, fails⟩ := Check.fit_of_run_error h
    cases same
    exact Condition.fit_ne_unboundPlaceholder plain record k fails

/-- Values for both sides of a connective, inside a list and for a list. -/
theorem bind_consumes_lists :
    let e : Expression := .condition (.join
      (.comparison ⟨.key "a", .member, .list [.placeholder, .null, .placeholder], none, rfl⟩) .or
      (.negation (.comparison ⟨.key "b", .member, .placeholder, none, rfl⟩)))
    let b : Expression := .condition (.join
      (.comparison ⟨.key "a", .member, .list [.number (.int32 1), .null, .string "x"], none, rfl⟩)
      .or (.negation (.comparison ⟨.key "b", .member, .list [.boolean true], none, rfl⟩)))
    let params : List Value := [.integer 1, .string "x", .array [.boolean true]]
    e.bind params = .ok b ∧ b.placeholders = 0 ∧ params.length = e.placeholders ∧
      e.bindFrom params = .ok (b, []) ∧ ∃ xs, e.Binds xs b := by
  intro e b params
  have bound : e.bind params = .ok b := by cbv
  obtain ⟨plain, count, all, xs, -, binds⟩ := (bind_consumes e params).1 b bound
  exact ⟨bound, plain, count, all, xs, binds⟩

end Expression
end RecordFilter
