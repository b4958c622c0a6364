import RecordFilter.Binding
import RecordFilter.Proofs.Draft.Reading

namespace RecordFilter

abbrev Operand.Convert (values : List Value) (xs : List Operand) : Prop :=
  List.Forall₂ (fun v x => ofValue v = .ok x) values xs

/-- The first `n` of the values convert to these operands, and the rest is left over. -/
def Operand.Takes (values : List Value) (n : Nat) (xs : List Operand) (rest : List Value) : Prop :=
  ∃ used, values = used ++ rest ∧ Convert used xs ∧ xs.length = n

namespace Operand

theorem takes_zero {values rest : List Value} {xs : List Operand} :
    Takes values 0 xs rest ↔ xs = [] ∧ rest = values := by
  constructor
  · rintro ⟨used, rfl, converted, empty⟩
    obtain rfl := List.length_eq_zero_iff.mp empty
    cases converted
    exact ⟨rfl, rfl⟩
  · rintro ⟨rfl, rfl⟩
    exact ⟨[], rfl, .nil, rfl⟩

theorem takes_one {values rest : List Value} {xs : List Operand} :
    Takes values 1 xs rest ↔ ∃ v x, values = v :: rest ∧ xs = [x] ∧ ofValue v = .ok x := by
  constructor
  · rintro ⟨used, rfl, converted, single⟩
    obtain ⟨x, rfl⟩ := List.length_eq_one_iff.mp single
    cases converted with
    | cons first others =>
      cases others
      exact ⟨_, x, rfl, rfl, first⟩
  · rintro ⟨v, x, rfl, rfl, converted⟩
    exact ⟨[v], rfl, .cons converted .nil, rfl⟩

theorem takes_add {values rest : List Value} {n m : Nat} {p : List Operand → List Operand → Prop} :
    (∃ xs, Takes values (n + m) xs rest ∧ p (xs.take n) (xs.drop n)) ↔
      ∃ xs mid ys, Takes values n xs mid ∧ Takes mid m ys rest ∧ p xs ys := by
  constructor
  · rintro ⟨xs, ⟨used, rfl, converted, total⟩, h⟩
    refine ⟨xs.take n, used.drop n ++ rest, xs.drop n, ?_, ?_, h⟩
    · refine ⟨used.take n, ?_, List.forall₂_take n converted, ?_⟩
      · rw [← List.append_assoc, List.take_append_drop]
      · rw [List.length_take]
        omega
    · refine ⟨used.drop n, rfl, List.forall₂_drop n converted, ?_⟩
      rw [List.length_drop]
      omega
  · rintro ⟨xs, mid, ys, ⟨first, rfl, converted, rfl⟩, ⟨second, rfl, converted', rfl⟩, h⟩
    refine ⟨xs ++ ys, ⟨first ++ second, ?_, ?_, List.length_append⟩, ?_⟩
    · rw [List.append_assoc]
    · exact List.rel_append converted converted'
    · rwa [List.take_left, List.drop_left]

theorem Takes.length_eq {values rest : List Value} {n : Nat} {xs : List Operand}
    (h : Takes values n xs rest) : values.length = n + rest.length := by
  obtain ⟨used, rfl, converted, total⟩ := h
  rw [List.length_append, converted.length_eq, total]

theorem Takes.rest_eq_nil {values rest : List Value} {n : Nat} {xs : List Operand}
    (h : Takes values n xs rest) (count : n = values.length) : rest = [] := by
  have lengths := h.length_eq
  exact List.length_eq_zero_iff.mp (by omega)

theorem Takes.all {values rest : List Value} {n : Nat} {xs : List Operand}
    (h : Takes values n xs rest) (count : n = values.length) : Convert values xs := by
  obtain rfl := h.rest_eq_nil count
  obtain ⟨used, rfl, converted, total⟩ := h
  rwa [List.append_nil]

mutual

/-- Puts operands in the places of the placeholders, one after the other. -/
def fill (xs : List Operand) : Operand → Operand
  | placeholder => xs.headD placeholder
  | list items => list (fillItems xs items)
  | x => x

def fillItems (xs : List Operand) : List Operand → List Operand
  | [] => []
  | y :: ys => y.fill (xs.take y.placeholders) :: fillItems (xs.drop y.placeholders) ys

end

mutual

theorem fill_eq_self : (x : Operand) → (xs : List Operand) → x.placeholders = 0 → x.fill xs = x
  | placeholder, _, h => by cases h
  | list items, xs, h => by rw [fill, fillItems_eq_self items xs h]
  | key _, _, _ => rfl
  | null, _, _ => rfl
  | boolean _, _, _ => rfl
  | number _, _, _ => rfl
  | string _, _, _ => rfl

theorem fillItems_eq_self : (ys xs : List Operand) → placeholdersIn ys = 0 → fillItems xs ys = ys
  | [], _, _ => rfl
  | y :: ys, xs, h => by
    obtain ⟨first, others⟩ := Nat.add_eq_zero_iff.mp h
    rw [fillItems, fill_eq_self y _ first, fillItems_eq_self ys _ others]

end

mutual

theorem bind_eq_ok_iff : (x : Operand) → {values rest : List Value} → {y : Operand} →
    (x.bind values = .ok (y, rest) ↔
      ∃ xs, Takes values x.placeholders xs rest ∧ y = x.fill xs)
  | placeholder, values, rest, y => by
    simp only [placeholders, takes_one]
    cases values with
    | nil => simp [bind]
    | cons v values =>
      simp only [bind, map_eq_ok, List.cons.injEq]
      constructor
      · rintro ⟨x, converted, h⟩
        cases h
        exact ⟨[y], ⟨v, y, ⟨rfl, rfl⟩, rfl, converted⟩, rfl⟩
      · rintro ⟨_, ⟨_, _, ⟨rfl, rfl⟩, rfl, converted⟩, rfl⟩
        exact ⟨_, converted, rfl⟩
  | list items, values, rest, y => by
    simp only [bind, map_eq_ok, placeholders, fill]
    constructor
    · rintro ⟨⟨ys, left⟩, bound, h⟩
      cases h
      obtain ⟨xs, taken, rfl⟩ := (bindItems_eq_ok_iff items).mp bound
      exact ⟨xs, taken, rfl⟩
    · rintro ⟨xs, taken, rfl⟩
      exact ⟨_, (bindItems_eq_ok_iff items).mpr ⟨xs, taken, rfl⟩, rfl⟩
  | key _, _, _, _ => by simp [bind, placeholders, takes_zero, fill, eq_comm, and_comm]
  | null, _, _, _ => by simp [bind, placeholders, takes_zero, fill, eq_comm, and_comm]
  | boolean _, _, _, _ => by simp [bind, placeholders, takes_zero, fill, eq_comm, and_comm]
  | number _, _, _, _ => by simp [bind, placeholders, takes_zero, fill, eq_comm, and_comm]
  | string _, _, _, _ => by simp [bind, placeholders, takes_zero, fill, eq_comm, and_comm]

theorem bindItems_eq_ok_iff : (ys : List Operand) → {values rest : List Value} →
    {zs : List Operand} →
    (bindItems values ys = .ok (zs, rest) ↔
      ∃ xs, Takes values (placeholdersIn ys) xs rest ∧ zs = fillItems xs ys)
  | [], values, rest, zs => by
    simp [bindItems, placeholdersIn, takes_zero, fillItems, eq_comm, and_comm]
  | y :: ys, values, rest, zs => by
    simp only [bindItems, placeholdersIn, fillItems]
    rw [takes_add (p := fun front back => zs = y.fill front :: fillItems back ys), bind_eq_ok]
    constructor
    · rintro ⟨⟨z, mid⟩, first, h⟩
      obtain ⟨⟨zs', rest'⟩, others, h⟩ := bind_eq_ok.mp h
      cases h
      obtain ⟨front, taken, rfl⟩ := (bind_eq_ok_iff y).mp first
      obtain ⟨back, taken', rfl⟩ := (bindItems_eq_ok_iff ys).mp others
      exact ⟨front, mid, back, taken, taken', rfl⟩
    · rintro ⟨front, mid, back, taken, taken', rfl⟩
      refine ⟨_, (bind_eq_ok_iff y).mpr ⟨front, taken, rfl⟩, ?_⟩
      rw [bind_eq_ok]
      exact ⟨_, (bindItems_eq_ok_iff ys).mpr ⟨back, taken', rfl⟩, rfl⟩

end

mutual

theorem Legible.fill : {x : Operand} → {xs : List Operand} → x.Legible →
    (∀ y ∈ xs, y.Legible) → (x.fill xs).Legible
  | list _, _, h, filled => LegibleItems.fillItems h filled
  | placeholder, [], _, _ => trivial
  | placeholder, y :: _, _, filled => filled y List.mem_cons_self
  | key _, _, h, _ => h
  | null, _, h, _ => h
  | boolean _, _, h, _ => h
  | number _, _, h, _ => h
  | string _, _, h, _ => h

theorem LegibleItems.fillItems : {ys xs : List Operand} → LegibleItems ys →
    (∀ y ∈ xs, y.Legible) → LegibleItems (fillItems xs ys)
  | [], _, _, _ => trivial
  | _ :: _, _, h, filled =>
    ⟨h.1.fill fun y member => filled y (List.mem_of_mem_take member),
      LegibleItems.fillItems h.2 fun y member => filled y (List.mem_of_mem_drop member)⟩

end

mutual

theorem legible_of_ofValue : (v : Value) → {x : Operand} → ofValue v = .ok x → x.Legible
  | .null, _, h => by
    cases h
    trivial
  | .boolean _, _, h => by
    cases h
    trivial
  | .integer n, _, h => by
    cases h
    unfold Legible Number.ofInt64
    split
    · trivial
    · next wide => exact wide
  | .float x, _, h => by
    unfold ofValue at h
    split at h
    · next finite =>
      cases h
      exact finite
    · cases h
  | .string _, _, h => by
    cases h
    trivial
  | .array items, _, h => by
    obtain ⟨xs, converted, rfl⟩ := map_eq_ok.mp h
    exact legibleItems_of_ofValues items converted
  | .object _, _, h => by cases h

theorem legibleItems_of_ofValues : (vs : List Value) → {xs : List Operand} →
    ofValues vs = .ok xs → LegibleItems xs
  | [], _, h => by
    cases h
    trivial
  | v :: vs, _, h => by
    obtain ⟨x, first, h⟩ := bind_eq_ok.mp h
    obtain ⟨xs, others, h⟩ := bind_eq_ok.mp h
    cases h
    exact ⟨legible_of_ofValue v first, legibleItems_of_ofValues vs others⟩

end

theorem Convert.legible {values : List Value} {xs : List Operand} (h : Convert values xs) :
    ∀ x ∈ xs, x.Legible := by
  induction h with
  | nil => simp
  | cons first _ ih => simpa using ⟨legible_of_ofValue _ first, ih⟩

end Operand

namespace Draft

def fill (xs : List Operand) : Draft → Draft
  | comparison left op right => comparison left op (right.fill xs)
  | negation inner => negation (inner.fill xs)
  | join left op right =>
    join (left.fill (xs.take left.placeholders)) op (right.fill (xs.drop left.placeholders))

@[simp] theorem isJoin_fill (xs : List Operand) (d : Draft) : (d.fill xs).isJoin = d.isJoin := by
  cases d <;> rfl

@[simp] theorem depth_fill (xs : List Operand) (d : Draft) : (d.fill xs).depth = d.depth := by
  induction d generalizing xs with
  | comparison => rfl
  | negation inner ih => rw [fill, depth, depth, ih]
  | join left op right first second => rw [fill, depth, depth, first, second]

/-- A list in the place of a placeholder adds a level at most. -/
theorem nesting_fill_le (xs : List Operand) (d : Draft) : (d.fill xs).nesting ≤ d.nesting + 1 := by
  induction d generalizing xs with
  | comparison left op right =>
    rw [fill, nesting]
    split <;> omega
  | negation inner ih =>
    have := ih xs
    rw [fill, nesting, nesting]
    omega
  | join left op right first second =>
    have := first (xs.take left.placeholders)
    have := second (xs.drop left.placeholders)
    rw [fill, nesting, nesting, isJoin_fill]
    split <;> omega

theorem Legible.fill {d : Draft} {xs : List Operand} (h : d.Legible)
    (filled : ∀ x ∈ xs, x.Legible) : (d.fill xs).Legible := by
  induction d generalizing xs with
  | comparison left op right => exact ⟨h.1, h.2.1, h.2.2.1, h.2.2.2.fill filled⟩
  | negation inner ih => exact ih h filled
  | join left op right first second =>
    exact ⟨first h.1 fun x member => filled x (List.mem_of_mem_take member),
      second h.2 fun x member => filled x (List.mem_of_mem_drop member)⟩

end Draft

theorem Comparison.bind_eq_ok_iff {c b : Comparison} {values rest : List Value} :
    c.bind values = .ok (b, rest) ↔ ∃ xs, Operand.Takes values c.placeholders xs rest ∧
      (Condition.comparison b).draft = (Condition.comparison c).draft.fill xs := by
  simp only [Condition.draft, Draft.fill, Draft.comparison.injEq]
  by_cases bound : c.placeholders = 0
  · have same (xs : List Operand) : c.right.fill xs = c.right := Operand.fill_eq_self _ _ bound
    simp only [bind, bound, if_true, Operand.takes_zero, same, ← eq_iff, Except.ok.injEq,
      Prod.mk.injEq]
    constructor
    · rintro ⟨rfl, rfl⟩
      exact ⟨[], ⟨rfl, rfl⟩, rfl⟩
    · rintro ⟨xs, ⟨-, rfl⟩, rfl⟩
      exact ⟨rfl, rfl⟩
  · simp only [bind, bound, if_false, bind_eq_ok]
    constructor
    · rintro ⟨⟨right, left'⟩, filled, h⟩
      obtain ⟨xs, taken, rfl⟩ := (Operand.bind_eq_ok_iff _).mp filled
      dsimp only at h
      split at h
      · next k made =>
        cases h
        exact ⟨xs, taken, eq_of_make made⟩
      · cases h
    · rintro ⟨xs, taken, left, op, right⟩
      refine ⟨_, (Operand.bind_eq_ok_iff _).mpr ⟨xs, taken, rfl⟩, ?_⟩
      have made := b.make_eq
      rw [left, op, right] at made
      simp only [made]
      rfl

namespace Condition

theorem bindFrom_eq_ok_iff {c b : Condition} {values rest : List Value} :
    c.bindFrom values = .ok (b, rest) ↔ ∃ xs, Operand.Takes values c.placeholders xs rest ∧
      b.draft = c.draft.fill xs := by
  induction c generalizing b values rest with
  | comparison c =>
    simp only [bindFrom, map_eq_ok, placeholders]
    constructor
    · rintro ⟨⟨k, rest'⟩, bound, h⟩
      cases h
      exact Comparison.bind_eq_ok_iff.mp bound
    · rintro ⟨xs, taken, h⟩
      cases b with
      | comparison k => exact ⟨_, Comparison.bind_eq_ok_iff.mpr ⟨xs, taken, h⟩, rfl⟩
      | negation => cases h
      | join => cases h
  | negation inner ih =>
    simp only [bindFrom, map_eq_ok, placeholders]
    constructor
    · rintro ⟨⟨k, rest'⟩, bound, h⟩
      cases h
      obtain ⟨xs, taken, same⟩ := ih.mp bound
      exact ⟨xs, taken, by rw [draft, same, draft, Draft.fill]⟩
    · rintro ⟨xs, taken, h⟩
      cases b with
      | negation k =>
        injection h with h
        exact ⟨_, ih.mpr ⟨xs, taken, h⟩, rfl⟩
      | comparison => cases h
      | join => cases h
  | join left op right first second =>
    simp only [bindFrom, placeholders, draft, Draft.fill, placeholders_draft, bind_eq_ok]
    rw [Operand.takes_add (p := fun front back =>
      b.draft = .join (left.draft.fill front) op (right.draft.fill back))]
    constructor
    · rintro ⟨⟨l, mid⟩, bound, h⟩
      obtain ⟨⟨r, rest'⟩, bound', h⟩ := h
      cases h
      obtain ⟨front, taken, same⟩ := first.mp bound
      obtain ⟨back, taken', same'⟩ := second.mp bound'
      exact ⟨front, mid, back, taken, taken', by rw [draft, same, same']⟩
    · rintro ⟨front, mid, back, taken, taken', h⟩
      cases b with
      | join l op' r =>
        injection h with same connective same'
        subst connective
        exact ⟨_, first.mpr ⟨front, taken, same⟩, _, second.mpr ⟨back, taken', same'⟩, rfl⟩
      | comparison => cases h
      | negation => cases h

/-- Binding succeeds where each value has a placeholder and an operand, and filling gives the draft
of a condition. -/
theorem bind_eq_ok_iff {c b : Condition} {values : List Value} :
    c.bind values = .ok b ↔ values.length = c.placeholders ∧
      ∃ xs, Operand.Convert values xs ∧ b.draft = c.draft.fill xs := by
  unfold bind
  split
  · next arity =>
    constructor
    · intro h
      cases h
    · rintro ⟨same, -⟩
      exact absurd same.symm arity
  · next arity =>
    have count : c.placeholders = values.length := not_not.mp arity
    rw [map_eq_ok]
    constructor
    · rintro ⟨⟨b', rest⟩, bound, rfl⟩
      obtain ⟨xs, taken, same⟩ := bindFrom_eq_ok_iff.mp bound
      exact ⟨count.symm, xs, taken.all count, same⟩
    · rintro ⟨-, xs, converted, same⟩
      have taken : Operand.Takes values c.placeholders xs [] :=
        ⟨values, by simp, converted, by rw [count, converted.length_eq]⟩
      exact ⟨_, bindFrom_eq_ok_iff.mpr ⟨xs, taken, same⟩, rfl⟩

end Condition
end RecordFilter
