import RecordFilter.Proofs.Query.Totals

namespace RecordFilter

namespace Total

/-- Each partial sum of each ordering is shorter than 96 bits when it is written with this many
places. -/
def HasRoom (places : Nat) (items : List Value) : Prop :=
  ∀ order, order.Perm items → ∀ part, part <+: order →
    |amount part| * 10 ^ places < Decimal.digitBound

/-- The running total is not zero again once a value has been added that is worth something. -/
def Lasting (items : List Value) : Prop :=
  ∀ part, part <+: items → (∃ v ∈ part, v.amount ≠ 0) → amount part ≠ 0

variable {items order : List Value} {a d : Decimal}

theorem amount_cons (v : Value) (items : List Value) :
    amount (v :: items) = v.amount + amount items :=
  List.sum_cons

theorem amount_perm (h : order.Perm items) : amount order = amount items :=
  (h.map Value.amount).sum_eq

theorem places_perm (h : order.Perm items) : places order = places items :=
  (h.map Value.places).foldr_eq 0

theorem hasRoom_of_sum {places : Nat}
    (h : ((items.map Value.amount).map abs).sum * 10 ^ places < Decimal.digitBound) :
    HasRoom places items := by
  intro order reordered part before
  have bounded (part : List Value) : |amount part| ≤ ((part.map Value.amount).map abs).sum := by
    induction part with
    | nil => simp [amount]
    | cons v part ih =>
      rw [amount_cons, List.map_cons, List.map_cons, List.sum_cons]
      exact (abs_add_le _ _).trans (add_le_add_right ih _)
  have less : ((part.map Value.amount).map abs).sum ≤ ((items.map Value.amount).map abs).sum := by
    rw [← ((reordered.map Value.amount).map abs).sum_eq]
    obtain ⟨rest, rfl⟩ := before
    rw [List.map_append, List.map_append, List.sum_append]
    exact le_add_of_nonneg_right (List.sum_nonneg (by simp))
  refine lt_of_le_of_lt ?_ h
  gcongr
  exact (bounded part).trans less

theorem lasting_of_nonneg (h : ∀ x ∈ items.map Value.amount, 0 ≤ x) : Lasting items := by
  rintro part before ⟨v, member, worth⟩
  have signs : ∀ x ∈ part.map Value.amount, 0 ≤ x := fun x inside =>
    h x ((before.map Value.amount).subset inside)
  have inside : v.amount ∈ part.map Value.amount := List.mem_map_of_mem member
  have positive : 0 < v.amount := lt_of_le_of_ne (signs _ inside) worth.symm
  exact (positive.trans_le (List.single_le_sum signs _ inside)).ne'

/-- A total that never comes back to zero keeps the finest places that it has met. -/
theorem Gathers.places_eq (h : Gathers a items d)
    (lasting : ∀ part, part <+: items → (∃ v ∈ part, v.amount ≠ 0) → a.value + amount part ≠ 0)
    (nonzero : d.digits ≠ 0) : d.places = max a.places (places items) := by
  induction h with
  | nil a => exact (Nat.max_zero _).symm
  | @cons a b d v items value scale rest ih =>
    have later := ih (fun part before ⟨w, member, worth⟩ => by
      have whole := lasting (v :: part) (List.cons_prefix_cons.mpr ⟨rfl, before⟩)
        ⟨w, List.mem_cons_of_mem v member, worth⟩
      rwa [amount_cons, ← add_assoc, ← value] at whole) nonzero
    have step : b.places = max a.places v.places := by
      by_cases zero : b.digits = 0
      · have nothing : a.value + v.amount = 0 := by rw [← value, Decimal.value_eq_zero_iff, zero]
        have worthless : v.amount = 0 := by
          by_contra worth
          have single := lasting [v] ⟨items, rfl⟩ ⟨v, List.mem_singleton_self v, worth⟩
          rw [amount_cons] at single
          simp [amount, nothing] at single
        have empty : a.digits = 0 := by
          rw [← Decimal.value_eq_zero_iff, ← nothing, worthless, add_zero]
        rw [Decimal.places_of_digits_eq_zero zero, Decimal.places_of_digits_eq_zero empty,
          Value.places_of_amount_eq_zero worthless, max_self]
      · exact scale zero
    rw [later, step, max_assoc]
    rfl

/-- Two orderings whose totals never come back to zero end with the same decimal. -/
theorem Gathers.unique {e : Decimal} (h : Gathers .zero items d) (h' : Gathers .zero order e)
    (reordered : order.Perm items) (lasting : Lasting items) (lasting' : Lasting order)
    (nonzero : d.digits ≠ 0) : e = d := by
  have same : e.value = d.value := by
    rw [h.value_eq, h'.value_eq, amount_perm reordered]
  have nonzero' : e.digits ≠ 0 := by
    rwa [ne_eq, ← Decimal.value_eq_zero_iff, same, Decimal.value_eq_zero_iff]
  have few := h.places_eq (fun part before worth =>
    (zero_add_amount part).trans_ne (lasting part before worth)) nonzero
  have few' := h'.places_eq (fun part before worth =>
    (zero_add_amount part).trans_ne (lasting' part before worth)) nonzero'
  rw [places_perm reordered, ← few, Decimal.places_of_digits_ne_zero nonzero,
    Decimal.places_of_digits_ne_zero nonzero'] at few'
  exact Decimal.eq_of_value same few'

end Total

namespace Query

open Total (amount places HasRoom Lasting)

/-- Where partial sums have room, a sum is an integer exactly if the numbers add up to that integer,
and else the float of a decimal that is what they add up to. Any ordering has the same integer as
its sum, and the same float if neither running total comes back to zero. -/
theorem sum_exact {items : List Value} (counts : ∀ v ∈ items, v.decimal?.isSome)
    (room : HasRoom (places items) items) (q : Query Value) (w : World Value)
    (holds : q.toSource.contents w.vectors = items.map .ok) :
    (∀ n : Int64, (q.sum w).1 = .ok (.integer n) ↔ amount items = n.toInt) ∧
      ((∀ n : Int64, amount items ≠ n.toInt) →
        ∃ d : Decimal, d.value = amount items ∧ (q.sum w).1 = .ok (.float d.toDouble)) ∧
      ∀ (order : List Value) (q' : Query Value) (w' : World Value), order.Perm items →
        q'.toSource.contents w'.vectors = order.map .ok →
        (∀ n : Int64, (q'.sum w').1 = .ok (.integer n) ↔ (q.sum w).1 = .ok (.integer n)) ∧
          (Lasting items → Lasting order → (q'.sum w').1 = (q.sum w).1) := by
  have ordered (order : List Value) (q' : Query Value) (w' : World Value)
      (reordered : order.Perm items) (holds' : q'.toSource.contents w'.vectors = order.map .ok) :
      ∃ d, Total.Gathers .zero order d ∧ d.value = amount items ∧
        (∀ n : Int64, (q'.sum w').1 = .ok (.integer n) ↔ amount items = n.toInt) ∧
        ((∀ n : Int64, amount items ≠ n.toInt) → (q'.sum w').1 = .ok (.float d.toDouble)) := by
    obtain ⟨d, gathers, value, integer, float⟩ := q'.sum_of_room w' holds'
      (fun v member => counts v (reordered.subset member)) (Total.places_perm reordered).le
      (room order reordered)
    rw [Total.amount_perm reordered] at value integer float
    exact ⟨d, gathers, value, integer, float⟩
  obtain ⟨d, gathers, value, integer, float⟩ := ordered items q w (.refl items) holds
  refine ⟨integer, fun other => ⟨d, value, float other⟩, fun order q' w' reordered holds' => ?_⟩
  obtain ⟨e, gathers', -, integer', float'⟩ := ordered order q' w' reordered holds'
  refine ⟨fun n => (integer' n).trans (integer n).symm, fun lasting lasting' => ?_⟩
  by_cases whole : ∃ m : Int64, amount items = m.toInt
  · obtain ⟨m, total⟩ := whole
    rw [(integer m).mpr total, (integer' m).mpr total]
  · have other := not_exists.mp whole
    have nonzero : d.digits ≠ 0 := by
      intro zero
      refine other 0 ?_
      rw [← value, Decimal.value_eq_zero_iff.mpr zero]
      simp
    rw [float other, float' other, gathers.unique gathers' reordered lasting lasting' nonzero]

/-- A tenth, two tenths and seven tenths are one in any order; a quarter and one are a float. -/
theorem sum_exact_tenths :
    let sum (items : List Value) := ((ofSource (.items none items)).sum .empty).1
    let float (digits : Nat) (scale : Int) : Value := .float (Double.ofDecimal false digits (-scale))
    let tenths := [float 1 1, float 2 1, .null, float 7 1]
    let mixed := [float 25 2, .null, .integer 1]
    (∀ v ∈ tenths, v.decimal?.isSome) ∧ HasRoom (places tenths) tenths ∧
      sum tenths = .ok (.integer 1) ∧ sum tenths.reverse = .ok (.integer 1) ∧
      (∀ v ∈ mixed, v.decimal?.isSome) ∧ HasRoom (places mixed) mixed ∧
      Lasting mixed ∧ Lasting mixed.reverse ∧ sum mixed.reverse = sum mixed := by
  intro sum float tenths mixed
  obtain ⟨counts, amounts, takes⟩ := Value.of_figures tenths
    [(1, 1), (2, 1), (0, 0), (7, 1)] (by decide +kernel)
  obtain ⟨counts', amounts', takes'⟩ := Value.of_figures mixed
    [(25, 2), (0, 0), (1, 0)] (by decide +kernel)
  have room : HasRoom (places tenths) tenths := by
    apply Total.hasRoom_of_sum
    rw [amounts, places, takes]
    norm_num
  have room' : HasRoom (places mixed) mixed := by
    apply Total.hasRoom_of_sum
    rw [amounts', places, takes']
    norm_num
  have total : amount tenths = (1 : Int64).toInt := by
    rw [amount, amounts, show (1 : Int64).toInt = 1 from rfl]
    norm_num
  have lasting : Lasting mixed := by
    apply Total.lasting_of_nonneg
    rw [amounts']
    norm_num
  have lasting' : Lasting mixed.reverse := by
    apply Total.lasting_of_nonneg
    rw [List.map_reverse, amounts']
    norm_num
  obtain ⟨integer, -, orders⟩ := sum_exact counts room (ofSource (.items none tenths)) .empty rfl
  obtain ⟨-, -, orders'⟩ := sum_exact counts' room' (ofSource (.items none mixed)) .empty rfl
  have whole := (integer 1).mpr total
  obtain ⟨same, -⟩ := orders tenths.reverse (ofSource (.items none tenths.reverse)) .empty
    tenths.reverse_perm rfl
  obtain ⟨-, same'⟩ := orders' mixed.reverse (ofSource (.items none mixed.reverse)) .empty
    mixed.reverse_perm rfl
  exact ⟨counts, room, whole, (same 1).mpr whole, counts', room', lasting, lasting',
    same' lasting lasting'⟩

/-- Without room a small number is cut off a large one, and it is missing once the large one has
gone: the sum is an integer that the numbers do not add up to, and another ordering has another sum.
With room, a float and what cancels behind it sum to another float than the other way around. -/
theorem sum_of_large_and_small :
    let sum (items : List Value) := ((ofSource (.items none items)).sum .empty).1
    let float (negative : Bool) (digits : Nat) (scale : Int) : Value :=
      .float (Double.ofDecimal negative digits (-scale))
    let large : Value := .integer 9000000000000000000
    let back : Value := .integer (-9000000000000000000)
    let cut := [large, float false 1 10, back]
    let kept := [large, back, float false 1 10]
    let fine := [float false 2943099 4, float false 1 13, float true 1 13]
    let coarse := [float false 1 13, float true 1 13, float false 2943099 4]
    (∀ v ∈ cut, v.decimal?.isSome) ∧ HasRoom 0 cut ∧ sum cut = .ok (.integer 0) ∧
      amount cut ≠ 0 ∧ kept.Perm cut ∧ sum kept ≠ sum cut ∧
      (∀ v ∈ fine, v.decimal?.isSome) ∧ HasRoom (places fine) fine ∧ coarse.Perm fine ∧
      sum coarse ≠ sum fine := by
  intro sum float large back cut kept fine coarse
  obtain ⟨counts, amounts, -⟩ := Value.of_figures cut
    [(9000000000000000000, 0), (1, 10), (-9000000000000000000, 0)] (by decide +kernel)
  obtain ⟨counts', amounts', takes⟩ := Value.of_figures fine
    [(2943099, 4), (1, 13), (-1, 13)] (by decide +kernel)
  have room : HasRoom 0 cut := by
    apply Total.hasRoom_of_sum
    rw [amounts]
    norm_num
  have room' : HasRoom (places fine) fine := by
    apply Total.hasRoom_of_sum
    rw [amounts', places, takes]
    norm_num
  have total : amount cut ≠ 0 := by
    rw [amount, amounts]
    norm_num
  let numbers (r : Result Value) : Option Int64 × Option Double :=
    (r.toOption.bind Value.toInt64?, r.toOption.bind Value.toDouble?)
  have apart {xs ys : List Value} (h : numbers (sum xs) ≠ numbers (sum ys)) : sum xs ≠ sum ys :=
    fun same => h (congrArg numbers same)
  have zero : sum cut = .ok (.integer 0) := by
    have holds : (sum cut).toOption.bind Value.toInt64? = some 0 := by decide +kernel
    obtain ⟨v, ok, holds⟩ := Option.bind_eq_some_iff.mp holds
    cases v <;> cases holds
    cases result : sum cut with
    | ok v => rw [result] at ok; cases ok; rfl
    | error e => rw [result] at ok; cases ok
  let x := float false 2943099 4
  have turned : ([float false 1 13, float true 1 13] ++ [x]).Perm
      ([x] ++ [float false 1 13, float true 1 13]) := List.perm_append_comm
  exact ⟨counts, room, zero, total, .cons large (.swap ..), apart (by decide +kernel), counts',
    room', turned, apart (by decide +kernel)⟩

end Query
end RecordFilter
