import RecordFilter.Proofs.Decimal.Exactness
import RecordFilter.Proofs.Query.Fate
import RecordFilter.Query.Sum

namespace RecordFilter

/-- Why a result can not be added to a sum: it is no item, or no finite number. A null can be
added. -/
def refusal? : Result Value → Option CursorError
  | .error e => some e
  | .ok .null => none
  | .ok (.integer _) => none
  | .ok (.float x) => if x.isFinite then none else some .notFinite
  | .ok v => some (.notNumeric v.kind)

namespace Total

def addResult (t : Total) (r : Result Value) : Result Total := r.bind t.addValue

theorem addResult_of_refusal {r : Result Value} {e : CursorError} (refused : refusal? r = some e)
    (t : Total) : t.addResult r = .error e := by
  rcases r with e' | v
  · cases refused
    rfl
  · cases v with
    | float x =>
      obtain ⟨infinite, rfl⟩ : x.isFinite = false ∧ .notFinite = e := by
        simpa [refusal?] using refused
      simp [addResult, Except.bind, addValue, infinite]
    | _ => cases refused <;> rfl

theorem exists_addResult {r : Result Value} (taken : refusal? r = none) (t : Total) :
    ∃ t', t.addResult r = .ok t' := by
  rcases r with e | v
  · cases taken
  · cases v with
    | null => exact ⟨_, rfl⟩
    | integer n => exact ⟨_, rfl⟩
    | float x =>
      have finite : x.isFinite = true := by simpa [refusal?] using taken
      simp [addResult, Except.bind, addValue, finite]
    | _ => cases taken

theorem foldlM_of_refusal {before after : List (Result Value)} {r : Result Value} {e : CursorError}
    (taken : ∀ b ∈ before, refusal? b = none) (refused : refusal? r = some e) (t : Total) :
    (before ++ r :: after).foldlM addResult t = .error e := by
  induction before generalizing t with
  | nil =>
    rw [List.nil_append, List.foldlM_cons, addResult_of_refusal refused]
    rfl
  | cons b before ih =>
    obtain ⟨t', added⟩ := exists_addResult (taken b List.mem_cons_self) t
    rw [List.cons_append, List.foldlM_cons, added]
    exact ih (fun b member => taken b (List.mem_cons_of_mem _ member)) t'

end Total

namespace Query

theorem aggregate_add {step : Result Total → Value → ForInStep (Result Total)}
    (yields : ∀ t v t', t.addValue v = .ok t' → step (.ok t) v = .yield (.ok t'))
    (done : ∀ t v e, t.addValue v = .error e → step (.ok t) v = .done (.error e))
    (t : Total) (q : Query Value) (w : World Value) :
    (q.aggregate step (.ok t) w).1.bind (·.bind Total.value) =
      (q.toSource.contents w.vectors).foldlM Total.addResult t >>= Total.value := by
  rw [aggregate, traverse_eq]
  generalize w.logAll _ = logged
  induction q.toSource.contents w.vectors generalizing t with
  | nil => rfl
  | cons r results ih =>
    rcases r with e | v
    · rfl
    · rw [List.foldlM_cons, consume]
      cases added : t.addValue v with
      | error e => simp [done t v e added, Total.addResult, Except.bind, added, Bind.bind]
      | ok t' =>
        simpa [yields t v t' added, Total.addResult, Except.bind, added, Bind.bind] using ih t'

theorem sum_eq (q : Query Value) (w : World Value) :
    (q.sum w).1 =
      (q.toSource.contents w.vectors).foldlM Total.addResult Total.zero >>= Total.value := by
  refine aggregate_add (fun t v t' added => ?_) (fun t v e refused => ?_) .zero q w
  · simp [Except.bind, added]
  · simp [Except.bind, refused]

end Query

namespace Value

/-- The decimal that a value counts as in a sum; a null counts as zero. -/
def decimal? : Value → Option Decimal
  | null => some .zero
  | integer n => some (.ofInt64 n)
  | float x => Decimal.ofDoubleExactly? x
  | _ => none

/-- What a value is worth in a sum. -/
def amount (v : Value) : ℚ := v.decimal?.elim 0 (·.value)

def places (v : Value) : Nat := v.decimal?.elim 0 (·.places)

theorem amount_null : null.amount = 0 := Decimal.value_zero

theorem amount_integer (n : Int64) : (integer n).amount = n.toInt := Decimal.value_ofInt64 n

theorem places_null : null.places = 0 := rfl

theorem places_integer (n : Int64) : (integer n).places = 0 := Decimal.places_ofInt64 n

theorem of_figures (items : List Value) (figures : List (Int × Nat))
    (h : items.map (·.decimal?.map fun d => (d.digits, d.scale)) = figures.map some) :
    (∀ v ∈ items, v.decimal?.isSome) ∧
      items.map amount = figures.map (fun f => (f.1 : ℚ) / 10 ^ f.2) ∧
      items.map places = figures.map fun f => if f.1 = 0 then 0 else f.2 := by
  induction items generalizing figures with
  | nil =>
    obtain rfl := List.map_eq_nil_iff.mp h.symm
    exact ⟨List.forall_mem_nil _, rfl, rfl⟩
  | cons v items ih =>
    obtain ⟨f, figures, rfl, first, rest⟩ := List.map_eq_cons_iff.mp h.symm
    obtain ⟨d, counts, rfl⟩ := Option.map_eq_some_iff.mp first.symm
    obtain ⟨all, amounts, takes⟩ := ih figures rest.symm
    simp only [List.map_cons, amounts, takes, List.forall_mem_cons]
    exact ⟨⟨by rw [counts]; rfl, all⟩, by rw [amount, counts]; rfl, by rw [places, counts]; rfl⟩

theorem places_of_amount_eq_zero {v : Value} (h : v.amount = 0) : v.places = 0 := by
  unfold amount at h
  unfold places
  cases counts : v.decimal? with
  | none => rfl
  | some d =>
    rw [counts] at h
    exact Decimal.places_of_digits_eq_zero (Decimal.value_eq_zero_iff.mp h)

end Value

namespace Total

/-- What values amount to. -/
def amount (items : List Value) : ℚ := (items.map Value.amount).sum

theorem zero_add_amount (items : List Value) :
    Decimal.zero.value + amount items = amount items := by
  rw [Decimal.value_zero, zero_add]

/-- The most places that a value takes. -/
def places (items : List Value) : Nat := (items.map Value.places).foldr max 0

/-- A total becomes another one in exact steps, one for each value. -/
inductive Gathers : Decimal → List Value → Decimal → Prop where
  | nil (a : Decimal) : Gathers a [] a
  | cons {a b d : Decimal} {v : Value} {items : List Value} (value : b.value = a.value + v.amount)
      (places : b.digits ≠ 0 → b.places = max a.places v.places) (rest : Gathers b items d) :
      Gathers a (v :: items) d

variable {a d : Decimal} {items : List Value}

theorem Gathers.value_eq (h : Gathers a items d) : d.value = a.value + amount items := by
  induction h with
  | nil a => simp [amount]
  | cons value places rest ih =>
    rw [ih, value, amount, amount, List.map_cons, List.sum_cons, add_assoc]

theorem Gathers.places_le (h : Gathers a items d) : d.places ≤ max a.places (places items) := by
  induction h with
  | nil a => exact le_max_left ..
  | @cons a b d v items value scale rest ih =>
    have step : b.places ≤ max a.places v.places := by
      by_cases zero : b.digits = 0
      · simp [Decimal.places_of_digits_eq_zero zero]
      · exact (scale zero).le
    calc d.places ≤ max b.places (places items) := ih
      _ ≤ max (max a.places v.places) (places items) := max_le_max_right _ step
      _ = max a.places (places (v :: items)) := max_assoc ..

theorem addValue_of_room {t : Total} {v : Value} (start : t.exact = some a)
    (counts : v.decimal?.isSome)
    (room : |a.value + v.amount| * 10 ^ max a.places v.places < Decimal.digitBound) :
    ∃ t' b, t.addValue v = .ok t' ∧ t'.exact = some b ∧ b.value = a.value + v.amount ∧
      (b.digits ≠ 0 → b.places = max a.places v.places) := by
  cases v with
  | null =>
    refine ⟨t, a, rfl, start, ?_, fun _ => (Nat.max_zero _).symm⟩
    rw [Value.amount_null, add_zero]
  | integer n =>
    obtain ⟨b, sum, value, places⟩ := Decimal.add?_of_room (b := .ofInt64 n) room
    exact ⟨_, b, rfl, by simp [add, start, sum], value, places⟩
  | float x =>
    obtain ⟨d, exact⟩ := Option.isSome_iff_exists.mp counts
    have decimal : Decimal.ofDoubleExactly? x = some d := exact
    simp only [Value.amount, Value.places, exact, Option.elim_some] at room ⊢
    obtain ⟨b, sum, value, places⟩ := Decimal.add?_of_room room
    refine ⟨_, b, if_pos (Decimal.isFinite_of_ofDoubleExactly? decimal), ?_, value, places⟩
    simp [add, start, decimal, sum]
  | _ => cases counts

/-- Values that count are gathered exactly if there is room for each total on the way. -/
theorem gathers_of_room {limit : Nat} {t : Total} (start : t.exact = some a)
    (few : a.places ≤ limit) (counts : ∀ v ∈ items, v.decimal?.isSome)
    (fine : places items ≤ limit)
    (room : ∀ part, part <+: items →
      |a.value + amount part| * 10 ^ limit < Decimal.digitBound) :
    ∃ t' d, items.foldlM addValue t = .ok t' ∧ t'.exact = some d ∧ Gathers a items d := by
  induction items generalizing t a with
  | nil => exact ⟨t, a, rfl, start, .nil a⟩
  | cons v items ih =>
    obtain ⟨fine, fine'⟩ := max_le_iff.mp fine
    have single : amount [v] = v.amount := by simp [amount]
    have next : |a.value + v.amount| * 10 ^ max a.places v.places < Decimal.digitBound := by
      have whole := room [v] ⟨items, rfl⟩
      rw [single] at whole
      refine lt_of_le_of_lt ?_ whole
      gcongr
      · norm_num
      · exact max_le few fine
    obtain ⟨t', b, added, exact, value, scale⟩ :=
      addValue_of_room start (counts v List.mem_cons_self) next
    have few' : b.places ≤ limit := by
      by_cases zero : b.digits = 0
      · simp [Decimal.places_of_digits_eq_zero zero]
      · exact (scale zero).trans_le (max_le few fine)
    obtain ⟨t'', d, gathered, exact', rest⟩ := ih exact few'
      (fun w member => counts w (List.mem_cons_of_mem v member)) fine' fun part before => by
        have whole := room (v :: part) (List.cons_prefix_cons.mpr ⟨rfl, before⟩)
        rwa [amount, List.map_cons, List.sum_cons, ← add_assoc, ← value] at whole
    refine ⟨t'', d, ?_, exact', .cons value scale rest⟩
    rw [List.foldlM_cons, added]
    exact gathered

theorem value_of_exact {t : Total} (exact : t.exact = some d) :
    (∀ n : Int64, t.value = .ok (.integer n) ↔ d.value = n.toInt) ∧
      ((∀ n : Int64, d.value ≠ n.toInt) → t.value = .ok (.float d.toDouble)) := by
  simp only [value, exact]
  cases whole : d.toInt? with
  | none =>
    have other (n : Int64) : d.value ≠ n.toInt := by
      rw [ne_eq, ← Decimal.toInt?_eq_some_iff, whole]
      exact nofun
    exact ⟨fun n => iff_of_false nofun (other n), fun _ => rfl⟩
  | some m =>
    have stands : d.value = m := Decimal.toInt?_eq_some_iff.mp whole
    dsimp only
    split
    · next fits =>
      obtain ⟨k, rfl⟩ : ∃ k : Int64, k.toInt = m :=
        ⟨.ofInt m, Int64.toInt_ofInt_of_le fits.1 fits.2⟩
      rw [stands, Int64.ofInt_toInt]
      exact ⟨fun n => by simp [Int64.toInt_inj], fun other => (other k rfl).elim⟩
    · next wide =>
      have other (n : Int64) : d.value ≠ n.toInt := by
        rw [stands, ne_eq, Int.cast_inj]
        rintro rfl
        exact wide ⟨n.le_toInt, n.toInt_lt⟩
      exact ⟨fun n => iff_of_false nofun (other n), fun _ => rfl⟩

/-- The sum of integers; nulls count as nothing. -/
def whole (ns : List (Option Int64)) : Int := (ns.map (·.elim 0 Int64.toInt)).sum

theorem amount_integers (ns : List (Option Int64)) :
    amount (ns.map (·.elim .null .integer)) = whole ns := by
  induction ns with
  | nil => simp [amount, whole]
  | cons n ns ih =>
    have first : (n.elim Value.null Value.integer).amount = (n.elim 0 Int64.toInt : Int) := by
      cases n with
      | none => exact Value.amount_null.trans Int.cast_zero.symm
      | some n => exact Value.amount_integer n
    simp only [amount, whole, List.map_cons, List.sum_cons, Int.cast_add] at ih ⊢
    rw [first, ih]

theorem places_integers (ns : List (Option Int64)) :
    places (ns.map (·.elim .null .integer)) = 0 := by
  induction ns with
  | nil => rfl
  | cons n ns ih =>
    have first : (n.elim Value.null Value.integer).places = 0 := by
      cases n with
      | none => exact Value.places_null
      | some n => exact Value.places_integer n
    exact (congrArg₂ max first ih).trans (Nat.max_zero 0)

theorem Gathers.figures_of_integers {ns : List (Option Int64)}
    (h : Gathers .zero (ns.map (·.elim .null .integer)) d) (nonzero : d.digits ≠ 0) :
    d.scale = 0 ∧ d.digits = whole ns := by
  have scale : d.scale = 0 := by
    have few := h.places_le
    rw [places_integers, Decimal.places_zero, max_self,
      Decimal.places_of_digits_ne_zero nonzero] at few
    exact Nat.le_zero.mp few
  have value := h.value_eq
  rw [zero_add_amount, amount_integers, Decimal.value, scale, pow_zero, div_one] at value
  exact ⟨scale, Int.cast_inj.mp value⟩

theorem room_of_integers {ns : List (Option Int64)}
    (small : ∀ part, part <+: ns → |whole part| ≤ 2 ^ 96 - 1) :
    ∀ part, part <+: ns.map (·.elim Value.null Value.integer) →
      |amount part| * 10 ^ 0 < Decimal.digitBound := by
  intro part before
  obtain ⟨front, within, rfl⟩ := List.prefix_map_iff.mp before
  have size : |whole front| < Decimal.digitBound := by
    have := small front within
    norm_num at this ⊢
    omega
  rw [amount_integers, pow_zero, mul_one]
  exact_mod_cast size

end Total

namespace Query

variable (q : Query Value) (w : World Value)

/-- A sum with room for all totals on the way is that of an exact total. -/
theorem sum_of_room {limit : Nat} {items : List Value}
    (holds : q.toSource.contents w.vectors = items.map .ok)
    (counts : ∀ v ∈ items, v.decimal?.isSome) (fine : Total.places items ≤ limit)
    (room : ∀ part, part <+: items →
      |Total.amount part| * 10 ^ limit < Decimal.digitBound) :
    ∃ d, Total.Gathers .zero items d ∧ d.value = Total.amount items ∧
      (∀ n : Int64, (q.sum w).1 = .ok (.integer n) ↔ Total.amount items = n.toInt) ∧
      ((∀ n : Int64, Total.amount items ≠ n.toInt) → (q.sum w).1 = .ok (.float d.toDouble)) := by
  obtain ⟨t, d, gathered, exact, gathers⟩ := Total.gathers_of_room (t := .zero) rfl
    (Nat.zero_le limit) counts fine (by simpa only [Total.zero_add_amount] using room)
  have sum : (q.sum w).1 = t.value := by
    have folded : (items.map Except.ok).foldlM Total.addResult .zero = .ok t :=
      List.foldlM_map.trans gathered
    rw [sum_eq, holds, folded]
    rfl
  have value : d.value = Total.amount items :=
    gathers.value_eq.trans (Total.zero_add_amount items)
  exact ⟨d, gathers, value, sum ▸ value ▸ Total.value_of_exact exact⟩

/-- Integers whose running total stays below 96 bits sum to their total: to an integer if 64 bits
hold it, however far the running total went, and to the nearest double otherwise. In any list of
results the first one that is no item or no finite number is the failure of the sum. -/
theorem sum_of_integers :
    (∀ ns : List (Option Int64),
      q.toSource.contents w.vectors = ns.map (fun n => .ok (n.elim .null .integer)) →
      (∀ part, part <+: ns → |Total.whole part| ≤ 2 ^ 96 - 1) →
      (∀ n : Int64, n.toInt = Total.whole ns → (q.sum w).1 = .ok (.integer n)) ∧
        ((∀ n : Int64, n.toInt ≠ Total.whole ns) →
          (q.sum w).1 = .ok (.float (Double.ofInt (Total.whole ns))))) ∧
      ∀ before r after e, q.toSource.contents w.vectors = before ++ r :: after →
        (∀ b ∈ before, refusal? b = none) → refusal? r = some e → (q.sum w).1 = .error e := by
  constructor
  · intro ns holds small
    have contents : q.toSource.contents w.vectors =
        (ns.map (·.elim Value.null Value.integer)).map .ok := by
      rw [holds, List.map_map]
      rfl
    have counts : ∀ v ∈ ns.map (·.elim Value.null Value.integer), v.decimal?.isSome := by
      intro v member
      obtain ⟨n, -, rfl⟩ := List.mem_map.mp member
      cases n <;> rfl
    obtain ⟨d, gathers, value, integer, float⟩ := q.sum_of_room w contents counts
      (Total.places_integers ns).le (Total.room_of_integers small)
    rw [Total.amount_integers] at value integer float
    refine ⟨fun n total => (integer n).mpr (by rw [total]), fun large => ?_⟩
    have other (n : Int64) : (Total.whole ns : ℚ) ≠ n.toInt := by
      exact_mod_cast (large n).symm
    have nonzero : d.digits ≠ 0 := by
      rw [ne_eq, ← Decimal.value_eq_zero_iff, value]
      exact other 0
    obtain ⟨scale, digits⟩ := gathers.figures_of_integers nonzero
    rw [float other, Decimal.toDouble_of_scale_eq_zero scale, digits]
  · intro before r after e holds taken refused
    rw [sum_eq, holds, Total.foldlM_of_refusal taken refused]
    rfl

/-- A running total below 64 bits that comes back to the least integer, one that stays past them,
and a string behind it. -/
theorem sum_of_integers_wide :
    let least : List (Option Int64) := [some Int64.minValue, some (-1), none, some 1]
    let past : List (Option Int64) := [some Int64.maxValue, none, some 1]
    let query (ns : List (Option Int64)) (others : List Value) : Query Value :=
      ofSource (.items none (ns.map (·.elim .null .integer) ++ others))
    (∀ part, part <+: least → |Total.whole part| ≤ 2 ^ 96 - 1) ∧
      ((query least []).sum .empty).1 = .ok (.integer Int64.minValue) ∧
      (∀ part, part <+: past → |Total.whole part| ≤ 2 ^ 96 - 1) ∧
      ((query past []).sum .empty).1 = .ok (.float (Double.ofInt 0x8000000000000000)) ∧
      ((query past [.string "x", .object []]).sum .empty).1 = .error (.notNumeric .string) := by
  intro least past query
  have small (ns : List (Option Int64)) (all : ∀ part ∈ ns.inits, |Total.whole part| ≤ 2 ^ 96 - 1) :
      ∀ part, part <+: ns → |Total.whole part| ≤ 2 ^ 96 - 1 := fun part before =>
    all part ((List.mem_inits part ns).mpr before)
  have within := small least (by decide)
  have within' := small past (by decide)
  have total : Total.whole past = 0x8000000000000000 := by decide
  have large (n : Int64) : n.toInt ≠ Total.whole past := by
    have := n.toInt_lt
    omega
  obtain ⟨integer, -⟩ := ((query least []).sum_of_integers .empty).1 least rfl within
  obtain ⟨-, float⟩ := ((query past []).sum_of_integers .empty).1 past rfl within'
  have refused := ((query past [.string "x", .object []]).sum_of_integers .empty).2
    [.ok (.integer Int64.maxValue), .ok .null, .ok (.integer 1)] (.ok (.string "x"))
    [.ok (.object [])] (.notNumeric .string) rfl (by decide) rfl
  exact ⟨within, integer _ (by decide), within', total ▸ float large, refused⟩

end Query
end RecordFilter
