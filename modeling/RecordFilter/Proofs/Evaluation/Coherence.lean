import RecordFilter.Proofs.Evaluation.Field

namespace RecordFilter

namespace Double

theorem ofRank_ne_nan (negative : Bool) (rank : Nat) (s : Bool) : ofRank negative rank ≠ nan s := by
  unfold ofRank
  split <;> simp

theorem ofInt_ne_nan (n : Int) (s : Bool) : ofInt n ≠ nan s :=
  ofRank_ne_nan _ _ s

theorem position_eq_none_iff {x : Double} : x.position = none ↔ ∃ s, x = nan s := by
  cases x <;> simp [position]

end Double

namespace Value

def isNaN : Value → Bool
  | float (.nan _) => true
  | _ => false

variable {u v : Value}

theorem exists_toDouble? (h : u.isNumber = true) :
    ∃ x, u.toDouble? = some x ∧ (x.position = none ↔ u.isNaN = true) := by
  cases u with
  | integer n => exact ⟨_, rfl, by simp [Double.position_eq_none_iff, Double.ofInt_ne_nan, isNaN]⟩
  | float x => cases x <;> exact ⟨_, rfl, by simp [Double.position, isNaN]⟩
  | _ => cases h

theorem compareNumbers_eq_none_iff (left : u.isNumber = true) (right : v.isNumber = true) :
    u.compareNumbers v = none ↔ u.isNaN = true ∨ v.isNaN = true := by
  obtain ⟨x, value, nan⟩ := exists_toDouble? left
  obtain ⟨y, value', nan'⟩ := exists_toDouble? right
  have asDoubles : x.compare y = none ↔ u.isNaN = true ∨ v.isNaN = true := by
    rw [← nan, ← nan', Double.compare]
    cases x.position <;> cases y.position <;> simp
  unfold compareNumbers
  split
  · simp [isNaN]
  · simpa [value, value'] using asDoubles

theorem compareNumbers_of_not_isNumber (h : u.isNumber = false) : u.compareNumbers v = none := by
  cases u with
  | integer n => cases h
  | float x => cases h
  | _ => simp [compareNumbers, toDouble?]

theorem order_of_isNumber (h : v.isNumber = true) : u.order v = u.compareNumbers v := by
  cases v with
  | integer n => cases u <;> rfl
  | float x => cases u <;> rfl
  | _ => cases h

end Value

theorem Number.isNumber_value (n : Number) : n.value.isNumber = true := by
  cases n <;> rfl

namespace OrderedLiteral

variable (x : OrderedLiteral) {left : Option Value}

def value : OrderedLiteral → Value
  | number n => n.value
  | string s => .string s

/-- Where the left side is in the order, seen from the literal. An absent field is nowhere, and
neither is a null or a NaN. -/
def placeOf (left : Option Value) : Option Ordering := left.bind (·.order x.value)

/-- Whether the orderings take the left side: a value of the family of the literal, or none. -/
def takes : OrderedLiteral → Option Value → Bool
  | _, none | _, some .null => true
  | number _, some v => v.isNumber
  | string _, some v => v.kind = .string

theorem equalsLeft_operand (left : Option Value) :
    x.operand.equalsLeft left = (x.placeOf left == some .eq) := by
  cases left with
  | none => cases x <;> rfl
  | some v =>
    cases x with
    | number n =>
      have order : v.order n.value = v.compareNumbers n.value :=
        Value.order_of_isNumber n.isNumber_value
      have equals : (Operand.number n).equals v =
          (v.isNumber && v.compareNumbers n.value == some .eq) := by
        cases v <;> rfl
      rw [operand, Operand.equalsLeft, equals, placeOf, Option.bind_some, value, order]
      cases number : v.isNumber with
      | true => rfl
      | false => rw [Value.compareNumbers_of_not_isNumber number]; rfl
    | string s =>
      cases v with
      | string t =>
        have same : decide (t = s) = (Ord.compare t s == .eq) := by
          rw [Bool.eq_iff_iff]
          simp
        simp [operand, Operand.equalsLeft, Operand.equals, placeOf, value, Value.order, same]
      | _ => rfl

variable {x} {c : Comparison}

theorem order_of_takes (right : c.right = x.operand) (h : x.takes left = true) :
    c.order left = .ok (x.placeOf left) := by
  cases left with
  | none => rfl
  | some v =>
    cases x with
    | number n =>
      have place : (number n).placeOf (some v) = v.compareNumbers n.value :=
        Value.order_of_isNumber n.isNumber_value
      rw [place]
      cases v with
      | null => simp [Comparison.order, Value.compareNumbers, Value.toDouble?]
      | integer k => simp [Comparison.order, right, operand, Value.isNumber]
      | float y => simp [Comparison.order, right, operand, Value.isNumber]
      | _ => cases h
    | string s =>
      cases v with
      | null => rfl
      | string t => simp [Comparison.order, right, operand, placeOf, value, Value.order]
      | _ => cases h

theorem order_of_not_takes (right : c.right = x.operand) (h : x.takes left = false) :
    c.order left = .error (c.mismatch left) := by
  cases left with
  | none => cases x <;> cases h
  | some v =>
    cases x with
    | number n =>
      cases v with
      | null => cases h
      | integer k => cases h
      | float y => cases h
      | _ => simp [Comparison.order, right, operand, Value.isNumber]
    | string s =>
      cases v with
      | null => cases h
      | string t => cases h
      | _ => simp [Comparison.order, right, operand]

variable (x)

/-- Two numbers, neither of them a NaN, or two strings. -/
def Comparable (u : Value) : Prop :=
  u.isNumber = true ∧ x.value.isNumber = true ∧ u.isNaN = false ∧ x.value.isNaN = false ∨
    u.kind = .string ∧ x.value.kind = .string

/-- An absent field, a null, or two numbers of which one is a NaN: these have no place in the order,
and no ordering fails on them. -/
def Unplaced (left : Option Value) : Prop :=
  left = none ∨ left = some .null ∨
    ∃ u, left = some u ∧ u.isNumber = true ∧ x.value.isNumber = true ∧
      (u.isNaN = true ∨ x.value.isNaN = true)

variable {x} {u : Value}

theorem takes_of_isNumber (left : u.isNumber = true) (right : x.value.isNumber = true) :
    x.takes (some u) = true := by
  cases x with
  | string s => cases right
  | number n =>
    cases u with
    | null => cases left
    | _ => exact left

theorem placeOf_of_isNumber (left : u.isNumber = true) (right : x.value.isNumber = true) :
    x.placeOf (some u) = none ↔ u.isNaN = true ∨ x.value.isNaN = true := by
  rw [placeOf, Option.bind_some, Value.order_of_isNumber right,
    Value.compareNumbers_eq_none_iff left right]

theorem placeOf_of_comparable (h : x.Comparable u) :
    x.takes (some u) = true ∧ ∃ o, x.placeOf (some u) = some o := by
  rcases h with ⟨left, right, noNaN, noNaN'⟩ | ⟨left, right⟩
  · refine ⟨takes_of_isNumber left right, Option.ne_none_iff_exists'.mp fun nowhere => ?_⟩
    rcases (placeOf_of_isNumber left right).mp nowhere with nan | nan
    · rw [noNaN] at nan
      cases nan
    · rw [noNaN'] at nan
      cases nan
  · cases x with
    | number n => cases n <;> cases right
    | string s =>
      cases u with
      | string t => exact ⟨rfl, _, rfl⟩
      | _ => cases left

theorem placeOf_of_unplaced (h : x.Unplaced left) :
    x.takes left = true ∧ x.placeOf left = none := by
  rcases h with rfl | rfl | ⟨u, rfl, number, number', nan⟩
  · cases x <;> exact ⟨rfl, rfl⟩
  · cases x with
    | number n =>
      have none : Value.null.compareNumbers n.value = none :=
        Value.compareNumbers_of_not_isNumber rfl
      exact ⟨rfl, (Value.order_of_isNumber n.isNumber_value).trans none⟩
    | string s => exact ⟨rfl, rfl⟩
  · exact ⟨takes_of_isNumber number number', (placeOf_of_isNumber number number').mpr nan⟩

end OrderedLiteral

/-- Results that differ at most in the comparator which a failure names. -/
inductive SameButFor (op op' : Comparator) : Except EvalError Bool → Except EvalError Bool → Prop where
  | verdict (b : Bool) : SameButFor op op' (.ok b) (.ok b)
  | mismatch (left : Option ValueKind) (right : Kind) :
      SameButFor op op' (.error (.typeMismatch op left right))
        (.error (.typeMismatch op' left right))

namespace Condition

variable {name : String} {x : OrderedLiteral} {record : Record} {op : Comparator}

theorem fit_ordering (ranking : op.isRanking = true) (ordering : op.isOrdering = true) :
    (ofOrdered name op x ranking).fit record =
      ((Comparison.ofField name op x.operand (Comparator.not_isPattern ranking)
        (x.rightFault_operand ranking)).order (record name)).map fun o => o.any op.admits :=
  (fit_ofField x.placeholders_operand _ _).trans (Comparison.compare_of_ordering ordering _)

theorem fit_ordering_of_takes (ranking : op.isRanking = true) (ordering : op.isOrdering = true)
    (taken : x.takes (record name) = true) :
    (ofOrdered name op x ranking).fit record = .ok ((x.placeOf (record name)).any op.admits) := by
  rw [fit_ordering ranking ordering, OrderedLiteral.order_of_takes rfl taken]
  rfl

theorem fit_ordering_of_not_takes (ranking : op.isRanking = true) (ordering : op.isOrdering = true)
    (refused : x.takes (record name) = false) :
    (ofOrdered name op x ranking).fit record =
      .error (.typeMismatch op ((record name).map Value.kind) x.operand.kind) := by
  rw [fit_ordering ranking ordering, OrderedLiteral.order_of_not_takes rfl refused]
  rfl

theorem fit_ordered_equal (name : String) (x : OrderedLiteral) (record : Record) :
    (ofOrdered name .equal x).fit record = .ok (x.placeOf (record name) == some .eq) := by
  rw [← x.equalsLeft_operand]
  exact fit_equal (.ordered x)

/-- An ordering that lets equals in is the strict one or equality, where neither fails. The
disjunction fails at the strict one. -/
theorem fit_weak_ordering {weak strict : Comparator} (ranking : weak.isRanking = true)
    (ranking' : strict.isRanking = true) (ordering : weak.isOrdering = true)
    (ordering' : strict.isOrdering = true)
    (widens : ∀ o, weak.admits o = (strict.admits o || o == .eq)) :
    SameButFor weak strict ((ofOrdered name weak x ranking).fit record)
      ((join (ofOrdered name strict x ranking') .or (ofOrdered name .equal x)).fit record) := by
  cases taken : x.takes (record name) with
  | true =>
    have strictly := fit_ordering_of_takes ranking' ordering' taken
    have weakly := fit_ordering_of_takes ranking ordering taken
    have either : (x.placeOf (record name)).any weak.admits =
        ((x.placeOf (record name)).any strict.admits || x.placeOf (record name) == some .eq) := by
      cases x.placeOf (record name) with
      | none => rfl
      | some o => exact widens o
    rw [weakly, fit_or strictly (fit_ordered_equal name x record), either]
    exact .verdict _
  | false =>
    have strictly := fit_ordering_of_not_takes ranking' ordering' taken
    have weakly := fit_ordering_of_not_takes ranking ordering taken
    rw [weakly, fit_join, strictly, if_neg nofun]
    exact .mismatch ..

theorem fit_of_comparable {u : Value} (present : record name = some u) (h : x.Comparable u) :
    ∃ o : Ordering, (ofOrdered name .less x).fit record = .ok (o == .lt) ∧
      (ofOrdered name .equal x).fit record = .ok (o == .eq) ∧
      (ofOrdered name .greater x).fit record = .ok (o == .gt) := by
  obtain ⟨taken, o, place⟩ := OrderedLiteral.placeOf_of_comparable h
  rw [← present] at taken place
  refine ⟨o, ?_, ?_, ?_⟩
  · rw [fit_ordering_of_takes _ rfl taken, place]
    rfl
  · rw [fit_ordered_equal, place]
    cases o <;> rfl
  · rw [fit_ordering_of_takes _ rfl taken, place]
    rfl

theorem fit_of_unplaced (h : x.Unplaced (record name)) (ranking : op.isRanking = true)
    (other : op ≠ .notEqual) : (ofOrdered name op x ranking).fit record = .ok false := by
  obtain ⟨taken, place⟩ := OrderedLiteral.placeOf_of_unplaced h
  cases ordering : op.isOrdering with
  | true => rw [fit_ordering_of_takes ranking ordering taken, place, Option.any_none]
  | false =>
    obtain rfl : op = .equal := by
      cases op <;> simp_all [Comparator.isRanking, Comparator.isEquality, Comparator.isOrdering]
    rw [fit_ordered_equal, place]
    rfl

/-- The laws of the comparators, for a field and a number or a string `x`, or any literal `w` that
is no list. `<=` is `<` or `=`, and `>=` is `>` or `=`, but that a failure names the comparator
which it is of. Of values in an order one of `<`, `=` and `>` is true, and where there is no order
none is, nor `<=` or `>=`. `!=` is the opposite of `=`, save that an absent field neither equals nor
differs from what is not null. -/
theorem comparators_cohere (name : String) (x : OrderedLiteral) (w : ScalarLiteral)
    (record : Record) :
    SameButFor .lessEqual .less ((ofOrdered name .lessEqual x).fit record)
        ((join (ofOrdered name .less x) .or (ofOrdered name .equal x)).fit record) ∧
      SameButFor .greaterEqual .greater ((ofOrdered name .greaterEqual x).fit record)
        ((join (ofOrdered name .greater x) .or (ofOrdered name .equal x)).fit record) ∧
      (∀ u, record name = some u → x.Comparable u →
        ∃ o : Ordering, (ofOrdered name .less x).fit record = .ok (o == .lt) ∧
          (ofOrdered name .equal x).fit record = .ok (o == .eq) ∧
          (ofOrdered name .greater x).fit record = .ok (o == .gt)) ∧
      (x.Unplaced (record name) → ∀ op (ranking : op.isRanking = true), op ≠ .notEqual →
        (ofOrdered name op x ranking).fit record = .ok false) ∧
      (record name ≠ none ∨ w = .null →
        ∃ b, (ofScalar name .equal w).fit record = .ok b ∧
          (ofScalar name .notEqual w).fit record = .ok !b) ∧
      (record name = none → w ≠ .null →
        (ofScalar name .equal w).fit record = .ok false ∧
          (ofScalar name .notEqual w).fit record = .ok false) := by
  refine ⟨?atMost, ?atLeast, ?trichotomy, ?nowhere, ?opposite, ?absent⟩
  case atMost => exact fit_weak_ordering _ _ rfl rfl fun o => by cases o <;> rfl
  case atLeast => exact fit_weak_ordering _ _ rfl rfl fun o => by cases o <;> rfl
  case trichotomy => exact fun u => fit_of_comparable
  case nowhere => exact fun unplaced op => fit_of_unplaced unplaced
  case opposite =>
    intro h
    refine ⟨_, fit_equal w, ?_⟩
    rw [fit_notEqual]
    cases left : record name with
    | some v => rfl
    | none =>
      obtain rfl : w = .null := h.resolve_left (not_not.mpr left)
      rfl
  case absent =>
    intro left other
    rw [fit_equal, fit_notEqual, left]
    refine ⟨?_, rfl⟩
    cases w with
    | null => exact absurd rfl other
    | boolean b => rfl
    | ordered x => cases x <;> rfl

/-- A negative zero and the integer `0` are in an order, and a NaN is in none with `0`. -/
theorem comparators_cohere_numbers :
    let x : OrderedLiteral := .number (.double (.zero true))
    let zero := Value.record (.object [("a", .integer 0)])
    let nan := Value.record (.object [("a", .float (.nan false))])
    x.Comparable (.integer 0) ∧
      (∃ o : Ordering, (ofOrdered "a" .less x).fit zero = .ok (o == .lt) ∧
        (ofOrdered "a" .equal x).fit zero = .ok (o == .eq) ∧
        (ofOrdered "a" .greater x).fit zero = .ok (o == .gt)) ∧
      (∃ b, (ofScalar "a" .equal (.ordered x)).fit zero = .ok b ∧
        (ofScalar "a" .notEqual (.ordered x)).fit zero = .ok !b) ∧
      x.Unplaced (nan "a") ∧ (ofOrdered "a" .lessEqual x).fit nan = .ok false ∧
      (ofScalar "a" .equal (.ordered x)).fit .empty = .ok false ∧
      (ofScalar "a" .notEqual (.ordered x)).fit .empty = .ok false := by
  intro x zero nan
  have comparable : x.Comparable (.integer 0) := .inl ⟨rfl, rfl, rfl, rfl⟩
  have unplaced : x.Unplaced (nan "a") := .inr (.inr ⟨_, rfl, rfl, rfl, .inl rfl⟩)
  obtain ⟨-, -, trichotomy, -, opposite, -⟩ := comparators_cohere "a" x (.ordered x) zero
  obtain ⟨-, -, -, nowhere, -⟩ := comparators_cohere "a" x (.ordered x) nan
  obtain ⟨-, -, -, -, -, absent⟩ := comparators_cohere "a" x (.ordered x) .empty
  exact ⟨comparable, trichotomy _ rfl comparable, opposite (.inl nofun), unplaced,
    nowhere unplaced .lessEqual rfl nofun, absent rfl nofun⟩

/-- On a boolean the two sides of the first law fail, and not with the same failure. -/
theorem lessEqual_names_itself :
    let x : OrderedLiteral := .number (.int32 1)
    let record := Value.record (.object [("a", .boolean true)])
    (ofOrdered "a" .lessEqual x).fit record =
        .error (.typeMismatch .lessEqual (some .boolean) .int32) ∧
      (join (ofOrdered "a" .less x) .or (ofOrdered "a" .equal x)).fit record =
        .error (.typeMismatch .less (some .boolean) .int32) ∧
      (ofOrdered "a" .lessEqual x).fit record ≠
        (join (ofOrdered "a" .less x) .or (ofOrdered "a" .equal x)).fit record := by
  decide

end Condition
end RecordFilter
