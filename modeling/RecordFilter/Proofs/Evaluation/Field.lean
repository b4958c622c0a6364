import RecordFilter.Proofs.Evaluation.Failures

namespace RecordFilter

/-- A literal that is in an order with others of its family. -/
inductive OrderedLiteral where
  | number (n : Number)
  | string (s : String)

/-- A literal that is no list. -/
inductive ScalarLiteral where
  | null
  | boolean (b : Bool)
  | ordered (x : OrderedLiteral)

def OrderedLiteral.operand : OrderedLiteral → Operand
  | number n => .number n
  | string s => .string s

def ScalarLiteral.operand : ScalarLiteral → Operand
  | null => .null
  | boolean b => .boolean b
  | ordered x => x.operand

/-- Whether what stands on the left equals a literal; an absent field equals a null. -/
def Operand.equalsLeft (left : Option Value) (literal : Operand) : Bool :=
  match left with
  | none => literal = .null
  | some v => literal.equals v

/-- Whether a comparator takes all numbers and strings on its right. -/
def Comparator.isRanking (op : Comparator) : Bool := op.isEquality || op.isOrdering

theorem Comparator.isRanking_of_isEquality {op : Comparator} (h : op.isEquality = true) :
    op.isRanking = true := by
  rw [isRanking, h, Bool.true_or]

theorem Comparator.not_isPattern {op : Comparator} (h : op.isRanking = true) :
    op.isPattern = false := by
  cases op with
  | like => cases h
  | regex => cases h
  | _ => rfl

namespace OrderedLiteral

variable (x : OrderedLiteral)

theorem placeholders_operand : x.operand.placeholders = 0 := by
  cases x <;> rfl

theorem rightFault_operand {op : Comparator} (h : op.isRanking = true) :
    x.operand.rightFault op = none := by
  have other : op ≠ .member := by
    rintro rfl
    cases h
  cases x with
  | string s => simp [operand, Operand.rightFault, other, Operand.scalarFault, Operand.kind]
  | number n =>
    have legal : op.isEquality = true ∨ op.isOrdering = true := by
      simpa [Comparator.isRanking] using h
    cases n <;> simp [operand, Operand.rightFault, other, Operand.scalarFault, Operand.kind,
      Number.kind, legal]

end OrderedLiteral

namespace ScalarLiteral

variable (x : ScalarLiteral)

theorem placeholders_operand : x.operand.placeholders = 0 := by
  cases x with
  | ordered x => exact x.placeholders_operand
  | _ => rfl

theorem rightFault_operand {op : Comparator} (h : op.isEquality = true) :
    x.operand.rightFault op = none := by
  have other : op ≠ .member := by
    rintro rfl
    cases h
  cases x with
  | ordered x => exact x.rightFault_operand (Comparator.isRanking_of_isEquality h)
  | _ => simp [operand, Operand.rightFault, other, Operand.scalarFault, Operand.kind, h]

theorem elementFault_operand : x.operand.elementFault = none := by
  cases x with
  | ordered x => cases x <;> rfl
  | _ => rfl

theorem rightFault_list (xs : List ScalarLiteral) :
    (Operand.list (xs.map operand)).rightFault .member = none := by
  simp [Operand.rightFault, elementFault_operand]

theorem placeholders_list (xs : List ScalarLiteral) :
    (Operand.list (xs.map operand)).placeholders = 0 := by
  rw [Operand.placeholders]
  induction xs with
  | nil => rfl
  | cons x xs ih => rw [List.map_cons, Operand.placeholdersIn, x.placeholders_operand, ih]

end ScalarLiteral

namespace Comparison

def ofField (name : String) (op : Comparator) (right : Operand) (plain : op.isPattern = false)
    (faultless : right.rightFault op = none) : Comparison where
  left := .key name
  op := op
  right := right
  matcher := none
  legal := by cases right <;> simp [assess, Operand.leftFault, Operand.isKey, faultless, plain]

variable {c : Comparison}

theorem compare_equal (h : c.op = .equal) (left : Option Value) :
    c.compare left = .ok (c.right.equalsLeft left) := by
  cases left <;> simp [compare, h, Operand.equalsLeft]

theorem compare_notEqual (h : c.op = .notEqual) (left : Option Value) :
    c.compare left = .ok (left.isSome && !c.right.equalsLeft left) := by
  cases left <;> simp [compare, h, Operand.equalsLeft]

theorem compare_member (h : c.op = .member) {items : List Operand} (right : c.right = .list items)
    (left : Option Value) :
    c.compare left = .ok (items.any (·.equalsLeft left)) := by
  cases left with
  | none =>
    have listed : items.contains .null = items.any (·.equalsLeft none) := by
      rw [Bool.eq_iff_iff, List.any_eq_true]
      simp [Operand.equalsLeft]
    simp only [compare, h, right, listed]
  | some v => simp [compare, h, right, Operand.equalsLeft]

end Comparison

namespace Condition

def ofOrdered (name : String) (op : Comparator) (x : OrderedLiteral)
    (ranking : op.isRanking = true := by decide) : Condition :=
  comparison (.ofField name op x.operand (Comparator.not_isPattern ranking)
    (x.rightFault_operand ranking))

def ofScalar (name : String) (op : Comparator) (x : ScalarLiteral)
    (equality : op.isEquality = true := by decide) : Condition :=
  comparison (.ofField name op x.operand
    (Comparator.not_isPattern (Comparator.isRanking_of_isEquality equality))
    (x.rightFault_operand equality))

/-- Whether a field is in a list: `name IN (x, y, …)`. -/
def ofMember (name : String) (xs : List ScalarLiteral) : Condition :=
  comparison (.ofField name .member (.list (xs.map (·.operand))) (by decide)
    (ScalarLiteral.rightFault_list xs))

/-- Whether a field equals one of the literals: `name = x OR name = y OR …`, grouped to the left. -/
def anyEqual (name : String) (x : ScalarLiteral) (xs : List ScalarLiteral) : Condition :=
  xs.foldl (fun c y => join c .or (ofScalar name .equal y)) (ofScalar name .equal x)

variable {name : String} {record : Record}

theorem fit_ofField {op : Comparator} {right : Operand} (bound : right.placeholders = 0)
    (plain : op.isPattern = false) (faultless : right.rightFault op = none) :
    (comparison (.ofField name op right plain faultless)).fit record =
      (Comparison.ofField name op right plain faultless).compare (record name) :=
  Comparison.evaluate_bound (c := .ofField name op right plain faultless) bound record

theorem fit_equal (x : ScalarLiteral) :
    (ofScalar name .equal x).fit record = .ok (x.operand.equalsLeft (record name)) :=
  (fit_ofField x.placeholders_operand _ _).trans (Comparison.compare_equal rfl _)

theorem fit_notEqual (x : ScalarLiteral) :
    (ofScalar name .notEqual x).fit record =
      .ok ((record name).isSome && !x.operand.equalsLeft (record name)) :=
  (fit_ofField x.placeholders_operand _ _).trans (Comparison.compare_notEqual rfl _)

theorem fit_member (xs : List ScalarLiteral) :
    (ofMember name xs).fit record = .ok (xs.any fun x => x.operand.equalsLeft (record name)) := by
  have asked : (ofMember name xs).fit record = _ :=
    fit_ofField (ScalarLiteral.placeholders_list xs) _ _
  rw [asked, Comparison.compare_member rfl rfl, List.any_map]
  rfl

theorem fit_or {left right : Condition} {a b : Bool} (first : left.fit record = .ok a)
    (second : right.fit record = .ok b) : (join left .or right).fit record = .ok (a || b) := by
  rw [fit_join, first, second]
  cases a <;> rfl

theorem fit_anyEqual (x : ScalarLiteral) (xs : List ScalarLiteral) :
    (anyEqual name x xs).fit record =
      .ok ((x :: xs).any fun y => y.operand.equalsLeft (record name)) := by
  -- The equalities before `y` are any condition with a verdict, so the fold may start anywhere.
  have fold (c : Condition) (b : Bool) (verdict : c.fit record = .ok b) :
      (xs.foldl (fun c y => join c .or (ofScalar name .equal y)) c).fit record =
        .ok (b || xs.any fun y => y.operand.equalsLeft (record name)) := by
    induction xs generalizing c b with
    | nil => simpa using verdict
    | cons y ys ih =>
      have next : (join c .or (ofScalar name .equal y)).fit record =
          .ok (b || y.operand.equalsLeft (record name)) :=
        fit_or verdict (fit_equal y)
      rw [List.foldl_cons, ih _ _ next, List.any_cons, Bool.or_assoc]
  exact fold _ _ (fit_equal x)

/-- That a field is in a list has the same verdict as that it equals one element or another, and
neither test fails. The verdict does not depend on the order of the elements or on how often each is
listed, and nothing is in the empty list. -/
theorem member_eq_anyEqual (name : String) (x : ScalarLiteral) (xs : List ScalarLiteral)
    (record : Record) :
    (∃ b, (ofMember name (x :: xs)).fit record = .ok b ∧
        (anyEqual name x xs).fit record = .ok b) ∧
      (∀ ys, (∀ y, y ∈ ys ↔ y ∈ x :: xs) →
        (ofMember name ys).fit record = (ofMember name (x :: xs)).fit record) ∧
      (ofMember name []).fit record = .ok false := by
  refine ⟨⟨_, fit_member (x :: xs), fit_anyEqual x xs⟩, ?same, fit_member []⟩
  case same =>
    intro ys listed
    have answers : (ys.any fun y => y.operand.equalsLeft (record name)) =
        (x :: xs).any fun y => y.operand.equalsLeft (record name) := by
      rw [Bool.eq_iff_iff, List.any_eq_true, List.any_eq_true]
      simp only [listed]
    rw [fit_member, fit_member, answers]

/-- A field that is `2.0` is in `('x', 2, null)` as it is in `(null, 2, 2, 'x')`. -/
theorem member_eq_anyEqual_widths :
    let x : ScalarLiteral := .ordered (.string "x")
    let two : ScalarLiteral := .ordered (.number (.int32 2))
    let record := Value.record (.object [("a", .float (.ofInt 2))])
    (∀ y, y ∈ [.null, two, two, x] ↔ y ∈ [x, two, .null]) ∧
      (ofMember "a" [.null, two, two, x]).fit record = .ok true ∧
      (anyEqual "a" x [two, .null]).fit record = .ok true ∧
      (ofMember "a" []).fit record = .ok false := by
  intro x two record
  have listed (y : ScalarLiteral) : y ∈ [.null, two, two, x] ↔ y ∈ [x, two, .null] := by
    simp only [List.mem_cons, List.not_mem_nil]
    tauto
  have verdict : (ofMember "a" [x, two, .null]).fit record = .ok true := by decide +kernel
  obtain ⟨⟨b, inList, oneEqual⟩, same, empty⟩ :=
    member_eq_anyEqual "a" x [two, .null] record
  rw [verdict] at inList
  cases inList
  exact ⟨listed, (same _ listed).trans verdict, oneEqual, empty⟩

end Condition
end RecordFilter
