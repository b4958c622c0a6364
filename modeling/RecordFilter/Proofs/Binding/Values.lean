import RecordFilter.Proofs.Binding.Fill
import RecordFilter.Proofs.Evaluation.Field

namespace RecordFilter

/-- The value itself, or one that is in it at any depth. -/
inductive Value.Occurs (p : Value) : Value → Prop where
  | here : Occurs p p
  | item {items : List Value} {v : Value} (member : v ∈ items) (inside : Occurs p v) :
      Occurs p (.array items)
  | field {fields : List (String × Value)} {name : String} {v : Value} (member : (name, v) ∈ fields)
      (inside : Occurs p v) : Occurs p (.object fields)

inductive Operand.Occurs (y : Operand) : Operand → Prop where
  | here : Occurs y y
  | item {items : List Operand} {x : Operand} (member : x ∈ items) (inside : Occurs y x) :
      Occurs y (.list items)

/-- Free of objects and of floats that are not finite. -/
def Value.Bindable (v : Value) : Prop :=
  ∀ p : Value, p.Occurs v → p.kind ≠ .object ∧ ∀ x, p = .float x → x.isFinite = true

/-- Free of keys and placeholders. -/
def Operand.IsConstant (x : Operand) : Prop :=
  ∀ y : Operand, y.Occurs x → y.isKey = false ∧ y ≠ .placeholder

/-- An error that tells what in a value can not be bound. -/
def BindError.Blames (v : Value) : BindError → Prop
  | .object => ∃ p : Value, p.Occurs v ∧ p.kind = .object
  | .nonFiniteFloat => ∃ x, (Value.float x).Occurs v ∧ x.isFinite = false
  | _ => False

namespace Value

theorem occurs_array_iff {p : Value} {items : List Value} :
    p.Occurs (.array items) ↔ p = .array items ∨ ∃ v ∈ items, p.Occurs v := by
  constructor
  · intro h
    cases h with
    | here => exact .inl rfl
    | item member inside => exact .inr ⟨_, member, inside⟩
  · rintro (rfl | ⟨v, member, inside⟩)
    · exact .here
    · exact .item member inside

theorem bindable_array_iff {items : List Value} :
    (array items).Bindable ↔ ∀ v ∈ items, v.Bindable := by
  constructor
  · intro h v member p inside
    exact h p (.item member inside)
  · intro h p occurs
    rcases occurs_array_iff.mp occurs with rfl | ⟨v, member, inside⟩
    · exact ⟨nofun, nofun⟩
    · exact h v member p inside

theorem bindable_of_scalar {v : Value} (flat : v.kind ≠ .array) (noObject : v.kind ≠ .object)
    (finite : ∀ x, v = .float x → x.isFinite = true) : v.Bindable := by
  intro p occurs
  cases occurs with
  | here => exact ⟨noObject, finite⟩
  | item => exact absurd rfl flat
  | field => exact absurd rfl noObject

end Value

theorem BindError.Blames.item {e : BindError} {v : Value} {items : List Value} (h : e.Blames v)
    (member : v ∈ items) : e.Blames (.array items) := by
  cases e with
  | object =>
    obtain ⟨p, inside, kind⟩ := h
    exact ⟨p, .item member inside, kind⟩
  | nonFiniteFloat =>
    obtain ⟨x, inside, infinite⟩ := h
    exact ⟨x, .item member inside, infinite⟩
  | _ => exact h.elim

namespace Operand

theorem isConstant_of_flat {x : Operand} (flat : x.isList = false) (keyless : x.isKey = false)
    (bound : x ≠ .placeholder) : x.IsConstant := by
  intro y occurs
  cases occurs with
  | here => exact ⟨keyless, bound⟩
  | item => cases flat

theorem isConstant_list {items : List Operand} (h : ∀ x ∈ items, x.IsConstant) :
    (list items).IsConstant := by
  intro y occurs
  cases occurs with
  | here => exact ⟨rfl, nofun⟩
  | item member inside => exact h _ member y inside

end Operand

theorem Double.compare_self {x : Double} (finite : x.isFinite = true) :
    x.compare x = some .eq := by
  cases x with
  | finite s r => simp [compare, position]
  | _ => cases finite

theorem Number.value_ofInt64 (n : Int64) : (ofInt64 n).value = .integer n := by
  unfold ofInt64
  split
  · next narrow => rw [value, toInt64_toInt32 narrow.1 narrow.2]
  · rfl

namespace Operand

mutual

theorem literal_of_ofValue : (v : Value) → {x : Operand} → ofValue v = .ok x →
    v.Bindable ∧ x.IsConstant ∧ x.value? = some v
  | .null, _, h => by
    cases h
    exact ⟨Value.bindable_of_scalar nofun nofun nofun, isConstant_of_flat rfl rfl nofun, rfl⟩
  | .boolean b, _, h => by
    cases h
    exact ⟨Value.bindable_of_scalar nofun nofun nofun, isConstant_of_flat rfl rfl nofun, rfl⟩
  | .integer n, _, h => by
    cases h
    exact ⟨Value.bindable_of_scalar nofun nofun nofun, isConstant_of_flat rfl rfl nofun,
      congrArg some (Number.value_ofInt64 n)⟩
  | .float x, _, h => by
    unfold ofValue at h
    split at h
    · next finite =>
      cases h
      refine ⟨Value.bindable_of_scalar nofun nofun ?_, isConstant_of_flat rfl rfl nofun, rfl⟩
      rintro y ⟨⟩
      exact finite
    · cases h
  | .string s, _, h => by
    cases h
    exact ⟨Value.bindable_of_scalar nofun nofun nofun, isConstant_of_flat rfl rfl nofun, rfl⟩
  | .array items, _, h => by
    obtain ⟨xs, converted, rfl⟩ := map_eq_ok.mp h
    obtain ⟨bindable, constant, values⟩ := literals_of_ofValues items converted
    exact ⟨Value.bindable_array_iff.mpr bindable, isConstant_list constant,
      Option.map_eq_some_iff.mpr ⟨items, values, rfl⟩⟩
  | .object _, _, h => by cases h

theorem literals_of_ofValues : (vs : List Value) → {xs : List Operand} → ofValues vs = .ok xs →
    (∀ v ∈ vs, v.Bindable) ∧ (∀ x ∈ xs, x.IsConstant) ∧ valuesOf? xs = some vs
  | [], _, h => by
    cases h
    exact ⟨nofun, nofun, rfl⟩
  | v :: vs, _, h => by
    obtain ⟨x, first, h⟩ := bind_eq_ok.mp h
    obtain ⟨xs, others, h⟩ := bind_eq_ok.mp h
    cases h
    obtain ⟨bindable, constant, value⟩ := literal_of_ofValue v first
    obtain ⟨bindable', constant', values⟩ := literals_of_ofValues vs others
    refine ⟨List.forall_mem_cons.mpr ⟨bindable, bindable'⟩,
      List.forall_mem_cons.mpr ⟨constant, constant'⟩, ?_⟩
    rw [valuesOf?, value, values]

end

mutual

theorem blames_of_ofValue : (v : Value) → {e : BindError} → ofValue v = .error e → e.Blames v
  | .null, _, h => by cases h
  | .boolean _, _, h => by cases h
  | .integer _, _, h => by cases h
  | .float x, _, h => by
    unfold ofValue at h
    split at h
    · cases h
    · next infinite =>
      cases h
      exact ⟨x, .here, Bool.eq_false_of_not_eq_true infinite⟩
  | .string _, _, h => by cases h
  | .array items, _, h => by
    obtain ⟨v, member, blamed⟩ := blames_of_ofValues items (map_eq_error.mp h)
    exact blamed.item member
  | .object fields, _, h => by
    cases h
    exact ⟨.object fields, .here, rfl⟩

theorem blames_of_ofValues : (vs : List Value) → {e : BindError} → ofValues vs = .error e →
    ∃ v ∈ vs, e.Blames v
  | [], _, h => by cases h
  | v :: vs, _, h => by
    rcases bind_eq_error.mp h with first | ⟨x, -, h⟩
    · exact ⟨v, List.mem_cons_self, blames_of_ofValue v first⟩
    · rcases bind_eq_error.mp h with others | ⟨xs, -, h⟩
      · obtain ⟨u, member, blamed⟩ := blames_of_ofValues vs others
        exact ⟨u, List.mem_cons_of_mem v member, blamed⟩
      · cases h

end

/-- What can be bound is bound: nothing in it could be blamed. -/
theorem exists_ofValue {v : Value} (bindable : v.Bindable) : ∃ x, ofValue v = .ok x := by
  cases converted : ofValue v with
  | ok x => exact ⟨x, rfl⟩
  | error e =>
    have blamed : e.Blames v := blames_of_ofValue v converted
    cases e with
    | object =>
      obtain ⟨p, inside, kind⟩ := blamed
      exact absurd kind (bindable p inside).1
    | nonFiniteFloat =>
      obtain ⟨x, inside, infinite⟩ := blamed
      rw [(bindable _ inside).2 x rfl] at infinite
      cases infinite
    | _ => exact blamed.elim

theorem exists_scalar {v : Value} (bindable : v.Bindable) (flat : v.kind ≠ .array) :
    ∃ x : ScalarLiteral, ofValue v = .ok x.operand ∧ x.operand.equals v = true := by
  cases v with
  | null => exact ⟨.null, rfl, rfl⟩
  | boolean b => exact ⟨.boolean b, rfl, by simp [ScalarLiteral.operand, equals]⟩
  | integer n =>
    refine ⟨.ordered (.number (.ofInt64 n)), rfl, ?_⟩
    simp [ScalarLiteral.operand, OrderedLiteral.operand, equals, Value.isNumber,
      Number.value_ofInt64, Value.compareNumbers]
  | float x =>
    have finite : x.isFinite = true := (bindable _ .here).2 x rfl
    refine ⟨.ordered (.number (.double x)), if_pos finite, ?_⟩
    simp [ScalarLiteral.operand, OrderedLiteral.operand, equals, Value.isNumber, Number.value,
      Value.compareNumbers, Value.toDouble?, Double.compare_self finite]
  | string s =>
    exact ⟨.ordered (.string s), rfl, by
      simp [ScalarLiteral.operand, OrderedLiteral.operand, equals]⟩
  | array items => exact absurd rfl flat
  | object fields => exact absurd rfl (bindable _ .here).1

theorem exists_scalars {vs : List Value} (h : ∀ v ∈ vs, v.Bindable ∧ v.kind ≠ .array) :
    ∃ xs : List ScalarLiteral, ofValues vs = .ok (xs.map (·.operand)) ∧
      ∀ v ∈ vs, ∃ x ∈ xs, x.operand.equals v = true := by
  induction vs with
  | nil => exact ⟨[], rfl, nofun⟩
  | cons v vs ih =>
    obtain ⟨⟨bindable, flat⟩, others⟩ := List.forall_mem_cons.mp h
    obtain ⟨x, first, equal⟩ := exists_scalar bindable flat
    obtain ⟨xs, converted, equals⟩ := ih others
    refine ⟨x :: xs, ?_, List.forall_mem_cons.mpr ⟨⟨x, List.mem_cons_self, equal⟩, ?_⟩⟩
    · rw [ofValues, first, converted]
      rfl
    · intro u member
      obtain ⟨y, listed, same⟩ := equals u member
      exact ⟨y, List.mem_cons_of_mem x listed, same⟩

end Operand

namespace Condition

/-- A field with a placeholder on the right. -/
def ofPlaceholder (name : String) (op : Comparator) : Condition :=
  comparison ⟨.key name, op, .placeholder, none, rfl⟩

variable {name : String} {record : Record}

theorem bind_ofPlaceholder {op : Comparator} {v : Value} {right : Operand}
    (converted : Operand.ofValue v = .ok right) (plain : op.isPattern = false)
    (faultless : right.rightFault op = none) :
    (ofPlaceholder name op).bind [v] =
      .ok (comparison (.ofField name op right plain faultless)) := by
  have made : Comparison.make (.key name) op right =
      .ok (.ofField name op right plain faultless) :=
    Comparison.make_eq (.ofField name op right plain faultless)
  simp [bind, ofPlaceholder, placeholders, Comparison.placeholders, Operand.placeholders, bindFrom,
    Comparison.bind, Operand.bind, converted, made, Except.map, Bind.bind, Except.bind, Pure.pure,
    Except.pure]

/-- Exactly the values without objects and without floats that are not finite have literals; the
literal of a value is free of keys and placeholders and stands for that value, and the error for
another value is that for an object or for such a float which is in it. So a field is met by
`name = ?` and `name IN ?` if its value is bound to the first, and a list with it to the second. -/
theorem bound_without_loss (v : Value) (name : String) (record : Record) :
    (v.Bindable → ∃ x, Operand.ofValue v = .ok x ∧ x.IsConstant ∧ x.value? = some v) ∧
      (¬v.Bindable → ∃ e, Operand.ofValue v = .error e ∧ e.Blames v) ∧
      (v.Bindable → v.kind ≠ .array → record name = some v →
        ∃ b, (ofPlaceholder name .equal).bind [v] = .ok b ∧ b.fit record = .ok true) ∧
      ∀ vs, (∀ u ∈ vs, u.Bindable ∧ u.kind ≠ .array) → v ∈ vs → record name = some v →
        ∃ b, (ofPlaceholder name .member).bind [.array vs] = .ok b ∧ b.fit record = .ok true := by
  refine ⟨?literal, ?refused, ?equal, ?member⟩
  case literal =>
    intro bindable
    obtain ⟨x, converted⟩ := Operand.exists_ofValue bindable
    exact ⟨x, converted, (Operand.literal_of_ofValue v converted).2⟩
  case refused =>
    intro unbindable
    cases converted : Operand.ofValue v with
    | ok x => exact absurd (Operand.literal_of_ofValue v converted).1 unbindable
    | error e => exact ⟨e, rfl, Operand.blames_of_ofValue v converted⟩
  case equal =>
    intro bindable flat present
    obtain ⟨x, converted, equal⟩ := Operand.exists_scalar bindable flat
    refine ⟨ofScalar name .equal x, bind_ofPlaceholder converted _ _, ?_⟩
    rw [fit_equal, present, Operand.equalsLeft, equal]
  case member =>
    intro vs scalars listed present
    obtain ⟨xs, converted, equals⟩ := Operand.exists_scalars scalars
    obtain ⟨x, member, equal⟩ := equals v listed
    have list : Operand.ofValue (.array vs) = .ok (.list (xs.map (·.operand))) := by
      rw [Operand.ofValue, converted]
      rfl
    refine ⟨ofMember name xs, bind_ofPlaceholder list _ _, ?_⟩
    have found : (xs.any fun x => x.operand.equalsLeft (record name)) = true := by
      rw [List.any_eq_true, present]
      exact ⟨x, member, equal⟩
    rw [fit_member, found]

/-- `[[2147483648, -0.0], null]` is bound, an infinity in a list of a list is refused, and a field
that is `2147483648` is met by itself and by a list with it. -/
theorem bound_without_loss_nested :
    let n : Value := .integer 0x80000000
    let nested : Value := .array [.array [n, .float (.zero true)], .null]
    let broken : Value := .array [n, .array [.float (.infinite true)]]
    let record := Value.record (.object [("a", n)])
    nested.Bindable ∧
      (∃ x, Operand.ofValue nested = .ok x ∧ x.IsConstant ∧ x.value? = some nested) ∧
      ¬broken.Bindable ∧ (∃ e, Operand.ofValue broken = .error e ∧ e.Blames broken) ∧
      (∃ b, (ofPlaceholder "a" .equal).bind [n] = .ok b ∧ b.fit record = .ok true) ∧
      ∃ b, (ofPlaceholder "a" .member).bind [.array [.string "x", n]] = .ok b ∧
        b.fit record = .ok true := by
  intro n nested broken record
  have integer : n.Bindable := Value.bindable_of_scalar nofun nofun nofun
  have string : (Value.string "x").Bindable := Value.bindable_of_scalar nofun nofun nofun
  have zero : (Value.float (.zero true)).Bindable := by
    refine Value.bindable_of_scalar nofun nofun ?_
    rintro x ⟨⟩
    rfl
  have null : Value.null.Bindable := Value.bindable_of_scalar nofun nofun nofun
  have bindable : nested.Bindable := by
    simp only [nested, Value.bindable_array_iff, List.forall_mem_cons]
    exact ⟨⟨integer, zero, nofun⟩, null, nofun⟩
  have unbindable : ¬broken.Bindable := by
    intro h
    have inside : (Value.float (.infinite true)).Occurs broken :=
      .item (List.mem_cons_of_mem _ List.mem_cons_self) (.item List.mem_cons_self .here)
    cases (h _ inside).2 _ rfl
  have scalars : ∀ u ∈ [.string "x", n], u.Bindable ∧ u.kind ≠ .array := by
    simp only [List.forall_mem_cons]
    exact ⟨⟨string, nofun⟩, ⟨integer, nofun⟩, nofun⟩
  obtain ⟨literal, -⟩ := bound_without_loss nested "a" record
  obtain ⟨-, refused, -⟩ := bound_without_loss broken "a" record
  obtain ⟨-, -, equal, member⟩ := bound_without_loss n "a" record
  exact ⟨bindable, literal bindable, unbindable, refused unbindable, equal integer nofun rfl,
    member _ scalars (List.mem_cons_of_mem _ List.mem_cons_self) rfl⟩

end Condition
end RecordFilter
