import RecordFilter.Json.Basic
import RecordFilter.Proofs.Binding.Values

namespace RecordFilter

/-- The document itself, or one that is in it at any depth. -/
inductive Json.Occurs (p : Json) : Json → Prop where
  | here : Occurs p p
  | item {items : List Json} {j : Json} (member : j ∈ items) (inside : Occurs p j) :
      Occurs p (.array items)
  | field {fields : List (String × Json)} {name : String} {j : Json} (member : (name, j) ∈ fields)
      (inside : Occurs p j) : Occurs p (.object fields)

/-- There is a document for every float in the value. -/
def Value.FloatsFinite (v : Value) : Prop := ∀ x, (Value.float x).Occurs v → x.isFinite = true

def Json.HasLarge (j : Json) : Prop := ∃ n above, (Json.large n above).Occurs j

namespace Value

variable {items : List Value} {fields : List (String × Value)}

theorem FloatsFinite.item (h : (array items).FloatsFinite) (v : Value) (member : v ∈ items) :
    v.FloatsFinite := fun x inside => h x (.item member inside)

theorem FloatsFinite.field (h : (object fields).FloatsFinite) (f : String × Value)
    (member : f ∈ fields) : f.2.FloatsFinite := fun x inside => h x (.field member inside)

end Value

namespace Json

variable {items : List Json} {fields : List (String × Json)}

theorem HasLarge.item {j : Json} (h : j.HasLarge) (member : j ∈ items) :
    (array items).HasLarge := by
  obtain ⟨n, above, inside⟩ := h
  exact ⟨n, above, .item member inside⟩

theorem HasLarge.field {f : String × Json} (h : f.2.HasLarge) (member : f ∈ fields) :
    (object fields).HasLarge := by
  obtain ⟨n, above, inside⟩ := h
  exact ⟨n, above, .field member inside⟩

theorem get?_valuesOfFields (name : String) (fields : List (String × Json)) :
    Fields.get? name (valuesOfFields fields) = (Fields.get? name fields).map toValue := by
  induction fields with
  | nil => rfl
  | cons f fields ih =>
    obtain ⟨k, j⟩ := f
    rw [valuesOfFields, Fields.get?, Fields.get?, ih]
    split <;> rfl

/-- A document is the same record as the value it is converted to. -/
theorem record_toValue (j : Json) : j.toValue.record = j.record := by
  funext name
  cases j with
  | object fields => exact get?_valuesOfFields name fields
  | _ => rfl

theorem ofDouble?_of_finite {x : Double} (finite : x.isFinite = true) :
    ofDouble? x = some (float x finite) := dif_pos finite

mutual

theorem toValue_ofValue : (v : Value) → v.FloatsFinite → (ofValue v).toValue = v
  | .null, _ => rfl
  | .boolean _, _ => rfl
  | .integer _, _ => rfl
  | .float x, h => by
    rw [ofValue, ofDouble?_of_finite (h x .here)]
    rfl
  | .string _, _ => rfl
  | .array items, h => by
    have same := valuesOfItems_ofItems items h.item
    rw [ofValue, toValue, same]
  | .object fields, h => by
    have same := valuesOfFields_ofFields fields h.field
    rw [ofValue, toValue, same]

theorem valuesOfItems_ofItems :
    (vs : List Value) → (∀ v ∈ vs, v.FloatsFinite) → valuesOfItems (ofItems vs) = vs
  | [], _ => rfl
  | v :: vs, h => by
    obtain ⟨first, others⟩ := List.forall_mem_cons.mp h
    rw [ofItems, valuesOfItems, toValue_ofValue v first, valuesOfItems_ofItems vs others]

theorem valuesOfFields_ofFields :
    (fs : List (String × Value)) → (∀ f ∈ fs, f.2.FloatsFinite) →
      valuesOfFields (ofFields fs) = fs
  | [], _ => rfl
  | (_, v) :: fs, h => by
    obtain ⟨first, others⟩ := List.forall_mem_cons.mp h
    rw [ofFields, valuesOfFields, toValue_ofValue v first, valuesOfFields_ofFields fs others]

end

mutual

theorem ofValue_toValue : (j : Json) → ¬j.HasLarge → ofValue j.toValue = j
  | null, _ => rfl
  | boolean _, _ => rfl
  | integer _, _ => rfl
  | large n above, h => absurd ⟨n, above, .here⟩ h
  | float x finite, _ => by
    rw [toValue, ofValue, ofDouble?_of_finite finite]
    rfl
  | string _, _ => rfl
  | array items, h => by
    have same := ofItems_valuesOfItems items fun j member inside => h (inside.item member)
    rw [toValue, ofValue, same]
  | object fields, h => by
    have same := ofFields_valuesOfFields fields fun f member inside => h (inside.field member)
    rw [toValue, ofValue, same]

theorem ofItems_valuesOfItems :
    (js : List Json) → (∀ j ∈ js, ¬j.HasLarge) → ofItems (valuesOfItems js) = js
  | [], _ => rfl
  | j :: js, h => by
    obtain ⟨first, others⟩ := List.forall_mem_cons.mp h
    rw [valuesOfItems, ofItems, ofValue_toValue j first, ofItems_valuesOfItems js others]

theorem ofFields_valuesOfFields :
    (fs : List (String × Json)) → (∀ f ∈ fs, ¬f.2.HasLarge) → ofFields (valuesOfFields fs) = fs
  | [], _ => rfl
  | (_, j) :: fs, h => by
    obtain ⟨first, others⟩ := List.forall_mem_cons.mp h
    rw [valuesOfFields, ofFields, ofValue_toValue j first, ofFields_valuesOfFields fs others]

end

theorem ofItems_eq_map (vs : List Value) : ofItems vs = vs.map ofValue := by
  induction vs with
  | nil => rfl
  | cons v vs ih => rw [ofItems, ih, List.map_cons]

theorem ofFields_eq_map (fs : List (String × Value)) :
    ofFields fs = fs.map fun f => (f.1, ofValue f.2) := by
  induction fs with
  | nil => rfl
  | cons f fs ih => rw [ofFields, ih, List.map_cons]

theorem ofValue_float (x : Double) :
    ofValue (.float x) = null ∨ ∃ finite, ofValue (.float x) = float x finite := by
  unfold ofValue ofDouble?
  split
  · next finite => exact .inr ⟨finite, rfl⟩
  · exact .inl rfl

/-- Conversion makes no large integer, and it makes items and fields of items and fields. -/
theorem ofValue_parts (v : Value) :
    (∀ n above, ofValue v ≠ large n above) ∧
      (∀ js, ofValue v = array js → ∃ vs : List Value, js = vs.map ofValue) ∧
      ∀ fs, ofValue v = object fs →
        ∃ gs : List (String × Value), fs = gs.map fun f => (f.1, ofValue f.2) := by
  cases v with
  | float x =>
    rcases ofValue_float x with same | ⟨finite, same⟩
    · rw [same]
      exact ⟨nofun, nofun, nofun⟩
    · rw [same]
      exact ⟨nofun, nofun, nofun⟩
  | array items =>
    refine ⟨nofun, fun js made => ⟨items, ?_⟩, nofun⟩
    rw [ofValue, ofItems_eq_map] at made
    cases made
    rfl
  | object fields =>
    refine ⟨nofun, nofun, fun fs made => ⟨fields, ?_⟩⟩
    rw [ofValue, ofFields_eq_map] at made
    cases made
    rfl
  | _ => exact ⟨nofun, nofun, nofun⟩

theorem not_hasLarge_ofValue (v : Value) : ¬(ofValue v).HasLarge := by
  rintro ⟨n, above, occurs⟩
  generalize made : ofValue v = j at occurs
  induction occurs generalizing v with
  | here => exact (ofValue_parts v).1 n above made
  | item member inside ih =>
    obtain ⟨vs, rfl⟩ := (ofValue_parts v).2.1 _ made
    obtain ⟨u, -, same⟩ := List.mem_map.mp member
    exact ih u same
  | field member inside ih =>
    obtain ⟨gs, rfl⟩ := (ofValue_parts v).2.2 _ made
    obtain ⟨g, -, same⟩ := List.mem_map.mp member
    exact ih g.2 (Prod.ext_iff.mp same).2

/-- A condition has the same result on a document as on the value it is converted to, and reads the
same fields. A value whose floats are finite comes back from its document the same, integers as
integers and floats as floats at every depth. A document comes back from its value unless it has an
integer that is too large for a signed one, and only then. -/
theorem converted_interchangeable (j : Json) (c : Condition) (v : Value) :
    c.evaluate j.record = c.evaluate j.toValue.record ∧
      (v.FloatsFinite → (ofValue v).toValue = v) ∧
      (ofValue j.toValue = j ↔ ¬j.HasLarge) := by
  refine ⟨by rw [record_toValue], toValue_ofValue v, fun back => ?_, ofValue_toValue j⟩
  rw [← back]
  exact not_hasLarge_ofValue j.toValue

/-- The least integer and a negative zero in a list of an object, and in such a list the least
integer that is too large. -/
theorem converted_interchangeable_limits :
    let v : Value := .object [("a", .array [.integer Int64.minValue, .float (.zero true)])]
    let j : Json := .object [("a", .array [.large 0x8000000000000000 (by decide)])]
    v.FloatsFinite ∧ (ofValue v).toValue = v ∧ j.HasLarge ∧ ofValue j.toValue ≠ j ∧
      ¬(ofValue v).HasLarge ∧ ofValue (ofValue v).toValue = ofValue v := by
  intro v j
  have finite : v.FloatsFinite := by
    intro x occurs
    dsimp only [v] at occurs
    cases occurs with
    | field member inside =>
      obtain ⟨-, rfl⟩ := Prod.mk.inj (List.mem_singleton.mp member)
      cases inside with
      | item member inside =>
        rcases List.mem_pair.mp member with rfl | rfl
        · cases inside
        · cases inside
          rfl
  have large : j.HasLarge :=
    ⟨_, by decide, .field List.mem_cons_self (.item List.mem_cons_self .here)⟩
  have c : Condition := .ofPlaceholder "a" .equal
  obtain ⟨-, back, above⟩ := converted_interchangeable j c v
  obtain ⟨-, -, signed⟩ := converted_interchangeable (ofValue v) c v
  have same : ofValue (ofValue v).toValue = ofValue v := by rw [back finite]
  exact ⟨finite, back finite, large, fun h => above.mp h large, signed.mp same, same⟩

end Json
end RecordFilter
