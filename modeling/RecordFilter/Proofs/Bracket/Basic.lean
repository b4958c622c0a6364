import Mathlib
import RecordFilter.Bracket

namespace RecordFilter

/-- What is known of a bracket as soon as it opens. -/
structure Opening where
  kind : BracketKind
  start : Nat
  parent : Option Nat
  deriving DecidableEq

def Bracket.opening (b : Bracket) : Opening := ⟨b.kind, b.start, b.parent⟩

namespace BracketTree

def opening? (t : BracketTree) (id : Nat) : Option Opening := (t.get? id).map (·.opening)

def stop? (t : BracketTree) (id : Nat) : Option Nat := (t.get? id).bind (·.stop)

variable {t : BracketTree}

theorem ext_get? {t u : BracketTree} (h : ∀ id, t.get? id = u.get? id) : t = u := by
  obtain ⟨bs⟩ := t
  obtain ⟨cs⟩ := u
  exact congrArg mk (Array.ext_getElem? h)

@[simp] theorem size_empty : empty.size = 0 := rfl

theorem get?_eq_none_iff {id : Nat} : t.get? id = none ↔ t.size ≤ id := by
  rw [get?, size, getElem?_eq_none_iff, Nat.not_lt]

theorem exists_get? {id : Nat} (h : id < t.size) : ∃ b, t.get? id = some b := by
  cases found : t.get? id with
  | none => exact absurd (get?_eq_none_iff.mp found) (Nat.not_le.mpr h)
  | some b => exact ⟨b, rfl⟩

@[simp] theorem size_push (kind : BracketKind) (parent : Option Nat) (start : Nat) :
    (t.push kind parent start).size = t.size + 1 := by
  cases parent <;> simp [push, size]

@[simp] theorem size_close (id stop : Nat) : (t.close id stop).size = t.size := by
  simp [close, size]

theorem get?_push (kind : BracketKind) (parent : Option Nat) (start id : Nat) :
    (t.push kind parent start).get? id =
      (if id = t.size then some ⟨kind, start, none, parent, []⟩ else t.get? id).map fun b =>
        if parent = some id then { b with children := b.children ++ [t.size] } else b := by
  rw [show t.size = t.brackets.size from rfl]
  cases parent with
  | none => simp [push, get?, Array.getElem?_push]
  | some p =>
    simp only [push, get?, Array.getElem?_modify, Array.getElem?_push, Option.some.injEq]
    split <;> simp [size]

theorem get?_close (id stop other : Nat) :
    (t.close id stop).get? other = (t.get? other).map fun b =>
      if id = other then { b with stop := some stop } else b := by
  simp only [close, get?, Array.getElem?_modify]
  split <;> simp

theorem opening?_eq_none_iff {id : Nat} : t.opening? id = none ↔ t.size ≤ id := by
  rw [opening?, Option.map_eq_none_iff, get?_eq_none_iff]

theorem stop?_eq_none {id : Nat} (h : t.size ≤ id) : t.stop? id = none := by
  rw [stop?, get?_eq_none_iff.mpr h, Option.bind_none]

theorem opening?_push (kind : BracketKind) (parent : Option Nat) (start id : Nat) :
    (t.push kind parent start).opening? id =
      if id = t.size then some ⟨kind, start, parent⟩ else t.opening? id := by
  have same (b : Bracket) : Bracket.opening (if parent = some id then
      { b with children := b.children ++ [t.size] } else b) = b.opening := by
    split <;> rfl
  simp only [opening?, get?_push, Option.map_map, Function.comp_def, same]
  split <;> rfl

@[simp] theorem opening?_close (id stop other : Nat) :
    (t.close id stop).opening? other = t.opening? other := by
  have same (b : Bracket) : Bracket.opening (if id = other then
      { b with stop := some stop } else b) = b.opening := by
    split <;> rfl
  simp only [opening?, get?_close, Option.map_map, Function.comp_def, same]

@[simp] theorem stop?_push (kind : BracketKind) (parent : Option Nat) (start id : Nat) :
    (t.push kind parent start).stop? id = t.stop? id := by
  have same (b : Bracket) : Bracket.stop (if parent = some id then
      { b with children := b.children ++ [t.size] } else b) = b.stop := by
    split <;> rfl
  simp only [stop?, get?_push, Option.bind_map, Function.comp_def, same]
  split
  · next new =>
    subst new
    rw [get?_eq_none_iff.mpr (Nat.le_refl _)]
    rfl
  · rfl

theorem stop?_close_self {id : Nat} (stop : Nat) (known : id < t.size) :
    (t.close id stop).stop? id = some stop := by
  obtain ⟨b, found⟩ := exists_get? known
  rw [stop?, get?_close, found, Option.map_some, Option.bind_some, if_pos rfl]

theorem stop?_close_of_ne {id other : Nat} (stop : Nat) (h : id ≠ other) :
    (t.close id stop).stop? other = t.stop? other := by
  simp only [stop?, get?_close, if_neg h, Option.map_id']

end BracketTree
end RecordFilter
