import RecordFilter.Proofs.Parse.Grammar

namespace RecordFilter

open Grammar (nots bracketed)

/-- A region as far as it decides levels. -/
structure Layer where
  level : Nat
  negations : Nat
  /-- Whether a comparison has been completed or a condition in brackets has been taken. -/
  folded : Bool

/-- The negations that waited have been applied. -/
def Layer.fold (r : Layer) : Layer := { r with negations := 0, folded := true }

/-- What decides the level of the next token. -/
structure LevelReader where
  region : Layer
  outer : List Layer
  compared : Bool
  inList : Bool

namespace LevelReader

def start : LevelReader := ⟨⟨0, 0, false⟩, [], false, false⟩

/-- The level of a negation or a bracket. A group shares the level of a negation before it. -/
def level? (m : LevelReader) : Token → Option Nat
  | .not => some (m.region.level + m.region.negations + 1)
  | .leftParen => some (m.region.level +
      if m.compared then m.region.negations + 1 else max m.region.negations 1)
  | _ => none

def next (m : LevelReader) : Token → LevelReader
  | .not => { m with region := { m.region with negations := m.region.negations + 1 } }
  | .comparator _ => { m with compared := true }
  | .leftParen =>
    if m.compared then { m with compared := false, inList := true }
    else
      let inner := m.region.level + max m.region.negations 1
      { m with region := ⟨inner, 0, false⟩, outer := m.region :: m.outer }
  | .rightParen =>
    if m.inList then { m with region := m.region.fold, inList := false }
    else match m.outer with
      | [] => m
      | r :: outer => { m with region := if m.region.folded then r.fold else r, outer }
  | .connective _ => m
  | .comma => m
  | _ => if m.compared then { m with region := m.region.fold, compared := false } else m

def read (m : LevelReader) (ts : List Token) : LevelReader := ts.foldl next m

def levels (m : LevelReader) : List Token → List Nat
  | [] => []
  | t :: ts => (m.level? t).toList ++ (m.next t).levels ts

variable {r : Layer} {outer : List Layer} {ts us : List Token}

theorem read_append (m : LevelReader) (ts us : List Token) :
    m.read (ts ++ us) = (m.read ts).read us :=
  List.foldl_append

theorem read_cons (m : LevelReader) (t : Token) (ts : List Token) :
    m.read (t :: ts) = (m.next t).read ts := rfl

theorem levels_append (m : LevelReader) (ts us : List Token) :
    m.levels (ts ++ us) = m.levels ts ++ (m.read ts).levels us := by
  induction ts generalizing m with
  | nil => rfl
  | cons t ts ih => rw [List.cons_append, levels, ih, levels, List.append_assoc, read_cons]

theorem next_operand {t : Token} {x : Operand} (h : t.operand? = some x) (m : LevelReader) :
    m.next t =
      if m.compared then { m with region := m.region.fold, compared := false } else m := by
  cases t <;> cases h <;> rfl

theorem read_nots (n : Nat) {d k : Nat} {folded : Bool} :
    (⟨⟨d, k, folded⟩, outer, false, false⟩ : LevelReader).read (nots n) =
      ⟨⟨d, k + n, folded⟩, outer, false, false⟩ := by
  induction n generalizing k with
  | zero => rfl
  | succ n ih =>
    have rest := ih (k := k + 1)
    rw [show k + 1 + n = k + (n + 1) by omega] at rest
    exact rest

theorem read_bare {x : Operand} (h : Grammar.Bare ts x) :
    (⟨r, outer, false, false⟩ : LevelReader).read ts = ⟨r, outer, false, false⟩ := by
  induction h generalizing r outer with
  | value h => exact next_operand h _
  | group inner ih =>
    rw [bracketed, read_cons, read_append]
    change ((LevelReader.mk ⟨r.level + max r.negations 1, 0, false⟩ (r :: outer) false false).read
      _).read _ = _
    rw [ih]
    rfl

theorem read_elements {xs : List Operand} (h : Grammar.Elements ts xs) :
    (⟨r, outer, false, true⟩ : LevelReader).read ts = ⟨r, outer, false, true⟩ := by
  induction h with
  | single h => exact next_operand h _
  | more _ h _ ih =>
    rw [read_append, ih]
    exact next_operand h _

theorem read_right {x : Operand} (h : Grammar.Right ts x) :
    (⟨r, outer, true, false⟩ : LevelReader).read ts = ⟨r.fold, outer, false, false⟩ := by
  cases h with
  | value h => exact next_operand h _
  | empty => rfl
  | list elements =>
    rw [bracketed, read_cons, read_append]
    change ((LevelReader.mk r outer false true).read _).read _ = _
    rw [read_elements elements]
    rfl

/-- A phrase leaves no negation that waits. -/
theorem read_phrase {s : Symbol} {c : Condition} (h : Grammar.Phrase s ts c) {d : Nat}
    {folded : Bool} : (⟨⟨d, 0, folded⟩, outer, false, false⟩ : LevelReader).read ts =
      ⟨⟨d, 0, true⟩, outer, false, false⟩ := by
  induction h generalizing d folded outer with
  | group n _ ih =>
    rw [read_append, read_nots, bracketed, read_cons, read_append]
    change ((LevelReader.mk ⟨d + max (0 + n) 1, 0, false⟩ (⟨d, 0 + n, folded⟩ :: outer) false
      false).read _).read _ = _
    rw [ih]
    rfl
  | comparison n m left right _ =>
    rw [read_append, read_append, read_append, read_nots, read_bare left, read_nots, read_cons]
    exact read_right right
  | single _ ih => exact ih
  | join _ _ left right =>
    rw [read_append, left, read_cons]
    exact right

def Within (limit : Nat) (m : LevelReader) (ts : List Token) : Prop := ∀ n ∈ m.levels ts, n ≤ limit

variable {limit : Nat}

theorem within_append {m : LevelReader} :
    m.Within limit (ts ++ us) ↔ m.Within limit ts ∧ (m.read ts).Within limit us := by
  simp only [Within, levels_append, List.mem_append, or_imp, forall_and]

theorem within_cons {m : LevelReader} {t : Token} :
    m.Within limit (t :: ts) ↔ (∀ n ∈ m.level? t, n ≤ limit) ∧ (m.next t).Within limit ts := by
  simp only [Within, levels, List.mem_append, or_imp, forall_and, Option.mem_toList]
  rfl

theorem within_nil {m : LevelReader} : m.Within limit [] := nofun

theorem within_operand {m : LevelReader} {t : Token} {x : Operand} (h : t.operand? = some x) :
    m.Within limit [t] := by
  cases t <;> cases h <;> exact nofun

theorem within_nots (n : Nat) {d k : Nat} {folded : Bool} :
    (⟨⟨d, k, folded⟩, outer, false, false⟩ : LevelReader).Within limit (nots n) ↔
      n = 0 ∨ d + k + n ≤ limit := by
  induction n generalizing k with
  | zero => simp [Within, nots, levels]
  | succ n ih =>
    have rest := ih (k := k + 1)
    have here : (⟨⟨d, k, folded⟩, outer, false, false⟩ : LevelReader).Within limit (nots (n + 1)) ↔
        d + k + 1 ≤ limit ∧ (⟨⟨d, k + 1, folded⟩, outer, false, false⟩ : LevelReader).Within limit
          (nots n) := by
      rw [nots, List.replicate_succ, within_cons]
      simp [level?, next, nots]
    rw [here, rest]
    omega

theorem within_group {d k : Nat} {folded : Bool} :
    (⟨⟨d, k, folded⟩, outer, false, false⟩ : LevelReader).Within limit (bracketed ts) ↔
      d + max k 1 ≤ limit ∧ (⟨⟨d + max k 1, 0, false⟩, ⟨d, k, folded⟩ :: outer, false, false⟩ :
        LevelReader).Within limit ts := by
  rw [bracketed, within_cons, within_append]
  simp [level?, next, Within, levels]

theorem within_elements {xs : List Operand} (h : Grammar.Elements ts xs) :
    (⟨r, outer, false, true⟩ : LevelReader).Within limit ts := by
  induction h with
  | single h => exact within_operand h
  | more others h _ ih =>
    rw [within_append, read_elements others]
    exact ⟨ih, within_cons.mpr ⟨nofun, within_operand h⟩⟩

theorem within_list {d k : Nat} {folded : Bool}
    (inner : (⟨⟨d, k, folded⟩, outer, false, true⟩ : LevelReader).Within limit ts) :
    (⟨⟨d, k, folded⟩, outer, true, false⟩ : LevelReader).Within limit (bracketed ts) ↔
      d + k + 1 ≤ limit := by
  rw [bracketed, within_cons, within_append]
  have next : (⟨⟨d, k, folded⟩, outer, true, false⟩ : LevelReader).next .leftParen =
      ⟨⟨d, k, folded⟩, outer, false, true⟩ := rfl
  rw [next]
  simp only [inner, true_and]
  simp [level?, Within, levels, Nat.add_assoc]

theorem within_comparison {us : List Token} {x : Operand} {op : Comparator} (n m : Nat)
    (left : Grammar.Bare ts x) {d : Nat} {folded : Bool} :
    (⟨⟨d, 0, folded⟩, outer, false, false⟩ : LevelReader).Within limit
        (nots n ++ ts ++ nots m ++ .comparator op :: us) ↔
      (n + m = 0 ∨ d + (n + m) ≤ limit) ∧
        (⟨⟨d, n, folded⟩, outer, false, false⟩ : LevelReader).Within limit ts ∧
        (⟨⟨d, n + m, folded⟩, outer, true, false⟩ : LevelReader).Within limit us := by
  have compare : (⟨⟨d, n + m, folded⟩, outer, false, false⟩ : LevelReader).Within limit
      (.comparator op :: us) ↔
      (⟨⟨d, n + m, folded⟩, outer, true, false⟩ : LevelReader).Within limit us := by
    rw [within_cons]
    exact and_iff_right nofun
  simp only [within_append, read_append, read_nots, read_bare left, within_nots, Nat.zero_add,
    compare]
  constructor
  · rintro ⟨⟨⟨first, inside⟩, second⟩, behind⟩
    exact ⟨by omega, inside, behind⟩
  · rintro ⟨room, inside, behind⟩
    exact ⟨⟨⟨by omega, inside⟩, by omega⟩, behind⟩

end LevelReader

open LevelReader

variable {limit d k : Nat} {folded : Bool} {outer : List Layer} {ts : List Token}

namespace Grammar

theorem Bare.nested_of_within {x : Operand} (h : Bare ts x)
    (within : (⟨⟨d, k, folded⟩, outer, false, false⟩ : LevelReader).Within limit ts) :
    Nested.Bare limit (d + max k 1) ts x := by
  induction h generalizing d k folded outer with
  | value h => exact .value h
  | group _ ih =>
    obtain ⟨room, inner⟩ := within_group.mp within
    exact .group room (ih inner)

theorem Right.nested_of_within {x : Operand} (h : Right ts x)
    (within : (⟨⟨d, k, folded⟩, outer, true, false⟩ : LevelReader).Within limit ts) :
    Nested.Right limit (d + k + 1) ts x := by
  cases h with
  | value h => exact .value h
  | empty => exact .empty ((within_list within_nil).mp within)
  | list elements => exact .list ((within_list (within_elements elements)).mp within) elements

theorem Phrase.nested_of_within {s : Symbol} {c : Condition} (h : Phrase s ts c) (room : d ≤ limit)
    (within : (⟨⟨d, 0, folded⟩, outer, false, false⟩ : LevelReader).Within limit ts) :
    Nested.Phrase limit d s ts c := by
  induction h generalizing d folded outer with
  | group n _ ih =>
    rw [within_append, read_nots, within_group, Nat.zero_add] at within
    obtain ⟨-, room, inner⟩ := within
    exact .group n room (ih room inner)
  | comparison n m left right legal =>
    obtain ⟨waiting, inside, behind⟩ := (within_comparison n m left).mp within
    exact .comparison n m (by omega) (left.nested_of_within inside)
      (right.nested_of_within behind) legal
  | single _ ih => exact .single (ih room within)
  | @join _ _ _ _ _ first _ left right =>
    rw [within_append, read_phrase first, within_cons] at within
    obtain ⟨front, -, back⟩ := within
    exact .join (left room front) (right room back)

theorem Derives.nested_of_within {e : Expression} (h : Derives ts e)
    (within : LevelReader.start.Within limit ts) : Nested.Derives limit 0 ts e := by
  cases h with
  | operand bare => exact .operand (bare.nested_of_within within)
  | condition logic => exact .condition (logic.nested_of_within (Nat.zero_le _) within)

end Grammar

namespace Nested

theorem Bare.within {level : Nat} {x : Operand} (h : Bare limit level ts x)
    (same : level = d + max k 1) :
    (⟨⟨d, k, folded⟩, outer, false, false⟩ : LevelReader).Within limit ts := by
  induction h generalizing d k folded outer with
  | value h => exact within_operand h
  | group room _ ih =>
    subst same
    exact within_group.mpr ⟨room, ih rfl⟩

theorem Right.within {level : Nat} {x : Operand} (h : Right limit level ts x)
    (same : level = d + k + 1) :
    (⟨⟨d, k, folded⟩, outer, true, false⟩ : LevelReader).Within limit ts := by
  subst same
  cases h with
  | value h => exact within_operand h
  | empty room => exact (within_list within_nil).mpr room
  | list room elements => exact (within_list (within_elements elements)).mpr room

theorem Phrase.within {s : Symbol} {c : Condition} (h : Phrase limit d s ts c) :
    (⟨⟨d, 0, folded⟩, outer, false, false⟩ : LevelReader).Within limit ts := by
  induction h generalizing folded outer with
  | group n room _ ih =>
    rw [within_append, read_nots, within_nots, within_group, Nat.zero_add]
    exact ⟨by omega, room, ih⟩
  | comparison n m room left right _ =>
    exact (within_comparison n m left.plain).mpr ⟨.inr room, left.within rfl, right.within rfl⟩
  | single _ ih => exact ih
  | join first _ left right =>
    rw [within_append, read_phrase first.plain, within_cons]
    exact ⟨left, nofun, right⟩

theorem Derives.within {e : Expression} (h : Derives limit 0 ts e) :
    LevelReader.start.Within limit ts := by
  cases h with
  | operand bare => exact bare.within rfl
  | condition logic => exact logic.within

end Nested

/-- The nested derivations are those whose tokens stay within the limit. -/
theorem Nested.derives_iff {e : Expression} : Nested.Derives limit 0 ts e ↔
    Grammar.Derives ts e ∧ LevelReader.start.Within limit ts :=
  ⟨fun h => ⟨h.plain, h.within⟩, fun h => h.1.nested_of_within h.2⟩

end RecordFilter
