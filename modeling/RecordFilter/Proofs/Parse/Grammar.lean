import Mathlib
import RecordFilter.Parse.Basic

namespace RecordFilter

/-- The two phrases that amount to a condition. -/
inductive Symbol where
  /-- A group or a comparison, with the negations in front of it. -/
  | unit
  /-- Units with connectives between them. -/
  | logic
  deriving DecidableEq

namespace Grammar

def nots (n : Nat) : List Token := List.replicate n .not

def bracketed (ts : List Token) : List Token := .leftParen :: (ts ++ [.rightParen])

/-- A value by itself, in any number of brackets. -/
inductive Bare : List Token → Operand → Prop where
  | value {t : Token} {x : Operand} (h : t.operand? = some x) : Bare [t] x
  | group {ts : List Token} {x : Operand} (inner : Bare ts x) : Bare (bracketed ts) x

/-- One element or more, with commas between them. -/
inductive Elements : List Token → List Operand → Prop where
  | single {t : Token} {x : Operand} (h : t.operand? = some x) (literal : x.isKey = false) :
      Elements [t] [x]
  | more {ts : List Token} {xs : List Operand} {t : Token} {x : Operand} (others : Elements ts xs)
      (h : t.operand? = some x) (literal : x.isKey = false) :
      Elements (ts ++ [.comma, t]) (xs ++ [x])

/-- The right side of a comparison. -/
inductive Right : List Token → Operand → Prop where
  | value {t : Token} {x : Operand} (h : t.operand? = some x) : Right [t] x
  | empty : Right (bracketed []) (.list [])
  | list {ts : List Token} {xs : List Operand} (elements : Elements ts xs) :
      Right (bracketed ts) (.list xs)

/-- Connectives have one precedence and fold to the left. All negations of a comparison, in front
of it and behind its left side, negate the comparison. -/
inductive Phrase : Symbol → List Token → Condition → Prop where
  | group {ts : List Token} {c : Condition} (n : Nat) (inner : Phrase .logic ts c) :
      Phrase .unit (nots n ++ bracketed ts) (Condition.negation^[n] c)
  | comparison {ls rs : List Token} {x y : Operand} {op : Comparator} {c : Comparison} (n m : Nat)
      (left : Bare ls x) (right : Right rs y) (legal : Comparison.make x op y = .ok c) :
      Phrase .unit (nots n ++ ls ++ nots m ++ .comparator op :: rs)
        (Condition.negation^[n + m] (.comparison c))
  | single {ts : List Token} {c : Condition} (unit : Phrase .unit ts c) : Phrase .logic ts c
  | join {ts us : List Token} {a b : Condition} {op : Connective} (left : Phrase .logic ts a)
      (right : Phrase .unit us b) : Phrase .logic (ts ++ .connective op :: us) (.join a op b)

/-- A whole text: a bare value or a condition. -/
inductive Derives : List Token → Expression → Prop where
  | operand {ts : List Token} {x : Operand} (bare : Bare ts x) : Derives ts (.operand x)
  | condition {ts : List Token} {c : Condition} (logic : Phrase .logic ts c) :
      Derives ts (.condition c)

end Grammar

namespace Nested

open Grammar (nots bracketed Elements)

variable {limit : Nat}

/-- A value in brackets of which the outermost stands on a given level. -/
inductive Bare (limit : Nat) : Nat → List Token → Operand → Prop where
  | value {level : Nat} {t : Token} {x : Operand} (h : t.operand? = some x) :
      Bare limit level [t] x
  | group {level : Nat} {ts : List Token} {x : Operand} (within : level ≤ limit)
      (inner : Bare limit (level + 1) ts x) : Bare limit level (bracketed ts) x

/-- The right side of a comparison; a list stands on the given level. -/
inductive Right (limit : Nat) : Nat → List Token → Operand → Prop where
  | value {level : Nat} {t : Token} {x : Operand} (h : t.operand? = some x) :
      Right limit level [t] x
  | empty {level : Nat} (within : level ≤ limit) : Right limit level (bracketed []) (.list [])
  | list {level : Nat} {ts : List Token} {xs : List Operand} (within : level ≤ limit)
      (elements : Elements ts xs) : Right limit level (bracketed ts) (.list xs)

/-- The phrases of a region of depth `d`. Its first negation stands on level `d + 1` and each
further one a level deeper; a group shares the level of the negation in front of it, and a list
stands one level below all negations of its comparison. -/
inductive Phrase (limit : Nat) : Nat → Symbol → List Token → Condition → Prop where
  | group {d : Nat} {ts : List Token} {c : Condition} (n : Nat) (within : d + max n 1 ≤ limit)
      (inner : Phrase limit (d + max n 1) .logic ts c) :
      Phrase limit d .unit (nots n ++ bracketed ts) (Condition.negation^[n] c)
  | comparison {d : Nat} {ls rs : List Token} {x y : Operand} {op : Comparator} {c : Comparison}
      (n m : Nat) (within : d + (n + m) ≤ limit) (left : Bare limit (d + max n 1) ls x)
      (right : Right limit (d + (n + m) + 1) rs y) (legal : Comparison.make x op y = .ok c) :
      Phrase limit d .unit (nots n ++ ls ++ nots m ++ .comparator op :: rs)
        (Condition.negation^[n + m] (.comparison c))
  | single {d : Nat} {ts : List Token} {c : Condition} (unit : Phrase limit d .unit ts c) :
      Phrase limit d .logic ts c
  | join {d : Nat} {ts us : List Token} {a b : Condition} {op : Connective}
      (left : Phrase limit d .logic ts a) (right : Phrase limit d .unit us b) :
      Phrase limit d .logic (ts ++ .connective op :: us) (.join a op b)

/-- What a region of depth `d` amounts to. -/
inductive Derives (limit : Nat) (d : Nat) : List Token → Expression → Prop where
  | operand {ts : List Token} {x : Operand} (bare : Bare limit (d + 1) ts x) :
      Derives limit d ts (.operand x)
  | condition {ts : List Token} {c : Condition} (logic : Phrase limit d .logic ts c) :
      Derives limit d ts (.condition c)

theorem Bare.plain {level : Nat} {ts : List Token} {x : Operand} (h : Bare limit level ts x) :
    Grammar.Bare ts x := by
  induction h with
  | value h => exact .value h
  | group _ _ ih => exact .group ih

theorem Right.plain {level : Nat} {ts : List Token} {x : Operand} (h : Right limit level ts x) :
    Grammar.Right ts x := by
  cases h with
  | value h => exact .value h
  | empty => exact .empty
  | list _ elements => exact .list elements

theorem Phrase.plain {d : Nat} {s : Symbol} {ts : List Token} {c : Condition}
    (h : Phrase limit d s ts c) : Grammar.Phrase s ts c := by
  induction h with
  | group n _ _ ih => exact .group n ih
  | comparison n m _ left right legal => exact .comparison n m left.plain right.plain legal
  | single _ ih => exact .single ih
  | join _ _ left right => exact .join left right

theorem Derives.plain {d : Nat} {ts : List Token} {e : Expression} (h : Derives limit d ts e) :
    Grammar.Derives ts e := by
  cases h with
  | operand bare => exact .operand bare.plain
  | condition logic => exact .condition logic.plain

end Nested

theorem Condition.depth_negations (c : Condition) (n : Nat) :
    (negation^[n] c).depth = c.depth + n := by
  induction n with
  | zero => rfl
  | succ n ih => rw [Function.iterate_succ_apply', depth, ih, Nat.add_assoc]

namespace Region

/-- The parser negates as often as negations wait. -/
theorem negate_eq (c : Condition) (n : Nat) : negate c n = Condition.negation^[n] c := by
  induction n with
  | zero => rfl
  | succ n ih => rw [Function.iterate_succ_apply', negate, ih]

theorem depth_negate (c : Condition) (n : Nat) : (negate c n).depth = c.depth + n := by
  rw [negate_eq, Condition.depth_negations]

end Region

namespace Grammar

@[simp] theorem length_nots (n : Nat) : (nots n).length = n := by simp [nots]

@[simp] theorem length_bracketed (ts : List Token) : (bracketed ts).length = ts.length + 2 := by
  simp [bracketed]

theorem Elements.ne_nil {ts : List Token} {xs : List Operand} (h : Elements ts xs) : xs ≠ [] := by
  cases h <;> simp

theorem Bare.length_pos {ts : List Token} {x : Operand} (h : Bare ts x) : 0 < ts.length := by
  cases h <;> simp

theorem Bare.nested {ts : List Token} {x : Operand} (h : Bare ts x) {limit level : Nat}
    (room : level + ts.length ≤ limit + 1) : Nested.Bare limit level ts x := by
  induction h generalizing level with
  | value h => exact .value h
  | group _ ih =>
    simp only [length_bracketed] at room
    exact .group (by omega) (ih (by omega))

theorem Right.nested {ts : List Token} {x : Operand} (h : Right ts x) {limit level : Nat}
    (room : level + ts.length ≤ limit + 1) : Nested.Right limit level ts x := by
  cases h with
  | value h => exact .value h
  | empty =>
    simp only [length_bracketed] at room
    exact .empty (by omega)
  | list elements =>
    simp only [length_bracketed] at room
    exact .list (by omega) elements

theorem Phrase.nested {s : Symbol} {ts : List Token} {c : Condition} (h : Phrase s ts c)
    {limit d : Nat} (room : d + ts.length ≤ limit) : Nested.Phrase limit d s ts c := by
  induction h generalizing d with
  | group n _ ih =>
    simp only [List.length_append, length_nots, length_bracketed] at room
    exact .group n (by omega) (ih (by omega))
  | comparison n m left right legal =>
    simp only [List.length_append, List.length_cons, length_nots] at room
    have := left.length_pos
    exact .comparison n m (by omega) (left.nested (by omega)) (right.nested (by omega)) legal
  | single _ ih => exact .single (ih room)
  | join _ _ left right =>
    simp only [List.length_append, List.length_cons] at room
    exact .join (left (by omega)) (right (by omega))

/-- Each level of a tree takes a token. -/
theorem Phrase.depth_le {s : Symbol} {ts : List Token} {c : Condition} (h : Phrase s ts c) :
    c.depth ≤ ts.length := by
  induction h with
  | group n _ ih =>
    simp only [Condition.depth_negations, List.length_append, length_nots, length_bracketed]
    omega
  | comparison n m left _ _ =>
    have := left.length_pos
    simp only [Condition.depth_negations, Condition.depth, List.length_append, List.length_cons,
      length_nots]
    omega
  | single _ ih => exact ih
  | join _ _ left right =>
    simp only [Condition.depth, List.length_append, List.length_cons]
    omega

end Grammar
end RecordFilter
