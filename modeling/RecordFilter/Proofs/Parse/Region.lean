import RecordFilter.Proofs.Parse.Grammar

namespace RecordFilter

variable {options : ParseOptions}

def Expression.depth : Expression → Nat
  | operand _ => 0
  | condition c => c.depth

theorem bind_eq_ok {ε α β : Type} {x : Except ε α} {f : α → Except ε β} {b : β} :
    x >>= f = .ok b ↔ ∃ a, x = .ok a ∧ f a = .ok b := by
  cases x with
  | error e => simp [Bind.bind, Except.bind]
  | ok a => simp [Bind.bind, Except.bind]

theorem map_eq_ok {ε α β : Type} {x : Except ε α} {f : α → β} {b : β} :
    x.map f = .ok b ↔ ∃ a, x = .ok a ∧ f a = b := by
  cases x with
  | error e => simp [Except.map]
  | ok a => simp [Except.map]

theorem bind_eq_error {ε α β : Type} {x : Except ε α} {f : α → Except ε β} {e : ε} :
    x >>= f = .error e ↔ x = .error e ∨ ∃ a, x = .ok a ∧ f a = .error e := by
  cases x with
  | error e => simp [Bind.bind, Except.bind]
  | ok a => simp [Bind.bind, Except.bind]

theorem map_eq_error {ε α β : Type} {x : Except ε α} {f : α → β} {e : ε} :
    x.map f = .error e ↔ x = .error e := by
  cases x with
  | error e => simp [Except.map]
  | ok a => simp [Except.map]

theorem Comparison.leftFault_of_make {x y : Operand} {op : Comparator} {c : Comparison}
    (h : make x op y = .ok c) : x.leftFault op = none := by
  unfold make at h
  split at h
  · next legal =>
    unfold assess at legal
    split at legal <;> simp_all
  · cases h

namespace Region

theorem flush_none {r : Region} (h : r.held = none) : r.flush options = .ok r := by
  unfold flush
  rw [h]

end Region

namespace Pending

def extend : Pending → Condition → Condition
  | joining left _ op _, c => .join left op c
  | _, c => c

/-- A condition can be folded, and its tree stays within the limit. -/
def Receives (limit : Nat) (p : Pending) (c : Condition) : Prop :=
  (p.extend c).depth ≤ limit ∧ match p with
    | nothing => True
    | folded .. => False
    | joining left depth .. => depth = left.depth

end Pending

namespace Region

theorem fold_eq {r : Region} {c : Condition} {offset : Nat}
    (h : r.pending.Receives options.maxExpressionDepth (negate c r.negations.length)) :
    r.fold options c c.depth offset =
      .ok { r with
        pending :=
          let joined := r.pending.extend (negate c r.negations.length)
          .folded joined joined.depth
        negations := [] } := by
  obtain ⟨d, p, progress, ns, held⟩ := r
  have inner : (negate c ns.length).depth = c.depth + ns.length := depth_negate c ns.length
  cases p with
  | nothing =>
    have within : c.depth + ns.length ≤ options.maxExpressionDepth := by
      simpa only [Pending.extend, inner] using h.1
    simp [fold, Pending.extend, inner, Nat.not_lt.mpr within]
  | folded => exact h.2.elim
  | joining left depth op opOffset =>
    have same : depth = left.depth := h.2
    subst same
    have within : max left.depth (c.depth + ns.length) + 1 ≤ options.maxExpressionDepth := by
      simpa only [Pending.extend, Condition.depth, inner] using h.1
    have below : c.depth + ns.length ≤ options.maxExpressionDepth := by omega
    simp [fold, Pending.extend, Condition.depth, inner, Nat.not_lt.mpr within,
      Nat.not_lt.mpr below]

def pushExpression (options : ParseOptions) (r : Region) (e : Expression) (offset : Nat) :
    Except ParseError Region :=
  match e with
  | .condition c => r.pushCondition options c offset
  | .operand x => r.pushValue options x offset

def count (options : ParseOptions) (r : Region) (offset : Nat) : Except ParseError Region :=
  if options.maxDepth < r.nesting + 1 then .error ⟨offset, .negationsTooDeep options.maxDepth⟩
  else .ok { r with negations := r.negations ++ [offset] }

theorem pushNot_eq {r : Region} {offset : Nat} (waiting : r.progress = .nothing)
    (within : r.nesting + 1 ≤ options.maxDepth) :
    r.pushNot options offset = .ok { r with negations := r.negations ++ [offset] } := by
  simp [pushNot, waiting, Nat.not_lt.mpr within, Bind.bind, Except.bind, Pure.pure, Except.pure]

theorem pushValue_eq {r : Region} {x : Operand} {offset : Nat} (free : r.held = none) :
    r.pushValue options x offset = .ok { r with held := some (x, offset) } := by
  simp [pushValue, flush_none free, Bind.bind, Except.bind, Pure.pure, Except.pure]

theorem finish_operand (d : Nat) (x : Operand) (offset stop : Nat) :
    finish options ⟨d, .nothing, .nothing, [], some (x, offset)⟩ stop = .ok (.operand x) := by
  rfl

theorem pushComparator_eq {d : Nat} {p : Pending} {ns : List Nat} {x : Operand} {op : Comparator}
    {offset place : Nat} (unfolded : ∀ c n, p ≠ .folded c n) (legal : x.leftFault op = none) :
    pushComparator options ⟨d, p, .nothing, ns, some (x, offset)⟩ op place =
      .ok ⟨d, p, .compared x op place, ns, none⟩ := by
  cases p with
  | folded c n => exact absurd rfl (unfolded c n)
  | nothing =>
    simp [pushComparator, flush, commit, legal, Bind.bind, Except.bind, Pure.pure, Except.pure]
  | joining =>
    simp [pushComparator, flush, commit, legal, Bind.bind, Except.bind, Pure.pure, Except.pure]

theorem flush_compared {d : Nat} {p : Pending} {ns : List Nat} {x y : Operand} {op : Comparator}
    {place offset : Nat} {c : Comparison} (legal : Comparison.make x op y = .ok c)
    (receives : p.Receives options.maxExpressionDepth (negate (.comparison c) ns.length)) :
    flush options ⟨d, p, .compared x op place, ns, some (y, offset)⟩ =
      .ok ⟨d, .folded (p.extend (negate (.comparison c) ns.length))
        (p.extend (negate (.comparison c) ns.length)).depth, .nothing, [], none⟩ := by
  simp only [flush, commit, legal]
  exact fold_eq (r := ⟨d, p, .nothing, ns, none⟩) receives

theorem pushConnective_eq {r : Region} {d n : Nat} {c : Condition} {op : Connective} {offset : Nat}
    (settled : r.flush options = .ok ⟨d, .folded c n, .nothing, [], none⟩) :
    r.pushConnective options op offset = .ok ⟨d, .joining c n op offset, .nothing, [], none⟩ := by
  simp [pushConnective, settled, Bind.bind, Except.bind, Pure.pure, Except.pure]

theorem finish_condition {r : Region} {d n stop : Nat} {c : Condition}
    (settled : r.flush options = .ok ⟨d, .folded c n, .nothing, [], none⟩) :
    r.finish options stop = .ok (.condition c) := by
  simp [finish, settled, Bind.bind, Except.bind, Pure.pure, Except.pure]

end Region

theorem ParseState.inRegion_operand {s : ParseState} {t : Token} {x : Operand} {offset : Nat}
    (h : t.operand? = some x) :
    s.inRegion options t offset =
      (s.region.pushValue options x offset).map fun region => { s with region } := by
  cases t <;> simp only [Token.operand?, Option.some.injEq, reduceCtorEq] at h
  all_goals
    subst h
    rfl

namespace ParseState

/-- A bracket opens a list where the right side of a comparison is expected. -/
theorem leftParen_list {s : ParseState} {offset : Nat} (expects : s.region.expectsOperand = true) :
    s.leftParen options offset =
      if options.maxDepth < s.region.nesting + 1 then
        .error ⟨offset, .nestedTooDeep options.maxDepth⟩
      else .ok { s with
        list := some ⟨s.brackets.size, offset, [], true⟩
        brackets := s.brackets.push .list s.parent offset } := by
  simp [leftParen, expects]

theorem leftParen_group {s : ParseState} {offset : Nat} (group : s.region.expectsOperand = false) :
    s.leftParen options offset =
      if options.maxDepth < s.region.groupNesting then
        .error ⟨offset, .nestedTooDeep options.maxDepth⟩
      else .ok { s with
        region := .start s.region.groupNesting
        outer := ⟨s.brackets.size, offset, s.region⟩ :: s.outer
        brackets := s.brackets.push .group s.parent offset } := by
  simp [leftParen, group]

theorem rightParen_cons {r : Region} {group : OpenRegion} {outer : List OpenRegion}
    {list : Option OpenList} {brackets : BracketTree} {offset : Nat} :
    rightParen options ⟨r, group :: outer, list, brackets⟩ offset = do
      let e ← r.finish options offset
      let region ← group.around.pushExpression options e group.start
      return ⟨region, outer, list, brackets.close group.bracket offset⟩ := by
  simp only [rightParen]
  congr 1
  funext e
  cases e <;> rfl

end ParseState
end RecordFilter
