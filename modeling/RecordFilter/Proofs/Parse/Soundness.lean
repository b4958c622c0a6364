import RecordFilter.Proofs.Parse.Region

namespace RecordFilter

open Grammar (nots bracketed Elements)

variable {options : ParseOptions} {limit d : Nat}

namespace Region

/-- The tokens in front of the unit in progress. -/
inductive Before (limit d : Nat) : List Token → Pending → Prop where
  | nothing : Before limit d [] .nothing
  | joining {ts : List Token} {c : Condition} {op : Connective} {offset : Nat}
      (left : Nested.Phrase limit d .logic ts c) :
      Before limit d (ts ++ [.connective op]) (.joining c c.depth op offset)

/-- The tokens up to a comparator, with as many negations as given. -/
inductive LeftSide (limit d : Nat) : Nat → List Token → Operand → Prop where
  | mk {ts : List Token} {x : Operand} (n m : Nat) (bare : Nested.Bare limit (d + max n 1) ts x) :
      LeftSide limit d (n + m) (nots n ++ ts ++ nots m) x

/-- Two values side by side, or a value or a negation behind a folded condition: no further token
leads out of these. -/
inductive Stuck (d : Nat) : Region → Prop where
  | second {p : Pending} {x y : Operand} {o q : Nat} {ns : List Nat} :
      Stuck d ⟨d, p, .left x o, ns, some (y, q)⟩
  | unjoined {k q : Nat} {c : Condition} {y : Operand} {ns : List Nat} :
      Stuck d ⟨d, .folded c k, .nothing, ns, some (y, q)⟩
  | misplaced {k n : Nat} {c : Condition} {ns : List Nat} :
      Stuck d ⟨d, .folded c k, .nothing, n :: ns, none⟩

/-- The tokens that lead to a region. -/
inductive Traced (options : ParseOptions) (d : Nat) : List Token → Region → Prop where
  | folded {ts : List Token} {c : Condition} (within : d ≤ options.maxDepth)
      (logic : Nested.Phrase options.maxDepth d .logic ts c)
      (depth : c.depth ≤ options.maxExpressionDepth) :
      Traced options d ts ⟨d, .folded c c.depth, .nothing, [], none⟩
  | negated {bs : List Token} {p : Pending} {ns : List Nat}
      (within : d + ns.length ≤ options.maxDepth) (before : Before options.maxDepth d bs p) :
      Traced options d (bs ++ nots ns.length) ⟨d, p, .nothing, ns, none⟩
  | value {q : Nat} {bs ts : List Token} {p : Pending} {ns : List Nat} {x : Operand}
      (within : d + ns.length ≤ options.maxDepth) (before : Before options.maxDepth d bs p)
      (left : LeftSide options.maxDepth d ns.length ts x) :
      Traced options d (bs ++ ts) ⟨d, p, .nothing, ns, some (x, q)⟩
  | compared {o : Nat} {bs ts : List Token} {p : Pending} {ns : List Nat} {x : Operand}
      {op : Comparator} (within : d + ns.length ≤ options.maxDepth)
      (before : Before options.maxDepth d bs p)
      (left : LeftSide options.maxDepth d ns.length ts x) :
      Traced options d (bs ++ (ts ++ [.comparator op])) ⟨d, p, .compared x op o, ns, none⟩
  | complete {o q : Nat} {bs ts us : List Token} {p : Pending} {ns : List Nat} {x y : Operand}
      {op : Comparator} (within : d + ns.length ≤ options.maxDepth)
      (before : Before options.maxDepth d bs p)
      (left : LeftSide options.maxDepth d ns.length ts x)
      (right : Nested.Right options.maxDepth (d + ns.length + 1) us y) :
      Traced options d (bs ++ (ts ++ .comparator op :: us))
        ⟨d, p, .compared x op o, ns, some (y, q)⟩
  | stuck {ts : List Token} {r : Region} (stuck : Stuck d r) : Traced options d ts r

/-- The tokens that lead to a region that has been flushed. -/
inductive Flushed (options : ParseOptions) (d : Nat) : List Token → Region → Prop where
  | folded {ts : List Token} {c : Condition} (within : d ≤ options.maxDepth)
      (logic : Nested.Phrase options.maxDepth d .logic ts c)
      (depth : c.depth ≤ options.maxExpressionDepth) :
      Flushed options d ts ⟨d, .folded c c.depth, .nothing, [], none⟩
  | negated {bs : List Token} {p : Pending} {ns : List Nat}
      (within : d + ns.length ≤ options.maxDepth) (before : Before options.maxDepth d bs p) :
      Flushed options d (bs ++ nots ns.length) ⟨d, p, .nothing, ns, none⟩
  | left {q : Nat} {bs ts : List Token} {p : Pending} {ns : List Nat} {x : Operand}
      (within : d + ns.length ≤ options.maxDepth) (before : Before options.maxDepth d bs p)
      (left : LeftSide options.maxDepth d ns.length ts x) :
      Flushed options d (bs ++ ts) ⟨d, p, .left x q, ns, none⟩
  | compared {o : Nat} {bs ts : List Token} {p : Pending} {ns : List Nat} {x : Operand}
      {op : Comparator} (within : d + ns.length ≤ options.maxDepth)
      (before : Before options.maxDepth d bs p)
      (left : LeftSide options.maxDepth d ns.length ts x) :
      Flushed options d (bs ++ (ts ++ [.comparator op])) ⟨d, p, .compared x op o, ns, none⟩
  | misplaced {k n : Nat} {ts : List Token} {c : Condition} {ns : List Nat} :
      Flushed options d ts ⟨d, .folded c k, .nothing, n :: ns, none⟩

/-- A region that has folded a phrase. -/
def Folded (options : ParseOptions) (d : Nat) (ts : List Token) (r : Region) : Prop :=
  ∃ c, r = ⟨d, .folded c c.depth, .nothing, [], none⟩ ∧
    Nested.Phrase options.maxDepth d .logic ts c ∧ c.depth ≤ options.maxExpressionDepth

/-- A unit behind what is pending folds with it to a phrase. -/
theorem fold_before {bs us : List Token} {p : Pending} {c : Condition} {ns : List Nat}
    {offset : Nat} {r : Region} (before : Before options.maxDepth d bs p)
    (unit : Nested.Phrase options.maxDepth d .unit us (Condition.negation^[ns.length] c))
    (h : fold options ⟨d, p, .nothing, ns, none⟩ c c.depth offset = .ok r) :
    Folded options d (bs ++ us) r := by
  rw [← negate_eq] at unit
  have depth : (negate c ns.length).depth = c.depth + ns.length := depth_negate c ns.length
  cases before with
  | nothing =>
    simp only [fold] at h
    split at h
    · cases h
    · next room =>
      injection h with h
      rw [← depth] at room h
      exact ⟨_, h.symm, .single unit, Nat.not_lt.mp room⟩
  | joining left =>
    simp only [fold] at h
    split at h
    · cases h
    · split at h
      · cases h
      · next room =>
        injection h with h
        rw [← depth] at room h
        rw [List.append_assoc, List.singleton_append]
        exact ⟨_, h.symm, .join left unit, Nat.not_lt.mp room⟩

theorem flush_complete {o q : Nat} {bs ts us : List Token} {p : Pending} {ns : List Nat}
    {x y : Operand} {op : Comparator} {r : Region} (within : d + ns.length ≤ options.maxDepth)
    (before : Before options.maxDepth d bs p) (left : LeftSide options.maxDepth d ns.length ts x)
    (right : Nested.Right options.maxDepth (d + ns.length + 1) us y)
    (h : flush options ⟨d, p, .compared x op o, ns, some (y, q)⟩ = .ok r) :
    Folded options d (bs ++ (ts ++ .comparator op :: us)) r := by
  simp only [flush, commit] at h
  cases made : Comparison.make x op y with
  | error fault => simp [made] at h
  | ok c =>
    simp only [made] at h
    have unit : Nested.Phrase options.maxDepth d .unit (ts ++ .comparator op :: us)
        (Condition.negation^[ns.length] (.comparison c)) := by
      generalize ns.length = k at within left right
      cases left with
      | mk n m bare => exact .comparison n m within bare right made
    exact fold_before before unit h

theorem flush_traced {ts : List Token} {r r' : Region} (traced : Traced options d ts r)
    (h : r.flush options = .ok r') : Flushed options d ts r' := by
  cases traced with
  | folded within logic depth =>
    injection h with h
    exact h ▸ .folded within logic depth
  | negated within before =>
    injection h with h
    exact h ▸ .negated within before
  | value within before left =>
    cases before with
    | nothing =>
      injection h with h
      exact h ▸ .left within .nothing left
    | joining logic =>
      injection h with h
      exact h ▸ .left within (.joining logic) left
  | compared within before left =>
    injection h with h
    exact h ▸ .compared within before left
  | complete within before left right =>
    obtain ⟨c, rfl, logic, depth⟩ := flush_complete within before left right h
    exact .folded (Nat.le_trans (Nat.le_add_right ..) within) logic depth
  | stuck stuck =>
    cases stuck with
    | second => simp [flush, commit] at h
    | unjoined => simp [flush, commit] at h
    | misplaced =>
      injection h with h
      exact h ▸ .misplaced

/-- A value is the next part of its unit, as the tokens of it allow. -/
theorem pushValue_traced {ts us : List Token} {r r' : Region} {x : Operand} {offset : Nat}
    (traced : Traced options d ts r)
    (bare : r.expectsOperand = false → Nested.Bare options.maxDepth r.groupNesting us x)
    (right : r.expectsOperand = true → Nested.Right options.maxDepth (r.nesting + 1) us x)
    (h : r.pushValue options x offset = .ok r') : Traced options d (ts ++ us) r' := by
  obtain ⟨r₁, flushed, h⟩ := bind_eq_ok.mp h
  injection h with h
  subst h
  cases traced with
  | folded =>
    injection flushed with flushed
    exact flushed ▸ .stuck .unjoined
  | @negated bs p ns within before =>
    injection flushed with flushed
    subst flushed
    have left := LeftSide.mk ns.length 0 (bare rfl)
    rw [Nat.add_zero] at left
    simpa [nots] using Traced.value within before left
  | value within before left =>
    cases before <;>
    · injection flushed with flushed
      exact flushed ▸ .stuck .second
  | compared within before left =>
    injection flushed with flushed
    subst flushed
    simpa using Traced.complete within before left (right rfl)
  | complete within before left last =>
    obtain ⟨c, rfl, -, -⟩ := flush_complete within before left last flushed
    exact .stuck .unjoined
  | stuck stuck =>
    cases stuck with
    | second => simp [flush, commit] at flushed
    | unjoined => simp [flush, commit] at flushed
    | misplaced =>
      injection flushed with flushed
      exact flushed ▸ .stuck .unjoined

theorem pushComparator_traced {ts : List Token} {r r' : Region} {op : Comparator} {offset : Nat}
    (traced : Traced options d ts r) (h : r.pushComparator options op offset = .ok r') :
    Traced options d (ts ++ [.comparator op]) r' := by
  obtain ⟨r₁, flushed, h⟩ := bind_eq_ok.mp h
  cases flush_traced traced flushed with
  | @left q bs ts p ns x within before left =>
    cases legal : x.leftFault op with
    | some fault => simp [legal] at h
    | none =>
      simp only [legal] at h
      injection h with h
      rw [List.append_assoc]
      exact h ▸ .compared within before left
  | folded => cases h
  | negated => cases h
  | compared => cases h
  | misplaced => cases h

theorem pushConnective_traced {ts : List Token} {r r' : Region} {op : Connective} {offset : Nat}
    (traced : Traced options d ts r) (h : r.pushConnective options op offset = .ok r') :
    Traced options d (ts ++ [.connective op]) r' := by
  obtain ⟨r₁, flushed, h⟩ := bind_eq_ok.mp h
  cases flush_traced traced flushed with
  | @folded _ c within logic depth =>
    injection h with h
    subst h
    have traced : Traced options d ((ts ++ [.connective op]) ++ nots ([] : List Nat).length)
        ⟨d, .joining c c.depth op offset, .nothing, [], none⟩ := .negated within (.joining logic)
    simpa [nots] using traced
  | @negated bs p ns within before =>
    cases before <;> cases ns <;> cases h
  | left => cases h
  | compared => cases h
  | misplaced => cases h

theorem pushNot_ok {r r' : Region} {offset : Nat}
    (waiting : ∀ x op o, r.progress ≠ .compared x op o)
    (h : r.pushNot options offset = .ok r') :
    r.nesting + 1 ≤ options.maxDepth ∧ r' = { r with negations := r.negations ++ [offset] } := by
  obtain ⟨d, p, progress, ns, held⟩ := r
  cases progress with
  | compared x op o => exact absurd rfl (waiting x op o)
  | _ =>
    simp only [pushNot, Pure.pure, Except.pure, Bind.bind, Except.bind] at h
    split at h
    · cases h
    · next room =>
      injection h with h
      exact ⟨Nat.not_lt.mp room, h.symm⟩

theorem pushNot_traced {ts : List Token} {r r' : Region} {offset : Nat}
    (traced : Traced options d ts r) (h : r.pushNot options offset = .ok r') :
    Traced options d (ts ++ [.not]) r' := by
  cases traced with
  | folded =>
    obtain ⟨-, rfl⟩ := pushNot_ok (by simp) h
    exact .stuck .misplaced
  | @negated bs p ns within before =>
    obtain ⟨room, rfl⟩ := pushNot_ok (by simp) h
    have counted : nots (ns ++ [offset]).length = nots ns.length ++ [.not] := by
      simp [nots, List.replicate_succ']
    have within : d + (ns ++ [offset]).length ≤ options.maxDepth := by
      simpa [nesting, Nat.add_assoc] using room
    rw [List.append_assoc, ← counted]
    exact .negated within before
  | @value q bs ts p ns x within before left =>
    obtain ⟨room, rfl⟩ := pushNot_ok (by simp) h
    have within : d + (ns ++ [offset]).length ≤ options.maxDepth := by
      simpa [nesting, Nat.add_assoc] using room
    have left : LeftSide options.maxDepth d (ns ++ [offset]).length (ts ++ [.not]) x := by
      rw [List.length_append, List.length_singleton]
      generalize ns.length = k at left
      cases left with
      | mk n m bare =>
        have more := LeftSide.mk n (m + 1) bare
        rwa [nots, nots, List.replicate_succ', ← List.append_assoc, ← Nat.add_assoc] at more
    rw [List.append_assoc]
    exact .value within before left
  | compared => cases h
  | complete within before left right =>
    obtain ⟨r₁, flushed, h⟩ := bind_eq_ok.mp h
    obtain ⟨c, rfl, -, -⟩ := flush_complete within before left right flushed
    dsimp only at h
    split at h
    · cases h
    · injection h with h
      exact h ▸ .stuck .misplaced
  | stuck stuck =>
    cases stuck with
    | second =>
      obtain ⟨-, rfl⟩ := pushNot_ok (by simp) h
      exact .stuck .second
    | unjoined =>
      obtain ⟨-, rfl⟩ := pushNot_ok (by simp) h
      exact .stuck .unjoined
    | misplaced =>
      obtain ⟨-, rfl⟩ := pushNot_ok (by simp) h
      exact .stuck .misplaced

theorem pushCondition_traced {ts us : List Token} {r r' : Region} {c : Condition} {offset : Nat}
    (traced : Traced options d ts r) (within : r.groupNesting ≤ options.maxDepth)
    (inner : Nested.Phrase options.maxDepth r.groupNesting .logic us c)
    (h : r.pushCondition options c offset = .ok r') :
    Traced options d (ts ++ bracketed us) r' := by
  obtain ⟨r₁, flushed, h⟩ := bind_eq_ok.mp h
  cases traced with
  | folded =>
    injection flushed with flushed
    subst flushed
    simp only [fold] at h
    split at h <;> cases h
  | @negated bs p ns _ before =>
    injection flushed with flushed
    subst flushed
    have unit := Nested.Phrase.group ns.length within inner
    obtain ⟨c, rfl, logic, depth⟩ := fold_before before unit h
    rw [List.append_assoc]
    exact .folded (Nat.le_trans (Nat.le_add_right ..) within) logic depth
  | value _ before =>
    cases before <;>
    · injection flushed with flushed
      subst flushed
      cases h
  | compared =>
    injection flushed with flushed
    subst flushed
    cases h
  | complete room before left right =>
    obtain ⟨c, rfl, -, -⟩ := flush_complete room before left right flushed
    simp only [fold] at h
    split at h <;> cases h
  | stuck stuck =>
    cases stuck with
    | second => simp [flush, commit] at flushed
    | unjoined => simp [flush, commit] at flushed
    | misplaced =>
      injection flushed with flushed
      subst flushed
      simp only [fold] at h
      split at h <;> cases h

theorem finish_traced {ts : List Token} {r : Region} {stop : Nat} {e : Expression}
    (traced : Traced options d ts r) (h : r.finish options stop = .ok e) :
    Nested.Derives options.maxDepth d ts e ∧ e.depth ≤ options.maxExpressionDepth := by
  obtain ⟨r₁, flushed, h⟩ := bind_eq_ok.mp h
  cases flush_traced traced flushed with
  | folded within logic depth =>
    injection h with h
    exact h ▸ ⟨.condition logic, depth⟩
  | @left q bs ts p ns x within before left =>
    cases before with
    | joining => cases h
    | nothing =>
      cases ns with
      | cons => cases h
      | nil =>
        injection h with h
        subst h
        generalize hk : [].length = k at left
        cases left with
        | mk n m bare =>
          obtain ⟨rfl, rfl⟩ : n = 0 ∧ m = 0 := by simpa using hk.symm
          refine ⟨.operand ?_, Nat.zero_le _⟩
          simpa [nots] using bare
  | @negated bs p ns within before =>
    cases before <;> cases ns <;> cases h
  | compared => cases h
  | misplaced => cases h

theorem start_traced (within : d ≤ options.maxDepth) : Traced options d [] (start d) := by
  have traced : Traced options d ([] ++ nots ([] : List Nat).length)
      ⟨d, .nothing, .nothing, [], none⟩ := .negated within .nothing
  exact traced

end Region

namespace ParseState

open Region (pushExpression)

/-- The tokens of the regions around, up to the bracket that opened the current one. -/
inductive Around (options : ParseOptions) : Nat → List Token → List OpenRegion → Prop where
  | nil : Around options 0 [] []
  | cons {d id offset : Nat} {bs ts : List Token} {outer : List OpenRegion} {r : Region}
      (around : Around options d bs outer) (traced : r.Traced options d ts)
      (group : r.expectsOperand = false) (within : r.groupNesting ≤ options.maxDepth) :
      Around options r.groupNesting (bs ++ ts ++ [.leftParen]) (⟨id, offset, r⟩ :: outer)

/-- The tokens of a list so far, its elements, and whether an element comes next. -/
inductive ListTraced : List Token → List Operand → Bool → Prop where
  | opened : ListTraced [] [] true
  | element {ts : List Token} {xs : List Operand} (elements : Elements ts xs.reverse) :
      ListTraced ts xs false
  | comma {ts : List Token} {xs : List Operand} (elements : Elements ts xs.reverse) :
      ListTraced (ts ++ [.comma]) xs true

/-- The tokens that lead to a state. -/
inductive Traced (options : ParseOptions) : List Token → ParseState → Prop where
  | region {d : Nat} {bs ts : List Token} {r : Region} {outer : List OpenRegion}
      {brackets : BracketTree} (around : Around options d bs outer)
      (traced : r.Traced options d ts) : Traced options (bs ++ ts) ⟨r, outer, none, brackets⟩
  | list {d : Nat} {bs ts us : List Token} {r : Region} {outer : List OpenRegion}
      {list : OpenList} {brackets : BracketTree} (around : Around options d bs outer)
      (traced : r.Traced options d ts) (expects : r.expectsOperand = true)
      (within : r.nesting + 1 ≤ options.maxDepth)
      (elements : ListTraced us list.elements list.elementExpected) :
      Traced options (bs ++ (ts ++ .leftParen :: us)) ⟨r, outer, some list, brackets⟩

theorem ListTraced.elements {ts : List Token} {xs : List Operand} (h : ListTraced ts xs false) :
    Elements ts xs.reverse := by
  cases h with
  | element elements => exact elements

theorem ListTraced.push {ts : List Token} {xs : List Operand} (h : ListTraced ts xs true)
    {t : Token} {x : Operand} (value : t.operand? = some x) (literal : x.isKey = false) :
    ListTraced (ts ++ [t]) (x :: xs) false := by
  apply ListTraced.element
  rw [List.reverse_cons]
  cases h with
  | opened => exact .single value literal
  | comma elements =>
    rw [List.append_assoc]
    exact .more elements value literal

theorem ListTraced.right {ts : List Token} {xs : List Operand} {expected : Bool} {level : Nat}
    (h : ListTraced ts xs expected) (closes : xs = [] ∨ ¬expected = true) (within : level ≤ limit) :
    Nested.Right limit level (bracketed ts) (.list xs.reverse) := by
  cases h with
  | opened => exact .empty within
  | element elements => exact .list within elements
  | comma elements =>
    obtain rfl : xs = [] := closes.resolve_right (by simp)
    exact absurd rfl elements.ne_nil

theorem step_list_traced {d : Nat} {bs ts us : List Token} {r : Region} {outer : List OpenRegion}
    {list : OpenList} {brackets : BracketTree} {l : Lexeme} {s : ParseState}
    (around : Around options d bs outer) (traced : r.Traced options d ts)
    (expects : r.expectsOperand = true) (within : r.nesting + 1 ≤ options.maxDepth)
    (elements : ListTraced us list.elements list.elementExpected)
    (h : step options ⟨r, outer, some list, brackets⟩ l = .ok s) :
    Traced options (bs ++ (ts ++ .leftParen :: us) ++ [l.token]) s := by
  obtain ⟨t, start, stop⟩ := l
  obtain ⟨id, offset, xs, expected⟩ := list
  have go {vs : List Token} {ys : List Operand} {e : Bool} (h : ListTraced (us ++ vs) ys e) :
      Traced options (bs ++ (ts ++ .leftParen :: us) ++ vs)
        ⟨r, outer, some ⟨id, offset, ys, e⟩, brackets⟩ := by
    rw [List.append_assoc, List.append_assoc, List.cons_append]
    exact .list around traced expects within h
  simp only [step, inList] at h
  split at h
  · cases h
  · cases h
  · next notKey _ =>
    split at h
    · next closing =>
      obtain ⟨rfl, closes⟩ := closing
      obtain ⟨r', pushed, h⟩ := bind_eq_ok.mp h
      injection h with h
      subst h
      have whole := Region.pushValue_traced traced (fun group => by simp [group] at expects)
        (fun _ => elements.right closes within) pushed
      have tokens : bs ++ (ts ++ .leftParen :: us) ++ [.rightParen] =
          bs ++ (ts ++ bracketed us) := by
        simp [bracketed]
      rw [tokens]
      exact .region around whole
    · split at h
      · next due =>
        obtain rfl : expected = true := due
        cases value : t.operand? with
        | none => simp [value] at h
        | some x =>
          simp only [value] at h
          injection h with h
          have literal : x.isKey = false := by
            cases t <;> cases value <;> first | rfl | exact absurd rfl (notKey _)
          exact h ▸ go (elements.push value literal)
      · next done =>
        obtain rfl : expected = false := by simpa using done
        split at h
        · next comma =>
          injection h with h
          subst comma
          exact h ▸ go (.comma elements.elements)
        · cases h

theorem region_traced {d : Nat} {bs us : List Token} {outer : List OpenRegion}
    {brackets : BracketTree} {s : ParseState} {push : Except ParseError Region}
    (around : Around options d bs outer)
    (traced : ∀ r, push = .ok r → r.Traced options d us)
    (h : push.map (fun r => (⟨r, outer, none, brackets⟩ : ParseState)) = .ok s) :
    Traced options (bs ++ us) s := by
  obtain ⟨r, hr, rfl⟩ := map_eq_ok.mp h
  exact .region around (traced r hr)

theorem leftParen_traced {d offset : Nat} {bs ts : List Token} {r : Region}
    {outer : List OpenRegion} {brackets : BracketTree} {s : ParseState}
    (around : Around options d bs outer) (traced : r.Traced options d ts)
    (h : leftParen options ⟨r, outer, none, brackets⟩ offset = .ok s) :
    Traced options (bs ++ (ts ++ [.leftParen])) s := by
  unfold leftParen at h
  cases expects : r.expectsOperand with
  | true =>
    simp only [expects, if_true] at h
    split at h
    · cases h
    · next room =>
      injection h with h
      exact h ▸ .list around traced expects (Nat.not_lt.mp room) .opened
  | false =>
    simp only [expects, Bool.false_eq_true, if_false] at h
    split at h
    · cases h
    · next room =>
      injection h with h
      subst h
      have within := Nat.not_lt.mp room
      rw [← List.append_assoc, ← List.append_nil (bs ++ ts ++ _)]
      exact .region (.cons around traced expects within) (Region.start_traced within)

theorem rightParen_traced {d offset : Nat} {bs ts : List Token} {r : Region}
    {outer : List OpenRegion} {brackets : BracketTree} {s : ParseState}
    (around : Around options d bs outer) (traced : r.Traced options d ts)
    (h : rightParen options ⟨r, outer, none, brackets⟩ offset = .ok s) :
    Traced options (bs ++ (ts ++ [.rightParen])) s := by
  cases around with
  | nil => cases h
  | @cons d' id start bs' ts' outer' r' around' traced' group within =>
    simp only [rightParen] at h
    obtain ⟨e, finished, h⟩ := bind_eq_ok.mp h
    have derived := (Region.finish_traced traced finished).1
    have tokens : bs' ++ ts' ++ [.leftParen] ++ (ts ++ [.rightParen]) =
        bs' ++ (ts' ++ bracketed ts) := by
      simp [bracketed]
    rw [tokens]
    cases derived with
    | condition logic =>
      obtain ⟨r₁, pushed, h⟩ := bind_eq_ok.mp h
      injection h with h
      exact h ▸ .region around' (Region.pushCondition_traced traced' within logic pushed)
    | operand bare =>
      obtain ⟨r₁, pushed, h⟩ := bind_eq_ok.mp h
      injection h with h
      have whole := Region.pushValue_traced traced' (fun _ => .group within bare)
        (fun expects => by simp [group] at expects) pushed
      exact h ▸ .region around' whole

theorem step_region_traced {d : Nat} {bs ts : List Token} {r : Region} {outer : List OpenRegion}
    {brackets : BracketTree} {l : Lexeme} {s : ParseState} (around : Around options d bs outer)
    (traced : r.Traced options d ts) (h : step options ⟨r, outer, none, brackets⟩ l = .ok s) :
    Traced options (bs ++ (ts ++ [l.token])) s := by
  obtain ⟨t, start, stop⟩ := l
  simp only [step] at h
  cases value : t.operand? with
  | some x =>
    rw [inRegion_operand value] at h
    exact region_traced around
      (fun r' => Region.pushValue_traced traced (fun _ => .value value) (fun _ => .value value)) h
  | none =>
    cases t with
    | comparator op => exact region_traced around (fun _ => Region.pushComparator_traced traced) h
    | connective op => exact region_traced around (fun _ => Region.pushConnective_traced traced) h
    | not => exact region_traced around (fun _ => Region.pushNot_traced traced) h
    | leftParen => exact leftParen_traced around traced h
    | rightParen => exact rightParen_traced around traced h
    | comma => cases h
    | _ => cases value

/-- One token more leads to the next state. -/
theorem step_traced {ts : List Token} {s s' : ParseState} {l : Lexeme}
    (traced : Traced options ts s) (h : step options s l = .ok s') :
    Traced options (ts ++ [l.token]) s' := by
  cases traced with
  | region around traced =>
    rw [List.append_assoc]
    exact step_region_traced around traced h
  | list around traced expects within elements =>
    exact step_list_traced around traced expects within elements h

theorem run_traced {ls : List Lexeme} {ts : List Token} {s s' : ParseState}
    (traced : Traced options ts s) (h : ls.foldlM (step options) s = .ok s') :
    Traced options (ts ++ ls.map (·.token)) s' := by
  induction ls generalizing ts s with
  | nil =>
    injection h with h
    simpa [h] using traced
  | cons l ls ih =>
    rw [List.foldlM_cons] at h
    obtain ⟨s₁, stepped, h⟩ := bind_eq_ok.mp h
    simpa using ih (step_traced traced stepped) h

/-- The tokens that have been read lead to the state that has been reached. -/
theorem traced_of_run {ls : List Lexeme} {s : ParseState}
    (h : ls.foldlM (step options) .start = .ok s) : Traced options (ls.map (·.token)) s :=
  run_traced (.region .nil (Region.start_traced (Nat.zero_le _))) h

end ParseState

/-- What is read has a derivation within the limits. -/
theorem derives_of_parseLexemes {ls : List Lexeme} {stop : Nat} {parsed : Parsed}
    (h : parseLexemes options ls stop = .ok parsed) :
    Nested.Derives options.maxDepth 0 (ls.map (·.token)) parsed.expression ∧
      parsed.expression.depth ≤ options.maxExpressionDepth := by
  obtain ⟨s, run, h⟩ := bind_eq_ok.mp h
  obtain ⟨e, finished, h⟩ := bind_eq_ok.mp h
  injection h with h
  subst h
  have traced := ParseState.traced_of_run run
  generalize ls.map (·.token) = ts at traced
  cases traced with
  | list => cases finished
  | region around traced =>
    cases around with
    | cons => cases finished
    | nil => exact Region.finish_traced traced finished

end RecordFilter
