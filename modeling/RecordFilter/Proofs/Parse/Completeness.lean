import RecordFilter.Proofs.Parse.Region

namespace RecordFilter

open Grammar (nots bracketed Elements)

variable {options : ParseOptions}

namespace ParseState

/-- Reading the lexemes leads from one state to another. -/
def Reads (options : ParseOptions) (s : ParseState) (ls : List Lexeme) (s' : ParseState) : Prop :=
  ls.foldlM (step options) s = .ok s'

theorem Reads.nil (s : ParseState) : Reads options s [] s := rfl

theorem Reads.append {s t u : ParseState} {ls ms : List Lexeme} (first : Reads options s ls t)
    (second : Reads options t ms u) : Reads options s (ls ++ ms) u := by
  unfold Reads at *
  rw [List.foldlM_append, first]
  exact second

theorem Reads.cons {s t u : ParseState} {l : Lexeme} {ls : List Lexeme}
    (first : step options s l = .ok t) (second : Reads options t ls u) :
    Reads options s (l :: ls) u := by
  unfold Reads at *
  rw [List.foldlM_cons, first]
  exact second

theorem Reads.single {s t : ParseState} {l : Lexeme} (h : step options s l = .ok t) :
    Reads options s [l] t :=
  .cons h (.nil t)

end ParseState

namespace Region

open ParseState (Reads)

/-- Reading the lexemes turns a region into another, whatever stands around it. Only the brackets
change beside it. -/
def Leaves (options : ParseOptions) (r : Region) (ls : List Lexeme) (r' : Region) : Prop :=
  ∀ outer brackets, ∃ brackets',
    Reads options ⟨r, outer, none, brackets⟩ ls ⟨r', outer, none, brackets'⟩

theorem Leaves.nil (r : Region) : Leaves options r [] r :=
  fun _ brackets => ⟨brackets, .nil _⟩

theorem Leaves.append {r r' r'' : Region} {ls ms : List Lexeme} (first : Leaves options r ls r')
    (second : Leaves options r' ms r'') : Leaves options r (ls ++ ms) r'' := by
  intro outer brackets
  obtain ⟨b, hb⟩ := first outer brackets
  obtain ⟨b', hb'⟩ := second outer b
  exact ⟨b', hb.append hb'⟩

/-- A token that is pushed on its region leaves what the push gives. -/
theorem leaves_push {r r' : Region} {l : Lexeme} {push : Except ParseError Region}
    (step : ∀ outer brackets, ParseState.step options ⟨r, outer, none, brackets⟩ l =
      push.map fun region => ⟨region, outer, none, brackets⟩)
    (h : push = .ok r') : Leaves options r [l] r' := by
  intro outer brackets
  refine ⟨brackets, .single ?_⟩
  rw [step, h]
  rfl

theorem leaves_operand {r r' : Region} {l : Lexeme} {x : Operand} (h : l.token.operand? = some x)
    (push : r.pushValue options x l.start = .ok r') : Leaves options r [l] r' :=
  leaves_push (fun _ _ => by simp only [ParseState.step, ParseState.inRegion_operand h]) push

theorem leaves_comparator {r r' : Region} {l : Lexeme} {op : Comparator}
    (h : l.token = .comparator op) (push : r.pushComparator options op l.start = .ok r') :
    Leaves options r [l] r' :=
  leaves_push (fun _ _ => by simp only [ParseState.step, ParseState.inRegion, h]) push

theorem leaves_connective {r r' : Region} {l : Lexeme} {op : Connective}
    (h : l.token = .connective op) (push : r.pushConnective options op l.start = .ok r') :
    Leaves options r [l] r' :=
  leaves_push (fun _ _ => by simp only [ParseState.step, ParseState.inRegion, h]) push

theorem leaves_not {r r' : Region} {l : Lexeme} (h : l.token = .not)
    (push : r.pushNot options l.start = .ok r') : Leaves options r [l] r' :=
  leaves_push (fun _ _ => by simp only [ParseState.step, ParseState.inRegion, h]) push

theorem leaves_group {r r' inner : Region} {l m : Lexeme} {ls : List Lexeme} {e : Expression}
    (hl : l.token = .leftParen) (hm : m.token = .rightParen) (group : r.expectsOperand = false)
    (within : r.groupNesting ≤ options.maxDepth)
    (reads : Leaves options (start r.groupNesting) ls inner)
    (finish : inner.finish options m.start = .ok e)
    (push : r.pushExpression options e l.start = .ok r') :
    Leaves options r (l :: (ls ++ [m])) r' := by
  intro outer brackets
  let id := brackets.size
  let opened := brackets.push .group (outer.head?.map (·.bracket)) l.start
  obtain ⟨b, hb⟩ := reads (⟨id, l.start, r⟩ :: outer) opened
  refine ⟨b.close id m.start, .cons ?_ (hb.append (.single ?_))⟩
  · simp only [ParseState.step, ParseState.inRegion, hl, ParseState.leftParen, group,
      Bool.false_eq_true, if_false, Nat.not_lt.mpr within, ParseState.parent]
    rfl
  · simp only [ParseState.step, ParseState.inRegion, hm, ParseState.rightParen, finish]
    cases e with
    | operand x =>
      simp only [pushExpression] at push
      simp [push, Bind.bind, Except.bind, Pure.pure, Except.pure]
    | condition c =>
      simp only [pushExpression] at push
      simp [push, Bind.bind, Except.bind, Pure.pure, Except.pure]

theorem step_element {r : Region} {outer : List OpenRegion} {brackets : BracketTree}
    {list : OpenList} {l : Lexeme} {x : Operand} (h : l.token.operand? = some x)
    (literal : x.isKey = false) (expected : list.elementExpected = true) :
    ParseState.step options ⟨r, outer, some list, brackets⟩ l =
      .ok ⟨r, outer, some { list with elements := x :: list.elements, elementExpected := false },
        brackets⟩ := by
  obtain ⟨t, start, stop⟩ := l
  cases t <;> simp only [Token.operand?, Option.some.injEq, reduceCtorEq] at h
  all_goals subst h
  all_goals simp [Operand.isKey] at literal
  all_goals simp [ParseState.step, ParseState.inList, expected, Token.operand?]

theorem step_comma {r : Region} {outer : List OpenRegion} {brackets : BracketTree}
    {list : OpenList} {l : Lexeme} (h : l.token = .comma)
    (complete : list.elementExpected = false) :
    ParseState.step options ⟨r, outer, some list, brackets⟩ l =
      .ok ⟨r, outer, some { list with elementExpected := true }, brackets⟩ := by
  simp [ParseState.step, ParseState.inList, h, complete]

theorem reads_elements {ts : List Token} {xs : List Operand} (h : Elements ts xs) (r : Region)
    (outer : List OpenRegion) (brackets : BracketTree) (id offset : Nat) (ls : List Lexeme)
    (hls : ls.map (·.token) = ts) :
    Reads options ⟨r, outer, some ⟨id, offset, [], true⟩, brackets⟩ ls
      ⟨r, outer, some ⟨id, offset, xs.reverse, false⟩, brackets⟩ := by
  induction h generalizing ls with
  | single h literal =>
    obtain ⟨l, rfl, rfl⟩ := List.map_eq_singleton_iff.mp hls
    exact .single (step_element h literal rfl)
  | more _ h literal ih =>
    obtain ⟨ms, rest, rfl, hms, hrest⟩ := List.map_eq_append_iff.mp hls
    obtain ⟨comma, rest', rfl, hcomma, hlast⟩ := List.map_eq_cons_iff.mp hrest
    obtain ⟨last, rfl, rfl⟩ := List.map_eq_singleton_iff.mp hlast
    rw [List.reverse_append]
    exact (ih ms hms).append (.cons (step_comma hcomma rfl) (.single (step_element h literal rfl)))

theorem leaves_list {r r' : Region} {l m : Lexeme} {ls : List Lexeme} {xs : List Operand}
    (hl : l.token = .leftParen) (hm : m.token = .rightParen) (expects : r.expectsOperand = true)
    (within : r.nesting + 1 ≤ options.maxDepth)
    (elements : ls = [] ∧ xs = [] ∨ Elements (ls.map (·.token)) xs)
    (push : r.pushValue options (.list xs) l.start = .ok r') :
    Leaves options r (l :: (ls ++ [m])) r' := by
  intro outer brackets
  let id := brackets.size
  let opened := brackets.push .list (outer.head?.map (·.bracket)) l.start
  have first : ParseState.step options ⟨r, outer, none, brackets⟩ l =
      .ok ⟨r, outer, some ⟨id, l.start, [], true⟩, opened⟩ := by
    simp only [ParseState.step, ParseState.inRegion, hl, ParseState.leftParen, expects, if_true,
      Nat.not_lt.mpr within, if_false, ParseState.parent]
    rfl
  refine ⟨opened.close id m.start, .cons first ?_⟩
  rcases elements with ⟨rfl, rfl⟩ | elements
  · refine .single ?_
    simp [ParseState.step, ParseState.inList, hm, push, Bind.bind, Except.bind, Pure.pure,
      Except.pure]
  · refine (reads_elements elements r outer opened id l.start ls rfl).append (.single ?_)
    simp [ParseState.step, ParseState.inList, hm, push, Bind.bind, Except.bind, Pure.pure,
      Except.pure]

variable (options) in
theorem leaves_negations (n : Nat) {r : Region} (waiting : r.progress = .nothing)
    (within : r.nesting + n ≤ options.maxDepth) (ls : List Lexeme)
    (hls : ls.map (·.token) = nots n) :
    ∃ offsets, offsets.length = n ∧
      Leaves options r ls { r with negations := r.negations ++ offsets } := by
  induction n generalizing r ls with
  | zero =>
    obtain rfl : ls = [] := by simpa [nots] using hls
    exact ⟨[], rfl, by simpa using Leaves.nil r⟩
  | succ n ih =>
    obtain ⟨l, rest, rfl, hl, hrest⟩ := List.map_eq_cons_iff.mp hls
    let r₁ : Region := { r with negations := r.negations ++ [l.start] }
    have push : r.pushNot options l.start = .ok r₁ := pushNot_eq waiting (by omega)
    have room : r₁.nesting + n ≤ options.maxDepth := by
      simp only [nesting, r₁, List.length_append, List.length_singleton] at within ⊢
      omega
    obtain ⟨offsets, hlen, reads⟩ := ih (r := r₁) waiting room rest hrest
    refine ⟨l.start :: offsets, by simp [hlen], ?_⟩
    simpa [r₁] using (leaves_not hl push).append reads

theorem leaves_bare {level : Nat} {ts : List Token} {x : Operand}
    (h : Nested.Bare options.maxDepth level ts x) {r : Region} (waiting : r.progress = .nothing)
    (free : r.held = none) (hlevel : r.groupNesting = level) (ls : List Lexeme)
    (hls : ls.map (·.token) = ts) :
    ∃ offset, Leaves options r ls { r with held := some (x, offset) } := by
  induction h generalizing r ls with
  | value h =>
    obtain ⟨l, rfl, rfl⟩ := List.map_eq_singleton_iff.mp hls
    exact ⟨l.start, leaves_operand h (pushValue_eq free)⟩
  | group within _ ih =>
    obtain ⟨l, rest, rfl, hl, hrest⟩ := List.map_eq_cons_iff.mp hls
    obtain ⟨ms, last, rfl, hms, hlast⟩ := List.map_eq_append_iff.mp hrest
    obtain ⟨m, rfl, hm⟩ := List.map_eq_singleton_iff.mp hlast
    subst hlevel
    obtain ⟨offset, reads⟩ := ih (r := start r.groupNesting) rfl rfl rfl ms hms
    have group : r.expectsOperand = false := by simp [expectsOperand, waiting]
    exact ⟨l.start, leaves_group hl hm group within reads (finish_operand _ _ _ _)
      (pushValue_eq free)⟩

theorem leaves_right {level : Nat} {ts : List Token} {x : Operand}
    (h : Nested.Right options.maxDepth level ts x) {r : Region} (expects : r.expectsOperand = true)
    (hlevel : r.nesting + 1 = level) (ls : List Lexeme) (hls : ls.map (·.token) = ts) :
    ∃ offset, Leaves options r ls { r with held := some (x, offset) } := by
  have free : r.held = none := by
    simp only [expectsOperand, Bool.and_eq_true, Option.isNone_iff_eq_none] at expects
    exact expects.1
  subst hlevel
  cases h with
  | value h =>
    obtain ⟨l, rfl, rfl⟩ := List.map_eq_singleton_iff.mp hls
    exact ⟨l.start, leaves_operand h (pushValue_eq free)⟩
  | empty within =>
    obtain ⟨l, rest, rfl, hl, hrest⟩ := List.map_eq_cons_iff.mp hls
    obtain ⟨m, rfl, hm⟩ := List.map_eq_singleton_iff.mp hrest
    have reads := leaves_list hl hm expects within (.inl ⟨rfl, rfl⟩) (pushValue_eq free)
    exact ⟨l.start, reads⟩
  | list within elements =>
    obtain ⟨l, rest, rfl, hl, hrest⟩ := List.map_eq_cons_iff.mp hls
    obtain ⟨ms, last, rfl, hms, hlast⟩ := List.map_eq_append_iff.mp hrest
    obtain ⟨m, rfl, hm⟩ := List.map_eq_singleton_iff.mp hlast
    subst hms
    exact ⟨l.start, leaves_list hl hm expects within (.inr elements) (pushValue_eq free)⟩

/-- Reading the lexemes behind a pending condition folds a condition, once the region is flushed. -/
def Settles (options : ParseOptions) (d : Nat) (p : Pending) (ls : List Lexeme) (c : Condition) :
    Prop :=
  ∃ r, Leaves options ⟨d, p, .nothing, [], none⟩ ls r ∧
    r.flush options = .ok ⟨d, .folded c c.depth, .nothing, [], none⟩

theorem settles_comparison {d n m : Nat} {xs ys : List Token} {x y : Operand} {op : Comparator}
    {c : Comparison} {p : Pending} (within : d + (n + m) ≤ options.maxDepth)
    (left : Nested.Bare options.maxDepth (d + max n 1) xs x)
    (right : Nested.Right options.maxDepth (d + (n + m) + 1) ys y)
    (legal : Comparison.make x op y = .ok c)
    (receives : p.Receives options.maxExpressionDepth (negate (.comparison c) (n + m)))
    (ls : List Lexeme)
    (hls : ls.map (·.token) = nots n ++ xs ++ nots m ++ .comparator op :: ys) :
    Settles options d p ls (p.extend (negate (.comparison c) (n + m))) := by
  obtain ⟨before, rest, rfl, hbefore, hrest⟩ := List.map_eq_append_iff.mp hls
  obtain ⟨front, ls₄, rfl, hfront, h₄⟩ := List.map_eq_append_iff.mp hbefore
  obtain ⟨ls₁, ls₂, rfl, h₁, h₂⟩ := List.map_eq_append_iff.mp hfront
  obtain ⟨l, ls₅, rfl, hl, h₅⟩ := List.map_eq_cons_iff.mp hrest
  obtain ⟨first, hn, reads₁⟩ := leaves_negations options n (r := ⟨d, p, .nothing, [], none⟩) rfl
    (by simp only [nesting, List.length_nil]; omega) ls₁ h₁
  obtain ⟨offset, reads₂⟩ := leaves_bare left (r := ⟨d, p, .nothing, first, none⟩) rfl rfl
    (by simp only [groupNesting, hn]) ls₂ h₂
  obtain ⟨second, hm, reads₄⟩ := leaves_negations options m
    (r := ⟨d, p, .nothing, first, some (x, offset)⟩) rfl
    (by simp only [nesting, hn]; omega) ls₄ h₄
  have unfolded : ∀ a k, p ≠ .folded a k := by
    rintro a k rfl
    exact receives.2
  have compare : Leaves options ⟨d, p, .nothing, first ++ second, some (x, offset)⟩ [l]
      ⟨d, p, .compared x op l.start, first ++ second, none⟩ :=
    leaves_comparator hl (pushComparator_eq unfolded (Comparison.leftFault_of_make legal))
  obtain ⟨place, reads₅⟩ := leaves_right right
    (r := ⟨d, p, .compared x op l.start, first ++ second, none⟩) rfl
    (by simp only [nesting, List.length_append, hn, hm]) ls₅ h₅
  have count : (first ++ second).length = n + m := by rw [List.length_append, hn, hm]
  refine ⟨_, ((reads₁.append reads₂).append reads₄).append (compare.append reads₅), ?_⟩
  rw [← count] at receives ⊢
  exact flush_compared legal receives

theorem settles_group {d n : Nat} {c : Condition} {p : Pending} {l m : Lexeme}
    {ls ms : List Lexeme} (within : d + max n 1 ≤ options.maxDepth)
    (receives : p.Receives options.maxExpressionDepth (negate c n))
    (hls : ls.map (·.token) = nots n) (hl : l.token = .leftParen) (hm : m.token = .rightParen)
    (inner : Settles options (d + max n 1) .nothing ms c) :
    Settles options d p (ls ++ l :: (ms ++ [m])) (p.extend (negate c n)) := by
  obtain ⟨r, reads, settled⟩ := inner
  obtain ⟨offsets, hn, front⟩ := leaves_negations options n (r := ⟨d, p, .nothing, [], none⟩) rfl
    (by simp only [nesting, List.length_nil]; omega) ls hls
  subst hn
  have push : pushExpression options ⟨d, p, .nothing, offsets, none⟩ (.condition c) l.start =
      .ok ⟨d, .folded (p.extend (negate c offsets.length))
        (p.extend (negate c offsets.length)).depth, .nothing, [], none⟩ := by
    simp only [pushExpression, pushCondition, flush_none, Bind.bind, Except.bind]
    exact fold_eq receives
  have group := leaves_group (r := ⟨d, p, .nothing, offsets, none⟩) hl hm rfl within reads
    (finish_condition settled) push
  exact ⟨_, front.append group, flush_none rfl⟩

/-- A phrase within the limits is read behind whatever can receive it. -/
theorem settles_phrase {d : Nat} {s : Symbol} {ts : List Token} {c : Condition}
    (h : Nested.Phrase options.maxDepth d s ts c) {p : Pending} (hp : s = .logic → p = .nothing)
    (receives : p.Receives options.maxExpressionDepth c) (ls : List Lexeme)
    (hls : ls.map (·.token) = ts) : Settles options d p ls (p.extend c) := by
  induction h generalizing p ls with
  | @group d ts c n within _ ih =>
    obtain ⟨ns, rest, rfl, hns, hrest⟩ := List.map_eq_append_iff.mp hls
    obtain ⟨l, rest', rfl, hl, hrest'⟩ := List.map_eq_cons_iff.mp hrest
    obtain ⟨ms, last, rfl, hms, hlast⟩ := List.map_eq_append_iff.mp hrest'
    obtain ⟨m, rfl, hm⟩ := List.map_eq_singleton_iff.mp hlast
    rw [← negate_eq] at receives ⊢
    have depth : c.depth ≤ (p.extend (negate c n)).depth := by
      cases p <;> simp only [Pending.extend, Condition.depth, depth_negate] <;> omega
    have inner := ih (p := .nothing) (fun _ => rfl) ⟨Nat.le_trans depth receives.1, trivial⟩ ms hms
    exact settles_group within receives hns hl hm inner
  | comparison n m within left right legal =>
    rw [← negate_eq] at receives ⊢
    exact settles_comparison within left right legal receives ls hls
  | single _ ih => exact ih (by simp) receives ls hls
  | @join d ts us a b op _ _ left right =>
    obtain rfl := hp rfl
    obtain ⟨ls₁, rest, rfl, h₁, hrest⟩ := List.map_eq_append_iff.mp hls
    obtain ⟨l, ls₂, rfl, hl, h₂⟩ := List.map_eq_cons_iff.mp hrest
    have whole : (Condition.join a op b).depth ≤ options.maxExpressionDepth := receives.1
    have part : a.depth ≤ options.maxExpressionDepth := by
      simp only [Condition.depth] at whole
      omega
    obtain ⟨r₁, reads₁, settled₁⟩ := left (fun _ => rfl) ⟨part, trivial⟩ ls₁ h₁
    obtain ⟨r₂, reads₂, settled₂⟩ := right (p := .joining a a.depth op l.start)
      (by simp) ⟨whole, rfl⟩ ls₂ h₂
    have connect := leaves_connective hl (pushConnective_eq settled₁)
    exact ⟨r₂, reads₁.append (connect.append reads₂), settled₂⟩

end Region

theorem parseLexemes_of_derives {ls : List Lexeme} {e : Expression} (stop : Nat)
    (h : Nested.Derives options.maxDepth 0 (ls.map (·.token)) e)
    (depth : e.depth ≤ options.maxExpressionDepth) :
    (parseLexemes options ls stop).map (·.expression) = .ok e := by
  have read {r : Region} (leaves : Region.Leaves options (.start 0) ls r)
      (finish : r.finish options stop = .ok e) :
      (parseLexemes options ls stop).map (·.expression) = .ok e := by
    obtain ⟨brackets, reads⟩ := leaves [] .empty
    have reads : ls.foldlM (ParseState.step options) .start = .ok ⟨r, [], none, brackets⟩ := reads
    simp [parseLexemes, reads, ParseState.finish, finish, Bind.bind, Except.bind, Pure.pure,
      Except.pure, Except.map]
  cases h with
  | operand bare =>
    obtain ⟨offset, leaves⟩ := Region.leaves_bare bare (r := .start 0) rfl rfl rfl ls rfl
    exact read leaves (Region.finish_operand _ _ _ _)
  | condition logic =>
    obtain ⟨r, leaves, settled⟩ := Region.settles_phrase logic (p := .nothing) (fun _ => rfl)
      ⟨depth, trivial⟩ ls rfl
    exact read leaves (Region.finish_condition settled)

end RecordFilter
