import RecordFilter.Proofs.Draft.Basic
import RecordFilter.Proofs.Parse.RoundTrip

namespace RecordFilter

open Grammar (nots Elements)

variable {limit d : Nat}

namespace Comparison

theorem faults_of_legal (c : Comparison) :
    c.left.leftFault c.op = none ∧ c.right.rightFault c.op = none := by
  have legal := c.legal
  unfold assess at legal
  split at legal
  · cases legal
  · cases legal
  · next left right => exact ⟨left, right⟩

theorem make_eq (c : Comparison) : make c.left c.op c.right = .ok c := by
  unfold make
  split
  · next matcher legal =>
    congr 1
    exact (eq_iff _ c).mpr ⟨rfl, rfl, rfl⟩
  · next fault illegal =>
    rw [c.legal] at illegal
    cases illegal

theorem left_plain (c : Comparison) : c.left.isList = false ∧ c.left ≠ .placeholder := by
  have legal := c.faults_of_legal.1
  cases shape : c.left with
  | list items => simp [shape, Operand.leftFault] at legal
  | placeholder => simp [shape, Operand.leftFault] at legal
  | _ => exact ⟨rfl, by simp⟩

theorem right_elements (c : Comparison) {items : List Operand} (h : c.right = .list items) :
    ∀ x ∈ items, x.isKey = false ∧ x.isList = false := by
  have legal := c.faults_of_legal.2
  rw [h, Operand.rightFault] at legal
  split at legal
  · intro x member
    have fault := List.findSome?_eq_none_iff.mp legal x member
    cases x <;> simp_all [Operand.elementFault, Operand.isKey, Operand.isList]
  · cases legal

end Comparison

namespace Grammar

theorem Elements.tokens_eq {ts : List Token} {xs : List Operand} (h : Elements ts xs) :
    ts = Operand.tokensOfItems xs := by
  induction h with
  | single value => exact (Operand.tokens_of_operand? value).symm
  | more others value _ ih =>
    rw [Operand.tokensOfItems_concat others.ne_nil, Operand.tokens_of_operand? value, ih]

theorem elements_tokensOfItems {xs : List Operand} (nonempty : xs ≠ [])
    (flat : ∀ x ∈ xs, x.isKey = false ∧ x.isList = false) :
    Elements (Operand.tokensOfItems xs) xs := by
  induction xs using List.reverseRecOn with
  | nil => exact absurd rfl nonempty
  | append_singleton xs x ih =>
    obtain ⟨literal, single⟩ := flat x (by simp)
    obtain ⟨t, value⟩ := Operand.exists_token single
    have token := Operand.tokens_of_operand? value
    by_cases first : xs = []
    · subst first
      rw [List.nil_append, Operand.tokensOfItems, token]
      exact .single value literal
    · have others := ih first fun y hy => flat y (by simp [hy])
      rw [Operand.tokensOfItems_concat first, token]
      exact .more others value literal

theorem Right.tokens_eq {ts : List Token} {x : Operand} (h : Right ts x) : ts = x.tokens := by
  cases h with
  | value h => exact (Operand.tokens_of_operand? h).symm
  | empty => rfl
  | list elements => rw [Operand.tokens, elements.tokens_eq]

/-- A comparator between these tokens belongs to a legal comparison. -/
def Stands (before : List Token) (op : Comparator) (behind : List Token) : Prop :=
  ∃ front ls m back x y c, before = front ++ ls ++ nots m ∧ behind = Operand.tokens y ++ back ∧
    Bare ls x ∧ Comparison.make x op y = .ok c

theorem Stands.within {before behind : List Token} {op : Comparator} (h : Stands before op behind)
    (us vs : List Token) : Stands (us ++ before) op (behind ++ vs) := by
  obtain ⟨front, ls, m, back, x, y, c, rfl, rfl, bare, legal⟩ := h
  exact ⟨us ++ front, ls, m, back ++ vs, x, y, c, by simp, by simp, bare, legal⟩

theorem append_eq_split {ts us before behind : List Token} {t : Token}
    (h : ts ++ us = before ++ t :: behind) :
    (∃ back, ts = before ++ t :: back ∧ behind = back ++ us) ∨
      ∃ front, before = ts ++ front ∧ us = front ++ t :: behind := by
  rcases List.append_eq_append_iff.mp h with ⟨front, split, rest⟩ | ⟨back, split, rest⟩
  · exact .inr ⟨front, split, rest⟩
  · cases back with
    | nil => exact .inr ⟨[], by simpa using split.symm, by simpa using rest.symm⟩
    | cons u back =>
      obtain ⟨rfl, rfl⟩ := List.cons_eq_cons.mp (by simpa using rest)
      exact .inl ⟨back, split, rfl⟩

theorem comparator_notMem_nots (op : Comparator) (n : Nat) : .comparator op ∉ nots n := by
  simp [nots, List.mem_replicate]

theorem comparator_ne_of_operand? {t : Token} {x : Operand} (h : t.operand? = some x)
    (op : Comparator) : .comparator op ≠ t := by
  rintro rfl
  cases h

theorem Bare.comparator_notMem {ts : List Token} {x : Operand} (h : Bare ts x) (op : Comparator) :
    .comparator op ∉ ts := by
  induction h with
  | value h => simpa using comparator_ne_of_operand? h op
  | group _ ih => simpa [bracketed] using ih

theorem Elements.comparator_notMem {ts : List Token} {xs : List Operand} (h : Elements ts xs)
    (op : Comparator) : .comparator op ∉ ts := by
  induction h with
  | single h => simpa using comparator_ne_of_operand? h op
  | more _ h _ ih => simpa [ih] using comparator_ne_of_operand? h op

theorem Right.comparator_notMem {ts : List Token} {x : Operand} (h : Right ts x)
    (op : Comparator) : .comparator op ∉ ts := by
  cases h with
  | value h => simpa using comparator_ne_of_operand? h op
  | empty => simp [bracketed]
  | list elements =>
    simpa [bracketed] using elements.comparator_notMem op

/-- Every comparator of a phrase belongs to a legal comparison. -/
theorem Phrase.stands {s : Symbol} {ts before behind : List Token} {c : Condition}
    {op : Comparator} (h : Phrase s ts c) (split : ts = before ++ .comparator op :: behind) :
    Stands before op behind := by
  induction h generalizing before behind with
  | @group ts c n _ ih =>
    rcases append_eq_split split with ⟨back, inside, -⟩ | ⟨front, rfl, inside⟩
    · exact absurd (by simp [inside]) (comparator_notMem_nots op n)
    · cases front with
      | nil => cases inside
      | cons t front =>
        obtain ⟨rfl, rest⟩ := List.cons_eq_cons.mp inside
        rcases append_eq_split rest with ⟨back, inner, rfl⟩ | ⟨last, rfl, outside⟩
        · have stands := (ih inner).within (nots n ++ [.leftParen]) [.rightParen]
          simpa using stands
        · cases last <;> simp at outside
  | @comparison ls rs x y op' c n m left right legal =>
    rcases append_eq_split split with ⟨back, inside, -⟩ | ⟨front, rfl, inside⟩
    · have member : .comparator op ∈ nots n ++ ls ++ nots m := by simp [inside]
      simp [comparator_notMem_nots, left.comparator_notMem op] at member
    · cases front with
      | nil =>
        obtain ⟨same, rfl⟩ := List.cons_eq_cons.mp inside
        cases same
        exact ⟨nots n, ls, m, [], x, y, c, by simp, by simp [right.tokens_eq], left, legal⟩
      | cons t front =>
        obtain ⟨-, inside⟩ := List.cons_eq_cons.mp inside
        exact absurd (by simp [inside]) (right.comparator_notMem op)
  | single _ ih => exact ih split
  | @join ts us a b op' _ _ left right =>
    rcases append_eq_split split with ⟨back, inside, rfl⟩ | ⟨front, rfl, inside⟩
    · have stands := (left inside).within [] (.connective op' :: us)
      simpa using stands
    · cases front with
      | nil => cases inside
      | cons t front =>
        obtain ⟨rfl, rest⟩ := List.cons_eq_cons.mp inside
        have stands := (right rest).within (ts ++ [.connective op']) []
        simpa using stands

theorem Derives.stands {ts before behind : List Token} {e : Expression} {op : Comparator}
    (h : Derives ts e) (split : ts = before ++ .comparator op :: behind) :
    Stands before op behind := by
  cases h with
  | operand bare => exact absurd (by simp [split]) (bare.comparator_notMem op)
  | condition logic => exact logic.stands split

theorem Bare.last {front before ls : List Token} {t : Token} {m : Nat} {x y : Operand}
    (h : Bare ls x) (split : before ++ [t] = front ++ ls ++ nots m) (value : t.operand? = some y) :
    x = y := by
  have last := congrArg List.getLast? split
  cases m with
  | succ m =>
    have negated : t = .not := by simpa [nots, List.replicate_succ'] using last
    subst negated
    cases value
  | zero =>
    cases h with
    | @value u x h =>
      have same : t = u := by simpa [nots] using last
      subst same
      exact Option.some.inj (h.symm.trans value)
    | group =>
      have bracket : t = .rightParen := by
        simpa [nots, bracketed, List.getLast?_append, List.getLast?_cons] using last
      subst bracket
      cases value

/-- Tokens are derived as one expression at most. -/
theorem Derives.unique {ts : List Token} {e e' : Expression} (h : Derives ts e)
    (h' : Derives ts e') : e = e' := by
  let ls : List Lexeme := ts.map fun t => ⟨t, 0, 0⟩
  let options : ParseOptions := ⟨ts.length, ts.length⟩
  have tokens : ls.map (·.token) = ts := by simp [ls, Function.comp_def]
  have read {e : Expression} (h : Derives ts e) :
      (parseLexemes options ls 0).map (·.expression) = .ok e :=
    parseLexemes_of_derives 0 (tokens.symm ▸ h.nested (Nat.le_refl _)) h.depth_le
  exact Except.ok.inj ((read h).symm.trans (read h'))

end Grammar

namespace Draft

/-- A draft among tokens in which every comparator belongs to a legal comparison is that of a
condition. -/
theorem exists_condition {d : Draft} (legible : d.Legible) (us vs : List Token)
    (stands : ∀ before op behind, us ++ d.tokens ++ vs = before ++ .comparator op :: behind →
      Grammar.Stands before op behind) : ∃ c : Condition, c.draft = d := by
  induction d generalizing us vs with
  | comparison left op right =>
    obtain ⟨t, value⟩ := Operand.exists_token legible.2.1
    have token := Operand.tokens_of_operand? value
    obtain ⟨front, ls, m, back, x, y, c, before, behind, bare, legal⟩ :=
      stands (us ++ [t]) op (right.tokens ++ vs) (by simp [tokens, token])
    obtain rfl := bare.last before value
    obtain ⟨rfl, -⟩ := Operand.tokens_inj _ _ behind
    obtain ⟨rfl, rfl, rfl⟩ := Comparison.eq_of_make legal
    exact ⟨.comparison c, rfl⟩
  | negation inner ih =>
    obtain ⟨c, rfl⟩ := ih legible (us ++ [.not, .leftParen]) (.rightParen :: vs)
      fun before op behind h => stands before op behind (by simpa [tokens, Grammar.bracketed] using h)
    exact ⟨.negation c, rfl⟩
  | join left op right first second =>
    obtain ⟨a, rfl⟩ := first legible.1 us
      (.connective op ::
        (if right.isJoin then Grammar.bracketed right.tokens else right.tokens) ++ vs)
      fun before op' behind h => stands before op' behind (by simpa [tokens] using h)
    have behind : ∃ us' vs' : List Token, us ++ (join a.draft op right).tokens ++ vs =
        us' ++ right.tokens ++ vs' := by
      cases shape : right.isJoin with
      | true =>
        exact ⟨us ++ a.draft.tokens ++ [.connective op, .leftParen], .rightParen :: vs, by
          simp [tokens, shape, Grammar.bracketed]⟩
      | false => exact ⟨us ++ a.draft.tokens ++ [.connective op], vs, by simp [tokens, shape]⟩
    obtain ⟨us', vs', same⟩ := behind
    obtain ⟨b, rfl⟩ := second legible.2 us' vs'
      fun before op' behind h => stands before op' behind (same.trans h)
    exact ⟨.join a op b, rfl⟩

/-- The nesting of a draft that stands as a unit, with the brackets that it then needs. -/
def unitNesting (d : Draft) : Nat := if d.isJoin then d.nesting + 1 else d.nesting

end Draft

namespace Condition

theorem nesting_negations (c : Condition) (n : Nat) :
    (negation^[n] c).draft.nesting = c.draft.nesting + n := by
  induction n with
  | zero => rfl
  | succ n ih =>
    rw [Function.iterate_succ_apply', draft, Draft.nesting, ih, Nat.add_assoc]

theorem unitNesting_negations {c : Condition} (single : c.isJoin = false) (n : Nat) :
    (negation^[n] c).draft.unitNesting = c.draft.nesting + n := by
  have plain : (negation^[n] c).draft.isJoin = false := by
    rw [isJoin_draft, isJoin_negations single]
  rw [Draft.unitNesting, plain, nesting_negations]
  rfl

/-- The text of a condition nests no deeper than any tokens that it is derived from. -/
theorem nesting_le {s : Symbol} {ts : List Token} {c : Condition}
    (h : Nested.Phrase limit d s ts c) :
    d + c.draft.nesting ≤ limit ∧ (s = .unit → d + c.draft.unitNesting ≤ limit) := by
  induction h with
  | @group d ts c n within _ ih =>
    have inner := ih.1
    cases n with
    | zero =>
      have unit : c.draft.unitNesting ≤ c.draft.nesting + 1 := by
        unfold Draft.unitNesting
        split <;> omega
      rw [Function.iterate_zero_apply]
      omega
    | succ n =>
      have unit : (negation^[n + 1] c).draft.unitNesting = c.draft.nesting + 1 + n :=
        unitNesting_negations rfl n
      rw [unit, nesting_negations]
      omega
  | @comparison d ls rs x y op c n m within _ right legal =>
    obtain ⟨-, -, same⟩ := Comparison.eq_of_make legal
    have list : d + (n + m) + (comparison c).draft.nesting ≤ limit := by
      rw [draft, Draft.nesting, same]
      cases right with
      | value h => simpa [Operand.isList_of_operand? h] using within
      | empty within => exact within
      | list within => exact within
    have unit := unitNesting_negations (show (comparison c).isJoin = false from rfl) (n + m)
    rw [unit, nesting_negations]
    omega
  | single _ ih => exact ⟨ih.1, by simp⟩
  | @join d ts us a b op _ _ left right =>
    have behind := right.2 rfl
    rw [Draft.unitNesting] at behind
    refine ⟨?_, by simp⟩
    rw [draft, Draft.nesting]
    omega

theorem derives_tokens (c : Condition) (room : d + c.draft.nesting ≤ limit) :
    Nested.Phrase limit d .logic c.draft.tokens c := by
  induction c generalizing d with
  | comparison c =>
    obtain ⟨t, value⟩ := Operand.exists_token c.left_plain.1
    have right : Nested.Right limit (d + (0 + 0) + 1) c.right.tokens c.right := by
      cases shape : c.right.isList with
      | false =>
        obtain ⟨u, value⟩ := Operand.exists_token shape
        rw [Operand.tokens_of_operand? value]
        exact .value value
      | true =>
        have within : d + 1 ≤ limit := by simpa [draft, Draft.nesting, shape] using room
        cases list : c.right with
        | list items =>
          by_cases nonempty : items = []
          · subst nonempty
            exact .empty within
          · exact .list within
              (Grammar.elements_tokensOfItems nonempty (c.right_elements list))
        | _ => simp [list, Operand.isList] at shape
    have phrase := Nested.Phrase.comparison (d := d) 0 0 (by omega) (.value value) right c.make_eq
    rw [draft, Draft.tokens, Operand.tokens_of_operand? value]
    exact .single phrase
  | negation inner ih =>
    rw [draft, Draft.nesting] at room
    exact .single (.group (c := inner) 1 (by omega) (ih (by omega)))
  | join left op right first second =>
    rw [draft, Draft.nesting] at room
    have behind : Nested.Phrase limit d .unit
        (if right.draft.isJoin then Grammar.bracketed right.draft.tokens
          else right.draft.tokens) right := by
      cases shape : right.draft.isJoin with
      | true =>
        rw [shape, if_pos rfl] at room
        exact .group (c := right) 0 (by omega) (second (by omega))
      | false =>
        rw [shape, if_neg (by simp)] at room
        exact (second (by omega)).unit (by rw [← isJoin_draft, shape])
    exact .join (first (by omega)) behind

end Condition

namespace Grammar

theorem Elements.legible {ts : List Token} {xs : List Operand} (h : Elements ts xs)
    (legible : ∀ t ∈ ts, t.Legible) : ∀ x ∈ xs, x.Legible := by
  induction h with
  | single value => simpa [Operand.legible_of_operand? value] using legible
  | @more ts xs t x _ value _ ih =>
    intro y member
    rcases List.mem_append.mp member with member | member
    · exact ih (fun u hu => legible u (by simp [hu])) y member
    · obtain rfl := List.mem_singleton.mp member
      exact (Operand.legible_of_operand? value).mpr (legible t (by simp))

theorem Right.legible {ts : List Token} {x : Operand} (h : Right ts x)
    (legible : ∀ t ∈ ts, t.Legible) : x.Legible := by
  cases h with
  | value value => exact (Operand.legible_of_operand? value).mpr (legible _ (by simp))
  | empty => trivial
  | list elements =>
    have items := elements.legible fun t ht => legible t (by simp [bracketed, ht])
    exact Operand.legibleItems_iff.mpr items

theorem Bare.legible {ts : List Token} {x : Operand} (h : Bare ts x)
    (legible : ∀ t ∈ ts, t.Legible) : x.Legible := by
  obtain ⟨t, member, value⟩ := h.value_mem
  exact (Operand.legible_of_operand? value).mpr (legible t member)

theorem legible_negations (c : Condition) (n : Nat) :
    (Condition.negation^[n] c).draft.Legible ↔ c.draft.Legible := by
  induction n with
  | zero => rfl
  | succ n ih =>
    rw [Function.iterate_succ_apply']
    exact ih

theorem Phrase.legible {s : Symbol} {ts : List Token} {c : Condition} (h : Phrase s ts c)
    (legible : ∀ t ∈ ts, t.Legible) : c.draft.Legible := by
  induction h with
  | @group ts c n _ ih =>
    rw [legible_negations]
    exact ih fun t ht => legible t (by simp [bracketed, ht])
  | @comparison ls rs x y op c n m left right made =>
    obtain ⟨rfl, rfl, rfl⟩ := Comparison.eq_of_make made
    rw [legible_negations]
    exact ⟨left.legible fun t ht => legible t (by simp [ht]), c.left_plain.1, c.left_plain.2,
      right.legible fun t ht => legible t (by simp [ht])⟩
  | single _ ih => exact ih legible
  | join _ _ left right =>
    exact ⟨left fun t ht => legible t (by simp [ht]), right fun t ht => legible t (by simp [ht])⟩

end Grammar

theorem Expression.tokens_legible {text : String} {ls : List Lexeme} {stop : Nat}
    (h : tokenize text = .ok (ls, stop)) : ∀ t ∈ ls.map (·.token), t.Legible := by
  intro t ht
  obtain ⟨l, member, rfl⟩ := List.mem_map.mp ht
  exact Reader.legible_of_mem (by rw [tokenize_eq_ok.mp h]; exact member)

/-- A condition that is read is legible, and it stays within the limits of its source. -/
theorem Condition.legible_of_parse {text : String} {options : ParseOptions} {c : Condition}
    (h : Expression.parse text options = .ok (.condition c)) :
    c.draft.Legible ∧ c.draft.nesting ≤ options.maxDepth ∧
      c.depth ≤ options.maxExpressionDepth := by
  obtain ⟨ls, stop, lexed, derived, height⟩ := Expression.parse_eq_ok_iff_nested.mp h
  cases derived with
  | condition logic =>
    have nesting := (nesting_le logic).1
    rw [Nat.zero_add] at nesting
    exact ⟨logic.plain.legible (Expression.tokens_legible lexed), nesting, height⟩

theorem Operand.legible_of_parse {text : String} {options : ParseOptions} {x : Operand}
    (h : Expression.parse text options = .ok (.operand x)) :
    x.Legible ∧ x.isList = false := by
  obtain ⟨ls, stop, lexed, derived, -⟩ := Expression.parse_eq_ok_iff_nested.mp h
  cases derived with
  | operand bare =>
    obtain ⟨t, -, value⟩ := bare.plain.value_mem
    exact ⟨bare.plain.legible (Expression.tokens_legible lexed), isList_of_operand? value⟩

/-- The text of a draft is read within the limits that its nesting and its depth stay in, and as
nothing but the condition that it is a draft of. -/
theorem Draft.parse_text_iff {d : Draft} (legible : d.Legible) {options : ParseOptions}
    {e : Expression} :
    Expression.parse d.text options = .ok e ↔ ∃ c : Condition, e = .condition c ∧ c.draft = d ∧
      d.nesting ≤ options.maxDepth ∧ d.depth ≤ options.maxExpressionDepth := by
  obtain ⟨ls, stop, lexed, tokens⟩ := (Draft.spells_tokens legible).tokenize
  rw [Expression.parse_eq_ok_iff_nested]
  constructor
  · rintro ⟨ls', stop', lexed', derived, height⟩
    obtain ⟨rfl, rfl⟩ : ls = ls' ∧ stop = stop' := by
      simpa using Except.ok.inj (lexed.symm.trans lexed')
    rw [tokens] at derived
    obtain ⟨c, rfl⟩ := exists_condition legible [] []
      fun before op behind h => derived.plain.stands (by simpa using h)
    have own : Grammar.Derives c.draft.tokens (.condition c) :=
      .condition (c.derives_tokens (Nat.le_of_eq (Nat.zero_add c.draft.nesting))).plain
    obtain rfl := derived.plain.unique own
    cases derived with
    | condition logic =>
      have nesting := (Condition.nesting_le logic).1
      rw [Nat.zero_add] at nesting
      exact ⟨c, rfl, rfl, nesting, by simpa [Expression.depth] using height⟩
  · rintro ⟨c, rfl, rfl, nesting, depth⟩
    refine ⟨ls, stop, lexed, ?_, by simpa [Expression.depth] using depth⟩
    rw [tokens]
    exact .condition (c.derives_tokens (by simpa using nesting))

theorem Operand.parse_text_iff {x : Operand} (legible : x.Legible) (options : ParseOptions) :
    Expression.parse x.text options = .ok (.operand x) ↔ x.isList = false := by
  constructor
  · intro h
    exact (legible_of_parse h).2
  · intro single
    obtain ⟨t, value⟩ := exists_token single
    have spelled := x.spells_tokens legible
    rw [tokens_of_operand? value] at spelled
    obtain ⟨ls, stop, lexed, token⟩ := spelled.tokenize
    refine Expression.parse_eq_ok_iff_nested.mpr ⟨ls, stop, lexed, ?_, Nat.zero_le _⟩
    rw [token]
    exact .operand (.value value)

end RecordFilter
