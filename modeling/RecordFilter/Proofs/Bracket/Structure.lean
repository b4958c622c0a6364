import RecordFilter.Proofs.Binding.Places
import RecordFilter.Proofs.Bracket.Matching
import RecordFilter.Proofs.Parse.Acceptance

namespace RecordFilter

variable {options : ParseOptions}

theorem Reader.lexemes_ordered (r : Reader) : r.lexemes.1.Pairwise (·.start < ·.start) := by
  fun_induction lexemes r with
  | case1 r l r' next shorter ls ending rest ih =>
    refine List.pairwise_cons.mpr ⟨fun l' member => ?_, by rwa [rest] at ih⟩
    have behind := start_of_mem (r := r') (by rw [rest]; exact member)
    have first := next_start next
    omega
  | case2 => exact .nil
  | case3 => exact .nil

/-- One bracket stands around another one: it opens before it and closes behind it. -/
def Bracket.encloses (a b : Bracket) : Bool :=
  decide (a.start < b.start) && a.stop.any fun e => b.stop.any fun e' => e' < e

def BracketTree.encloses (t : BracketTree) (p q : Nat) : Bool :=
  (t.get? p).any fun a => (t.get? q).any a.encloses

/-- The tree tells the brackets among the tokens, which are nested less deep than the limit. -/
structure BracketTree.Describes (t : BracketTree) (limit : Nat) (ls : List Lexeme) : Prop where
  /-- There are as many brackets as tokens that open one. -/
  size_eq : t.size = ls.countP (·.token = .leftParen)
  /-- A bracket is numbered by those that open before it. It closes at the token behind what is
  balanced, and it is a list if a comparator stands in front of it. -/
  matched : ∀ (before : List Lexeme) (l : Lexeme) (rest : List Lexeme),
    ls = before ++ l :: rest → l.token = .leftParen →
    ∃ (b : Bracket) (inner : List Lexeme) (r : Lexeme) (after : List Lexeme),
      t.get? (before.countP (·.token = .leftParen)) = some b ∧
      rest = inner ++ r :: after ∧ Balanced (inner.map (·.token)) ∧ r.token = .rightParen ∧
      b.start = l.start ∧ b.stop = some r.start ∧
      (b.kind = .list ↔ ∃ c op, before.getLast? = some c ∧ c.token = .comparator op)
  ordered : ∀ i j a b, i < j → t.get? i = some a → t.get? j = some b → a.start < b.start
  /-- The parent is the innermost of the brackets around. -/
  parent_iff : ∀ id b, t.get? id = some b → ∀ p, b.parent = some p ↔
    t.encloses p id ∧ ∀ q, t.encloses q id → q = p ∨ t.encloses q p
  parent_lt : ∀ id b p, t.get? id = some b → b.parent = some p → p < id
  children_eq : ∀ id b, t.get? id = some b → b.children =
    (List.range t.size).filter fun c => (t.get? c).any (·.parent = some id)
  childless : ∀ id b, t.get? id = some b → b.kind = .list → b.children = []
  roots_iff : ∀ id, id ∈ t.roots ↔ id < t.size ∧ ∀ q, t.encloses q id = false
  /-- Brackets with the same parent, or with none, stand one behind the other. -/
  siblings : ∀ i j a b, i < j → t.get? i = some a → t.get? j = some b → a.parent = b.parent →
    ∃ e, a.stop = some e ∧ e < b.start
  depth_eq : ∀ id < t.size, t.depth id = ((List.range t.size).filter (t.encloses · id)).length
  depth_lt : ∀ id < t.size, t.depth id < limit

namespace BracketTree

variable {t : BracketTree} {id p q : Nat}

theorem encloses_iff : t.encloses p q ↔ ∃ a b e e', t.opening? p = some a ∧ t.opening? q = some b ∧
    t.stop? p = some e ∧ t.stop? q = some e' ∧ a.start < b.start ∧ e' < e := by
  unfold encloses opening? stop?
  cases t.get? p with
  | none => simp
  | some a =>
    cases t.get? q with
    | none => simp
    | some b =>
      cases stop : a.stop <;> cases stop' : b.stop <;>
        simp [Bracket.encloses, Bracket.opening, stop, stop']

theorem exists_opening (known : id < t.size) : ∃ o, t.opening? id = some o := by
  obtain ⟨b, found⟩ := exists_get? known
  exact ⟨b.opening, by rw [opening?, found, Option.map_some]⟩

namespace Laid

variable {bound : Nat}

theorem encloses_iff_mem (laid : Laid t [] bound) : t.encloses q id ↔ q ∈ t.ancestors id := by
  rw [encloses_iff]
  constructor
  · rintro ⟨a, b, e, e', ha, hb, stop, stop', before, behind⟩
    have less : q < id := by
      rcases Nat.lt_trichotomy q id with less | rfl | more
      · exact less
      · cases ha.symm.trans hb
        exact absurd before (Nat.lt_irrefl _)
      · exact absurd before (Nat.lt_asymm (laid.ordered id q b a more hb ha))
    by_contra away
    obtain ⟨e₁, apart, same⟩ := laid.apart q id b less away hb
    cases stop.symm.trans same
    have := laid.spans id b e' hb stop'
    omega
  · intro around
    have known := lt_size_of_mem_ancestors around
    have less := laid.parents.lt_of_mem around
    obtain ⟨a, ha⟩ := exists_opening (Nat.lt_trans less known)
    obtain ⟨b, hb⟩ := exists_opening known
    obtain ⟨e, -, stop⟩ := laid.exists_stop (Nat.lt_trans less known) List.not_mem_nil
    obtain ⟨e', behind, stop'⟩ := laid.inside q id e around stop
    exact ⟨a, b, e, e', ha, hb, stop, stop', laid.ordered q id a b less ha hb, behind⟩

theorem parent?_iff (laid : Laid t [] bound) : t.parent? id = some p ↔
    t.encloses p id ∧ ∀ q, t.encloses q id → q = p ∨ t.encloses q p := by
  simp only [laid.encloses_iff_mem]
  constructor
  · intro around
    rw [ancestors_of_parent around (laid.parents id p around)]
    exact ⟨List.mem_cons_self, fun q => List.mem_cons.mp⟩
  · rintro ⟨around, innermost⟩
    cases parent : t.parent? id with
    | none =>
      rw [ancestors_of_root parent] at around
      cases around
    | some p' =>
      have first := ancestors_of_parent parent (laid.parents id p' parent)
      rw [first] at around innermost
      rcases List.mem_cons.mp around with rfl | outer
      · rfl
      · rcases innermost p' List.mem_cons_self with rfl | inner
        · rfl
        · exact absurd (laid.parents.lt_of_mem outer) (Nat.lt_asymm (laid.parents.lt_of_mem inner))

theorem siblings (laid : Laid t [] bound) {i j : Nat} {b : Opening} (less : i < j)
    (found : t.opening? j = some b) (same : t.parent? i = t.parent? j) :
    ∃ e < b.start, t.stop? i = some e := by
  refine laid.apart i j b less (fun around => ?_) found
  cases parent : t.parent? j with
  | none =>
    rw [ancestors_of_root parent] at around
    cases around
  | some p =>
    have above := laid.parents i p (same.trans parent)
    rw [ancestors_of_parent parent (laid.parents j p parent)] at around
    rcases List.mem_cons.mp around with rfl | outer
    · exact Nat.lt_irrefl i above
    · exact Nat.lt_asymm above (laid.parents.lt_of_mem outer)

theorem depth_eq (laid : Laid t [] bound) (known : id < t.size) :
    t.depth id = ((List.range t.size).filter (t.encloses · id)).length := by
  rw [depth_eq_length]
  refine List.Perm.length_eq ((List.perm_ext_iff_of_nodup (laid.parents.nodup id)
    (List.nodup_range.filter _)).mpr fun q => ?_)
  rw [List.mem_filter, List.mem_range, laid.encloses_iff_mem]
  exact ⟨fun around => ⟨Nat.lt_trans (laid.parents.lt_of_mem around) known, around⟩, And.right⟩

theorem mem_roots_iff (laid : Laid t [] bound) :
    id ∈ t.roots ↔ id < t.size ∧ ∀ q, t.encloses q id = false := by
  simp only [roots, List.mem_filter, List.mem_range, Bool.eq_false_iff, ne_eq,
    laid.encloses_iff_mem]
  refine and_congr_right fun known => ?_
  obtain ⟨b, found⟩ := exists_get? known
  have parent : t.parent? id = b.parent := by rw [parent?, found, Option.bind_some]
  rw [found, Option.any_some, ← parent]
  cases around : t.parent? id with
  | none => simp [ancestors_of_root around]
  | some p =>
    simp only [Option.isNone_some, Bool.false_eq_true, false_iff, not_forall, not_not]
    exact ⟨p, by simp [ancestors_of_parent around (laid.parents id p around)]⟩

end Laid
end BracketTree

theorem exists_append_of_lt_countP {α : Type} (f : α → Bool) {n : Nat} {xs : List α}
    (h : n < xs.countP f) : ∃ (before : List α) (x : α) (rest : List α),
      xs = before ++ x :: rest ∧ f x = true ∧ before.countP f = n := by
  induction xs generalizing n with
  | nil => cases h
  | cons x xs ih =>
    by_cases here : f x = true
    · cases n with
      | zero => exact ⟨[], x, xs, rfl, here, rfl⟩
      | succ n =>
        rw [List.countP_cons_of_pos here] at h
        obtain ⟨before, y, rest, rfl, found, count⟩ := ih (Nat.lt_of_succ_lt_succ h)
        exact ⟨x :: before, y, rest, rfl, found, by rw [List.countP_cons_of_pos here, count]⟩
    · rw [List.countP_cons_of_neg here] at h
      obtain ⟨before, y, rest, rfl, found, count⟩ := ih h
      exact ⟨x :: before, y, rest, rfl, found, by rw [List.countP_cons_of_neg here, count]⟩

namespace BracketReader

variable {ls : List Lexeme} {limit : Nat}

theorem start_read_laid (ordered : ls.Pairwise (·.start < ·.start)) :
    ∃ bound, (start.read ls).tree.Laid (start.read ls).opened bound :=
  read_laid .empty (fun _ _ => Nat.zero_le _) ordered

theorem start_read_size (ls : List Lexeme) :
    (start.read ls).tree.size = ls.countP (·.token = .leftParen) := by
  rw [read_size, start, BracketTree.size_empty, Nat.zero_add]

theorem exists_leftParen {id : Nat} (known : id < (start.read ls).tree.size) :
    ∃ (before : List Lexeme) (l : Lexeme) (rest : List Lexeme), ls = before ++ l :: rest ∧
      l.token = .leftParen ∧ (start.read before).tree.size = id := by
  rw [start_read_size] at known
  obtain ⟨before, l, rest, split, left, count⟩ := exists_append_of_lt_countP _ known
  exact ⟨before, l, rest, split, by simpa using left, by rw [start_read_size, count]⟩

theorem read_matched (ordered : ls.Pairwise (·.start < ·.start))
    (balanced : Balanced (ls.map (·.token))) {before rest : List Lexeme} {l : Lexeme}
    (split : ls = before ++ l :: rest) (left : l.token = .leftParen) :
    ∃ (b : Bracket) (inner : List Lexeme) (r : Lexeme) (after : List Lexeme),
      (start.read ls).tree.get? (before.countP (·.token = .leftParen)) = some b ∧
      rest = inner ++ r :: after ∧ Balanced (inner.map (·.token)) ∧ r.token = .rightParen ∧
      b.start = l.start ∧ b.stop = some r.start ∧
      (b.kind = .list ↔ ∃ c op, before.getLast? = some c ∧ c.token = .comparator op) := by
  subst split
  obtain ⟨bound, laid⟩ := start_read_laid (List.pairwise_append.mp ordered).1
  have tokens : (before ++ l :: rest).map (·.token) =
      before.map (·.token) ++ .leftParen :: rest.map (·.token) := by
    rw [List.map_append, List.map_cons, left]
  obtain ⟨us, vs, inner, hrest⟩ := balanced.exists_partner tokens
  obtain ⟨ms, others, rfl, hms, hothers⟩ := List.map_eq_append_iff.mp hrest
  obtain ⟨r, after, rfl, right, -⟩ := List.map_eq_cons_iff.mp hothers
  have inside : Balanced (ms.map (·.token)) := hms ▸ inner
  have opening := read_leftParen (m := start.read before) left (ms ++ r :: after)
  have stop := read_stop laid left right inside after
  rw [← read_append, start_read_size] at opening stop
  obtain ⟨b, found, same⟩ := Option.map_eq_some_iff.mp opening
  have stopped : b.stop = some r.start := by
    rwa [BracketTree.stop?, found, Option.bind_some] at stop
  injection same with kind start parent
  refine ⟨b, ms, r, after, found, rfl, inside, right, start, stopped, ?_⟩
  rw [kind, ← read_compared]
  cases (BracketReader.start.read before).compared <;> simp

/-- Where brackets open in groups only, the tree of balanced tokens describes their brackets. -/
theorem read_describes (ordered : ls.Pairwise (·.start < ·.start))
    (balanced : Balanced (ls.map (·.token)))
    (within : ∀ (before : List Lexeme) (l : Lexeme) (rest : List Lexeme),
      ls = before ++ l :: rest → l.token = .leftParen →
      (start.read before).opened.length < limit ∧ ∀ id ∈ (start.read before).opened,
        ((start.read before).tree.opening? id).map (·.kind) = some .group) :
    (start.read ls).tree.Describes limit ls := by
  obtain ⟨bound, laid⟩ := start_read_laid ordered
  rw [read_balanced balanced rfl] at laid
  have laid : (start.read ls).tree.Laid [] bound := laid
  have opening {id : Nat} {b : Bracket} (found : (start.read ls).tree.get? id = some b) :
      (start.read ls).tree.opening? id = some b.opening := by
    rw [BracketTree.opening?, found, Option.map_some]
  have parent {id : Nat} {b : Bracket} (found : (start.read ls).tree.get? id = some b) :
      (start.read ls).tree.parent? id = b.parent := by
    rw [BracketTree.parent?, found, Option.bind_some]
  constructor
  case size_eq => exact start_read_size ls
  case matched => exact fun _ _ _ split left => read_matched ordered balanced split left
  case ordered =>
    exact fun i j a b less first second =>
      laid.ordered i j _ _ less (opening first) (opening second)
  case parent_iff =>
    intro id b found p
    rw [← parent found]
    exact laid.parent?_iff
  case parent_lt =>
    exact fun id b p found around => laid.parents id p (by rw [parent found, around])
  case children_eq =>
    intro id b found
    rw [laid.children id b found]
    congr 1
    funext c
    rw [BracketTree.parent?]
    cases (start.read ls).tree.get? c <;> simp
  case childless =>
    intro id b found list
    rw [laid.children id b found, List.filter_eq_nil_iff]
    intro c member around
    obtain ⟨before, l, rest, rfl, left, rfl⟩ := exists_leftParen (List.mem_range.mp member)
    obtain ⟨bound', laid'⟩ := start_read_laid (List.pairwise_append.mp ordered).1
    have innermost : (start.read before).opened.head? = some id := by
      rw [decide_eq_true_eq, BracketTree.parent?_eq, read_append, read_leftParen left] at around
      exact around
    have outer : id ∈ (start.read before).opened := List.mem_of_mem_head? innermost
    have group := (within before l rest rfl left).2 id outer
    rw [← read_opening (l :: rest) (laid'.opened_lt outer), ← read_append, opening found] at group
    rw [Option.map_some, Bracket.opening, list] at group
    cases group
  case roots_iff => exact fun id => laid.mem_roots_iff
  case siblings =>
    intro i j a b less first second same
    obtain ⟨e, before, stop⟩ := laid.siblings less (opening second)
      (by rw [parent first, parent second, same])
    refine ⟨e, ?_, before⟩
    rwa [BracketTree.stop?, first, Option.bind_some] at stop
  case depth_eq => exact fun id known => laid.depth_eq known
  case depth_lt =>
    intro id known
    obtain ⟨before, l, rest, rfl, left, rfl⟩ := exists_leftParen known
    obtain ⟨bound', laid'⟩ := start_read_laid (List.pairwise_append.mp ordered).1
    rw [BracketTree.depth_eq_length, read_append, read_ancestors laid' left rest]
    exact (within before l rest rfl left).1

end BracketReader

/-- What is read has the brackets of its text. -/
theorem parse_describes {text : String} {p : Parsed} (options : ParseOptions)
    (h : parse text options = .ok p) : ∃ ls stop, tokenize text = .ok (ls, stop) ∧
      p.brackets.Describes options.maxDepth ls := by
  obtain ⟨ls, stop, lexed⟩ := tokenize_of_parse h
  rw [parse_of_tokenize lexed] at h
  have ordered : ls.Pairwise (·.start < ·.start) := by
    have all := (Reader.ofText text).lexemes_ordered
    rwa [tokenize_eq_ok.mp lexed] at all
  have balanced : Balanced (ls.map (·.token)) := (derives_of_parseLexemes h).1.plain.balanced
  refine ⟨ls, stop, lexed, ?_⟩
  rw [brackets_of_parseLexemes h]
  refine BracketReader.read_describes ordered balanced fun before l rest split left => ?_
  rw [split] at h
  exact leftParen_of_parseLexemes h left

/-- A list in a group. -/
theorem parse_describes_list :
    parse "(a IN (1,2))" = .ok ⟨.condition (.comparison ⟨.key "a", .member,
        .list [.number (.ofInt64 1), .number (.ofInt64 2)], none, rfl⟩),
      ⟨#[⟨.group, 0, some 11, none, [1]⟩, ⟨.list, 6, some 10, some 0, []⟩]⟩⟩ ∧
    ∃ ls stop, tokenize "(a IN (1,2))" = .ok (ls, stop) ∧ BracketTree.Describes
      ⟨#[⟨.group, 0, some 11, none, [1]⟩, ⟨.list, 6, some 10, some 0, []⟩]⟩ 64 ls := by
  have read : parse "(a IN (1,2))" = .ok ⟨.condition (.comparison ⟨.key "a", .member,
      .list [.number (.ofInt64 1), .number (.ofInt64 2)], none, rfl⟩),
      ⟨#[⟨.group, 0, some 11, none, [1]⟩, ⟨.list, 6, some 10, some 0, []⟩]⟩⟩ := by cbv
  exact ⟨read, parse_describes {} read⟩

end RecordFilter
