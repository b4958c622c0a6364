import RecordFilter.Proofs.Bracket.Balanced
import RecordFilter.Proofs.Bracket.Nesting

namespace RecordFilter

namespace BracketReader

variable {m : BracketReader}

theorem read_append (ls ms : List Lexeme) : m.read (ls ++ ms) = (m.read ls).read ms :=
  List.foldl_append

theorem read_nil : m.read [] = m := rfl

theorem read_cons (l : Lexeme) (ls : List Lexeme) : m.read (l :: ls) = (m.next l).read ls := rfl

theorem next_compared (l : Lexeme) : (m.next l).compared = l.token.isComparator := by
  unfold next
  split
  · next h => rw [h]; rfl
  · next h _ => rw [h]; rfl
  · rfl

theorem read_compared (ls : List Lexeme) : (start.read ls).compared = true ↔
    ∃ c op, ls.getLast? = some c ∧ c.token = .comparator op := by
  rcases List.eq_nil_or_concat' ls with rfl | ⟨ls, l, rfl⟩
  · simp [read, start]
  · rw [read_append, read_cons, read_nil, next_compared, List.getLast?_concat]
    cases h : l.token <;> simp [Token.isComparator, h]

theorem next_size (l : Lexeme) :
    (m.next l).tree.size = m.tree.size + if l.token = .leftParen then 1 else 0 := by
  unfold next
  split
  · next h => simp [h]
  · next h _ => simp [h]
  · next left _ => rw [if_neg left]; rfl

theorem read_size (ls : List Lexeme) :
    (m.read ls).tree.size = m.tree.size + ls.countP (·.token = .leftParen) := by
  induction ls generalizing m with
  | nil => rfl
  | cons l ls ih =>
    rw [read_cons, ih, next_size, List.countP_cons]
    simp only [decide_eq_true_eq]
    omega

theorem next_opening (l : Lexeme) {id : Nat} (known : id < m.tree.size) :
    (m.next l).tree.opening? id = m.tree.opening? id := by
  unfold next
  split
  · rw [BracketTree.opening?_push, if_neg (Nat.ne_of_lt known)]
  · exact BracketTree.opening?_close ..
  · rfl

theorem read_opening (ls : List Lexeme) {id : Nat} (known : id < m.tree.size) :
    (m.read ls).tree.opening? id = m.tree.opening? id := by
  induction ls generalizing m with
  | nil => rfl
  | cons l ls ih =>
    rw [read_cons, ih (by rw [next_size]; omega), next_opening l known]

theorem next_closed (l : Lexeme) {id : Nat} (known : id < m.tree.size) (closed : id ∉ m.opened) :
    (m.next l).tree.stop? id = m.tree.stop? id ∧ id ∉ (m.next l).opened := by
  unfold next
  split
  · simp [closed, Nat.ne_of_lt known]
  · next inner outer _ opened =>
    rw [opened, List.mem_cons, not_or] at closed
    rw [BracketTree.stop?_close_of_ne _ (Ne.symm closed.1)]
    exact ⟨rfl, closed.2⟩
  · exact ⟨rfl, closed⟩

theorem read_closed (ls : List Lexeme) {id : Nat} (known : id < m.tree.size)
    (closed : id ∉ m.opened) : (m.read ls).tree.stop? id = m.tree.stop? id := by
  induction ls generalizing m with
  | nil => rfl
  | cons l ls ih =>
    obtain ⟨same, closed⟩ := next_closed l known closed
    rw [read_cons, ih (by rw [next_size]; omega) closed, same]

/-- Balanced tokens close what they open, and nothing else. -/
theorem read_balanced {ts : List Token} (h : Balanced ts) {ls : List Lexeme}
    (tokens : ls.map (·.token) = ts) : (m.read ls).opened = m.opened := by
  induction h generalizing m ls with
  | nil =>
    obtain rfl := List.map_eq_nil_iff.mp tokens
    rfl
  | token left right =>
    obtain ⟨l, rfl, rfl⟩ := List.map_eq_singleton_iff.mp tokens
    rw [read_cons, next_other left right]
    rfl
  | bracketed _ ih =>
    obtain ⟨l, rest, rfl, left, hrest⟩ := List.map_eq_cons_iff.mp tokens
    obtain ⟨ms, last, rfl, hms, hlast⟩ := List.map_eq_append_iff.mp hrest
    obtain ⟨r, rfl, right⟩ := List.map_eq_singleton_iff.mp hlast
    rw [read_cons, read_append]
    have inner := ih (m := m.next l) hms
    rw [next_leftParen left] at inner ⊢
    rw [read_cons, next_rightParen right inner]
    rfl
  | append _ _ ih₁ ih₂ =>
    obtain ⟨ls₁, ls₂, rfl, h₁, h₂⟩ := List.map_eq_append_iff.mp tokens
    rw [read_append, ih₂ h₂, ih₁ h₁]

section

variable {bound : Nat} {l : Lexeme}

theorem read_leftParen (left : l.token = .leftParen) (rest : List Lexeme) :
    (m.read (l :: rest)).tree.opening? m.tree.size =
      some ⟨if m.compared then .list else .group, l.start, m.opened.head?⟩ := by
  rw [read_cons, read_opening rest (by simp [next_leftParen left]), next_leftParen left,
    BracketTree.opening?_push, if_pos rfl]

theorem read_ancestors (laid : m.tree.Laid m.opened bound) (left : l.token = .leftParen)
    (rest : List Lexeme) : (m.read (l :: rest)).tree.ancestors m.tree.size = m.opened := by
  rw [← laid.ancestors_new (if m.compared then .list else .group) l.start, read_cons,
    next_leftParen left]
  have parents := laid.parentsFirst_push (if m.compared then .list else .group) l.start
  refine parents.ancestors_congr fun j below => ?_
  rw [BracketTree.parent?_eq, BracketTree.parent?_eq, read_opening rest]
  rw [BracketTree.size_push]
  omega

/-- A bracket that opens here closes at the token behind what is balanced. -/
theorem read_stop (laid : m.tree.Laid m.opened bound) {inner : List Lexeme} {r : Lexeme}
    (left : l.token = .leftParen) (right : r.token = .rightParen)
    (balanced : Balanced (inner.map (·.token))) (after : List Lexeme) :
    (m.read (l :: (inner ++ r :: after))).tree.stop? m.tree.size = some r.start := by
  have opened : ((m.next l).read inner).opened = m.tree.size :: m.opened := by
    rw [read_balanced balanced rfl, next_leftParen left]
  have known : m.tree.size < ((m.next l).read inner).tree.size := by
    rw [read_size, next_leftParen left, BracketTree.size_push]
    omega
  have outer : m.tree.size ∉ m.opened := fun h => Nat.lt_irrefl _ (laid.opened_lt h)
  have done := read_closed
    (m := ⟨((m.next l).read inner).tree.close m.tree.size r.start, m.opened, false⟩) after
    (by simpa using known) outer
  rw [read_cons, read_append, read_cons, next_rightParen right opened, done,
    BracketTree.stop?_close_self _ known]

end
end BracketReader
end RecordFilter
