import RecordFilter.Proofs.Bracket.Basic
import RecordFilter.Proofs.Parse.Soundness

namespace RecordFilter

variable {options : ParseOptions}

def Token.isComparator : Token → Bool
  | comparator _ => true
  | _ => false

/-- The brackets met so far, and those that are open, the innermost first. -/
structure BracketReader where
  tree : BracketTree
  opened : List Nat
  compared : Bool

namespace BracketReader

def start : BracketReader := ⟨.empty, [], false⟩

def next (m : BracketReader) (l : Lexeme) : BracketReader :=
  match l.token, m.opened with
  | .leftParen, opened =>
    let kind := if m.compared then .list else .group
    ⟨m.tree.push kind opened.head? l.start, m.tree.size :: opened, false⟩
  | .rightParen, id :: opened => ⟨m.tree.close id l.start, opened, false⟩
  | token, opened => ⟨m.tree, opened, token.isComparator⟩

def read (m : BracketReader) (ls : List Lexeme) : BracketReader := ls.foldl next m

variable {m : BracketReader} {l : Lexeme}

theorem next_leftParen (h : l.token = .leftParen) :
    m.next l = ⟨m.tree.push (if m.compared then .list else .group) m.opened.head? l.start,
      m.tree.size :: m.opened, false⟩ := by
  simp [next, h]

theorem next_rightParen {id : Nat} {outer : List Nat} (h : l.token = .rightParen)
    (opened : m.opened = id :: outer) : m.next l = ⟨m.tree.close id l.start, outer, false⟩ := by
  simp [next, h, opened]

theorem next_other (left : l.token ≠ .leftParen) (right : l.token ≠ .rightParen) :
    m.next l = ⟨m.tree, m.opened, l.token.isComparator⟩ := by
  unfold next
  split
  · next h => exact absurd h left
  · next h _ => exact absurd h right
  · rfl

end BracketReader

namespace Region

theorem expectsOperand_of_progress {r : Region} (h : ∀ x op o, r.progress ≠ .compared x op o) :
    r.expectsOperand = false := by
  obtain ⟨d, p, progress, ns, held⟩ := r
  cases progress with
  | compared x op o => exact absurd rfl (h x op o)
  | _ => simp [expectsOperand]

theorem fold_ok {r r' : Region} {c : Condition} {depth offset : Nat}
    (h : r.fold options c depth offset = .ok r') :
    r'.progress = r.progress ∧ r'.held = r.held := by
  simp only [fold] at h
  split at h
  · cases h
  · split at h
    · cases h
      exact ⟨rfl, rfl⟩
    · cases h
    · split at h
      · cases h
      · cases h
        exact ⟨rfl, rfl⟩

theorem commit_ok {r r' : Region} {x : Operand} {offset : Nat}
    (h : r.commit options x offset = .ok r') :
    (∀ y op o, r'.progress ≠ .compared y op o) ∧ r'.held = r.held := by
  unfold commit at h
  split at h
  · split at h
    · cases h
    · cases h
      exact ⟨nofun, rfl⟩
  · cases h
  · split at h
    · cases h
    · obtain ⟨progress, held⟩ := fold_ok h
      exact ⟨by simp [progress], held⟩

theorem flush_ok {r r' : Region} (h : r.flush options = .ok r') : r'.held = none := by
  unfold flush at h
  split at h
  · next free =>
    cases h
    exact free
  · exact (commit_ok h).2

theorem pushValue_expects {r r' : Region} {x : Operand} {offset : Nat}
    (h : r.pushValue options x offset = .ok r') : r'.expectsOperand = false := by
  obtain ⟨r₁, -, h⟩ := bind_eq_ok.mp h
  cases h
  rfl

theorem pushComparator_expects {r r' : Region} {op : Comparator} {offset : Nat}
    (h : r.pushComparator options op offset = .ok r') : r'.expectsOperand = true := by
  obtain ⟨r₁, flushed, h⟩ := bind_eq_ok.mp h
  have free := flush_ok flushed
  split at h
  · split at h
    · cases h
    · cases h
      simp [expectsOperand, free]
  · cases h
  · cases h

theorem pushConnective_expects {r r' : Region} {op : Connective} {offset : Nat}
    (h : r.pushConnective options op offset = .ok r') : r'.expectsOperand = false := by
  obtain ⟨r₁, -, h⟩ := bind_eq_ok.mp h
  split at h
  case h_4 waiting _ _ =>
    cases h
    exact expectsOperand_of_progress (by simp [waiting])
  all_goals cases h

theorem pushNot_expects {r r' : Region} {offset : Nat} (h : r.pushNot options offset = .ok r') :
    r'.expectsOperand = false := by
  by_cases waiting : ∀ x op o, r.progress ≠ .compared x op o
  · obtain ⟨-, rfl⟩ := pushNot_ok waiting h
    exact expectsOperand_of_progress waiting
  · push Not at waiting
    obtain ⟨x, op, o, compared⟩ := waiting
    obtain ⟨d, p, progress, ns, held⟩ := r
    obtain rfl : progress = .compared x op o := compared
    cases held with
    | none => cases h
    | some v =>
      obtain ⟨r₁, flushed, h⟩ := bind_eq_ok.mp h
      dsimp only at h
      split at h
      · cases h
      · cases h
        have committed : commit options ⟨d, p, .compared x op o, ns, none⟩ v.1 v.2 = .ok r₁ :=
          flushed
        exact expectsOperand_of_progress (commit_ok committed).1

theorem pushCondition_expects {r r' : Region} {c : Condition} {offset : Nat}
    (h : r.pushCondition options c offset = .ok r') : r'.expectsOperand = false := by
  obtain ⟨r₁, -, h⟩ := bind_eq_ok.mp h
  split at h
  · next waiting => exact expectsOperand_of_progress (by simp [(fold_ok h).1, waiting])
  · cases h
  · cases h

theorem pushExpression_expects {r r' : Region} {e : Expression} {offset : Nat}
    (h : r.pushExpression options e offset = .ok r') : r'.expectsOperand = false := by
  cases e with
  | operand => exact pushValue_expects h
  | condition => exact pushCondition_expects h

end Region

namespace ParseState

/-- The reader of brackets has come as far as the parser. -/
structure Follows (m : BracketReader) (s : ParseState) : Prop where
  tree : m.tree = s.brackets
  opened : m.opened = (s.list.map (·.bracket)).toList ++ s.outer.map (·.bracket)
  compared : s.list = none → m.compared = s.region.expectsOperand
  groups : ∀ o ∈ s.outer, (s.brackets.opening? o.bracket).map (·.kind) = some .group

variable {m : BracketReader} {l : Lexeme} {r r' : Region} {outer : List OpenRegion}
  {brackets : BracketTree}

theorem Follows.region {list list' : Option OpenList}
    (follows : Follows m ⟨r, outer, list, brackets⟩) (left : l.token ≠ .leftParen)
    (right : l.token ≠ .rightParen) (same : list'.map (·.bracket) = list.map (·.bracket))
    (expects : list' = none → l.token.isComparator = r'.expectsOperand) :
    Follows (m.next l) ⟨r', outer, list', brackets⟩ := by
  rw [BracketReader.next_other left right]
  exact ⟨follows.tree, by rw [follows.opened, same], expects, follows.groups⟩

/-- What closes the innermost bracket amounts to a value or a condition of the region around. -/
theorem Follows.close {list : Option OpenList} {id : Nat} {outer' : List OpenRegion}
    (follows : Follows m ⟨r, outer, list, brackets⟩) (token : l.token = .rightParen)
    (opened : m.opened = id :: outer'.map (·.bracket)) (suffix : outer' <:+ outer)
    (expects : r'.expectsOperand = false) :
    Follows (m.next l) ⟨r', outer', none, brackets.close id l.start⟩ := by
  rw [BracketReader.next_rightParen token opened]
  refine ⟨by rw [follows.tree], rfl, fun _ => expects.symm, fun o member => ?_⟩
  rw [BracketTree.opening?_close]
  exact follows.groups o (suffix.subset member)

theorem leftParen_follows {s : ParseState} (follows : Follows m ⟨r, outer, none, brackets⟩)
    (token : l.token = .leftParen)
    (h : leftParen options ⟨r, outer, none, brackets⟩ l.start = .ok s) :
    Follows (m.next l) s := by
  have compared := follows.compared rfl
  have innermost : m.opened.head? = parent ⟨r, outer, none, brackets⟩ := by
    rw [follows.opened]
    cases outer <;> rfl
  have older (kind : BracketKind) (o : OpenRegion) (member : o ∈ outer) :
      ((brackets.push kind (parent ⟨r, outer, none, brackets⟩) l.start).opening? o.bracket).map
        (·.kind) = some .group := by
    have known := follows.groups o member
    have old : o.bracket ≠ brackets.size := by
      intro new
      rw [new, BracketTree.opening?_eq_none_iff.mpr (Nat.le_refl _)] at known
      cases known
    rwa [BracketTree.opening?_push, if_neg old]
  rw [BracketReader.next_leftParen token, compared, innermost, follows.tree]
  cases expects : r.expectsOperand with
  | true =>
    rw [leftParen_list expects] at h
    split at h
    · cases h
    · cases h
      exact ⟨by simp, by simp [follows.opened], nofun, older .list⟩
  | false =>
    rw [leftParen_group expects] at h
    split at h
    · cases h
    · cases h
      refine ⟨by simp, by simp [follows.opened], fun _ => rfl, fun o member => ?_⟩
      rcases List.mem_cons.mp member with rfl | member
      · simp [BracketTree.opening?_push]
      · exact older .group o member

theorem rightParen_follows {s : ParseState} (follows : Follows m ⟨r, outer, none, brackets⟩)
    (token : l.token = .rightParen)
    (h : rightParen options ⟨r, outer, none, brackets⟩ l.start = .ok s) :
    Follows (m.next l) s := by
  cases outer with
  | nil => cases h
  | cons group outer =>
    rw [rightParen_cons] at h
    obtain ⟨e, -, h⟩ := bind_eq_ok.mp h
    obtain ⟨r₁, pushed, h⟩ := bind_eq_ok.mp h
    cases h
    exact follows.close token (by simp [follows.opened]) (List.suffix_cons _ _)
      (Region.pushExpression_expects pushed)

theorem inRegion_follows {s : ParseState} (follows : Follows m ⟨r, outer, none, brackets⟩)
    (h : inRegion options ⟨r, outer, none, brackets⟩ l.token l.start = .ok s) :
    Follows (m.next l) s := by
  have go {push : Except ParseError Region} (left : l.token ≠ .leftParen)
      (right : l.token ≠ .rightParen)
      (expects : ∀ r', push = .ok r' → l.token.isComparator = r'.expectsOperand)
      (h : push.map (fun r => (⟨r, outer, none, brackets⟩ : ParseState)) = .ok s) :
      Follows (m.next l) s := by
    obtain ⟨r', pushed, rfl⟩ := map_eq_ok.mp h
    exact follows.region left right rfl fun _ => expects r' pushed
  obtain ⟨t, start, stop⟩ := l
  cases value : t.operand? with
  | some x =>
    rw [inRegion_operand value] at h
    have plain : t ≠ .leftParen ∧ t ≠ .rightParen ∧ t.isComparator = false := by
      cases t <;> cases value <;> exact ⟨nofun, nofun, rfl⟩
    exact go plain.1 plain.2.1
      (fun r' pushed => by rw [plain.2.2, Region.pushValue_expects pushed]) h
  | none =>
    cases t with
    | comparator op =>
      exact go nofun nofun (fun r' pushed => (Region.pushComparator_expects pushed).symm) h
    | connective op =>
      exact go nofun nofun (fun r' pushed => (Region.pushConnective_expects pushed).symm) h
    | not => exact go nofun nofun (fun r' pushed => (Region.pushNot_expects pushed).symm) h
    | leftParen => exact leftParen_follows follows rfl h
    | rightParen => exact rightParen_follows follows rfl h
    | comma => cases h
    | _ => cases value

theorem inList_follows {s : ParseState} {list : OpenList}
    (follows : Follows m ⟨r, outer, some list, brackets⟩)
    (h : inList options ⟨r, outer, some list, brackets⟩ list l.token l.start = .ok s) :
    Follows (m.next l) s := by
  have go {list' : OpenList} (left : l.token ≠ .leftParen) (right : l.token ≠ .rightParen)
      (h : (.ok ⟨r, outer, some list', brackets⟩ : Except ParseError ParseState) = .ok s)
      (same : list'.bracket = list.bracket) : Follows (m.next l) s := by
    cases h
    exact follows.region left right (congrArg some same) nofun
  unfold inList at h
  split at h
  · cases h
  · cases h
  · next notLeft =>
    split at h
    · next closing =>
      obtain ⟨r', pushed, h⟩ := bind_eq_ok.mp h
      cases h
      exact follows.close closing.1 follows.opened List.suffix_rfl (Region.pushValue_expects pushed)
    · split at h
      · split at h
        · next x value =>
          refine go notLeft ?_ h rfl
          intro right
          rw [right] at value
          cases value
        · cases h
      · split at h
        · next comma => exact go notLeft (by simp [comma]) h rfl
        · cases h

theorem step_follows {s s' : ParseState} (follows : Follows m s)
    (h : step options s l = .ok s') : Follows (m.next l) s' := by
  obtain ⟨r, outer, list, brackets⟩ := s
  cases list with
  | none => exact inRegion_follows follows h
  | some list => exact inList_follows follows h

theorem run_follows {s s' : ParseState} {ls : List Lexeme} (follows : Follows m s)
    (h : ls.foldlM (step options) s = .ok s') : Follows (m.read ls) s' := by
  induction ls generalizing m s with
  | nil =>
    cases h
    exact follows
  | cons l ls ih =>
    rw [List.foldlM_cons] at h
    obtain ⟨s₁, stepped, h⟩ := bind_eq_ok.mp h
    exact ih (step_follows follows stepped) h

theorem start_follows : Follows .start .start := ⟨rfl, rfl, fun _ => rfl, nofun⟩

end ParseState

/-- What is read has the brackets of its tokens. -/
theorem brackets_of_parseLexemes {ls : List Lexeme} {stop : Nat} {p : Parsed}
    (h : parseLexemes options ls stop = .ok p) :
    p.brackets = (BracketReader.start.read ls).tree := by
  obtain ⟨s, run, h⟩ := bind_eq_ok.mp h
  obtain ⟨e, -, h⟩ := bind_eq_ok.mp h
  cases h
  exact (ParseState.run_follows ParseState.start_follows run).tree.symm

theorem Region.Traced.depth_eq {d : Nat} {ts : List Token} {r : Region}
    (h : r.Traced options d ts) : r.depth = d := by
  cases h with
  | stuck stuck => cases stuck <;> rfl
  | _ => rfl

namespace ParseState

theorem Around.length_le {d : Nat} {bs : List Token} {outer : List OpenRegion}
    (h : Around options d bs outer) : outer.length ≤ d := by
  induction h with
  | nil => exact Nat.le_refl 0
  | cons around traced group within ih =>
    rw [List.length_cons, Region.groupNesting, traced.depth_eq]
    omega

theorem step_leftParen {m : BracketReader} {ts : List Token} {s s' : ParseState} {l : Lexeme}
    (follows : Follows m s) (traced : Traced options ts s) (token : l.token = .leftParen)
    (h : step options s l = .ok s') :
    m.opened.length < options.maxDepth ∧
      ∀ id ∈ m.opened, (m.tree.opening? id).map (·.kind) = some .group := by
  cases traced with
  | list =>
    simp only [step, inList, token] at h
    cases h
  | @region d bs ts r outer brackets around traced =>
    have opened : m.opened = outer.map (·.bracket) := follows.opened
    have below : outer.length < options.maxDepth := by
      have height := around.length_le
      have depth := traced.depth_eq
      simp only [step, inRegion, token] at h
      cases expects : r.expectsOperand with
      | true =>
        rw [leftParen_list expects] at h
        split at h
        · cases h
        · next room =>
          simp only [Region.nesting] at room
          omega
      | false =>
        rw [leftParen_group expects] at h
        split at h
        · cases h
        · next room =>
          simp only [Region.groupNesting] at room
          omega
    refine ⟨by rwa [opened, List.length_map], fun id member => ?_⟩
    rw [opened] at member
    obtain ⟨o, around, rfl⟩ := List.mem_map.mp member
    rw [follows.tree]
    exact follows.groups o around

end ParseState

/-- In what is read every bracket stands in groups only, and in fewer than the limit. -/
theorem leftParen_of_parseLexemes {before rest : List Lexeme} {l : Lexeme} {stop : Nat}
    {p : Parsed} (h : parseLexemes options (before ++ l :: rest) stop = .ok p)
    (token : l.token = .leftParen) :
    let m := BracketReader.start.read before
    m.opened.length < options.maxDepth ∧
      ∀ id ∈ m.opened, (m.tree.opening? id).map (·.kind) = some .group := by
  obtain ⟨s, run, -⟩ := bind_eq_ok.mp h
  rw [List.foldlM_append] at run
  obtain ⟨s₁, first, run⟩ := bind_eq_ok.mp run
  rw [List.foldlM_cons] at run
  obtain ⟨s₂, stepped, -⟩ := bind_eq_ok.mp run
  exact ParseState.step_leftParen (ParseState.run_follows ParseState.start_follows first)
    (ParseState.traced_of_run first) token stepped

end RecordFilter
