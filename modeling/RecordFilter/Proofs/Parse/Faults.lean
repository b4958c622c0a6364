import RecordFilter.Proofs.Bracket.Opened
import RecordFilter.Proofs.Parse.Relocation
import RecordFilter.Proofs.Token.Places

namespace RecordFilter

variable {options : ParseOptions}

section Places

def stayOn (places : List Nat) (i : Nat) : Nat := if i ∈ places then i else i + 1

variable {places : List Nat} {ls : List Lexeme} {e : ParseError}

theorem stayOn_of_mem {i : Nat} (h : i ∈ places) : stayOn places i = i := if_pos h

theorem stands_stayOn (starts : ls.map (·.start) ⊆ places) :
    List.Forall₂ (Lexeme.Stands (stayOn places)) ls ls :=
  List.forall₂_same.mpr fun _ member =>
    ⟨rfl, (stayOn_of_mem (starts (List.mem_map_of_mem member))).symm⟩

/-- An error that stays when the places off the list move stands on the list. -/
theorem offset_mem_of_relocated {α : Type} {x : Except ParseError α} {g : α → α}
    (same : x = relocated (stayOn places) g x) (h : x = .error e) : e.offset ∈ places := by
  subst h
  injection same with same
  have stays : e.offset = stayOn places e.offset := congrArg ParseError.offset same
  by_contra elsewhere
  simp [stayOn, elsewhere] at stays

theorem offset_of_run (h : ls.foldlM (ParseState.step options) .start = .error e) :
    e.offset ∈ ls.map (·.start) := by
  have stands := stands_stayOn (List.Subset.refl (ls.map (·.start)))
  have same : ls.foldlM (ParseState.step options) (ParseState.start.relocate _) = _ :=
    ParseState.run_relocate .start stands
  rw [ParseState.start_relocate] at same
  exact offset_mem_of_relocated same h

theorem offset_of_parseLexemes {stop : Nat} (h : parseLexemes options ls stop = .error e) :
    e.offset ∈ ls.map (·.start) ++ [stop] := by
  have stands := stands_stayOn (List.subset_append_left (ls.map (·.start)) [stop])
  have same := parseLexemes_relocate options stands stop
  rw [stayOn_of_mem (by simp)] at same
  exact offset_mem_of_relocated same h

end Places

/-- Faults that are neither about characters nor about a bracket alone. -/
def ParseFault.isRegional : ParseFault → Bool
  | lexical _ | unclosed | unmatched => false
  | _ => true

/-- Whatever goes wrong here, a region finds fault with it. -/
def Regional {α : Type} (x : Except ParseError α) : Prop :=
  ∀ e, x = .error e → e.fault.isRegional = true

namespace Regional

variable {α β : Type}

theorem ok (a : α) : Regional (.ok a) := nofun

theorem error {offset : Nat} {fault : ParseFault} (h : fault.isRegional = true) :
    Regional (.error ⟨offset, fault⟩ : Except ParseError α) := by
  rintro e same
  cases same
  exact h

theorem bind {x : Except ParseError α} {f : α → Except ParseError β} (first : Regional x)
    (next : ∀ a, Regional (f a)) : Regional (x >>= f) := by
  intro e h
  rcases bind_eq_error.mp h with h | ⟨a, -, h⟩
  · exact first e h
  · exact next a e h

theorem map {x : Except ParseError α} {f : α → β} (h : Regional x) : Regional (x.map f) :=
  fun e failed => h e (map_eq_error.mp failed)

end Regional

namespace Region

variable (r : Region)

theorem fold_regional (c : Condition) (depth offset : Nat) :
    Regional (r.fold options c depth offset) := by
  unfold fold
  dsimp only
  split
  · exact .error rfl
  · split
    · exact .ok _
    · exact .error rfl
    · split
      · exact .error rfl
      · exact .ok _

theorem commit_regional (x : Operand) (offset : Nat) : Regional (r.commit options x offset) := by
  unfold commit
  split
  · split
    · exact .error rfl
    · exact .ok _
  · exact .error rfl
  · split
    · exact .error rfl
    · exact fold_regional _ _ _ _

theorem flush_regional : Regional (r.flush options) := by
  unfold flush
  split
  · exact .ok _
  · exact commit_regional _ _ _

theorem pushValue_regional (x : Operand) (offset : Nat) :
    Regional (r.pushValue options x offset) :=
  r.flush_regional.bind fun _ => .ok _

theorem pushComparator_regional (op : Comparator) (offset : Nat) :
    Regional (r.pushComparator options op offset) := by
  refine r.flush_regional.bind fun r => ?_
  split
  · split
    · exact .error rfl
    · exact .ok _
  · exact .error rfl
  · exact .error rfl

theorem pushConnective_regional (op : Connective) (offset : Nat) :
    Regional (r.pushConnective options op offset) := by
  refine r.flush_regional.bind fun r => ?_
  split
  case h_4 => exact .ok _
  all_goals exact .error rfl

theorem count_regional (offset : Nat) : Regional (r.count options offset) := by
  unfold count
  split
  · exact .error rfl
  · exact .ok _

theorem pushNot_regional (offset : Nat) : Regional (r.pushNot options offset) := by
  unfold pushNot
  split
  · exact r.flush_regional.bind fun r => r.count_regional offset
  · exact .error rfl
  · exact r.count_regional offset

theorem pushCondition_regional (c : Condition) (offset : Nat) :
    Regional (r.pushCondition options c offset) := by
  refine r.flush_regional.bind fun r => ?_
  split
  · exact fold_regional _ _ _ _
  · exact .error rfl
  · exact .error rfl

theorem pushExpression_regional (e : Expression) (offset : Nat) :
    Regional (r.pushExpression options e offset) := by
  cases e with
  | operand x => exact r.pushValue_regional x offset
  | condition c => exact r.pushCondition_regional c offset

theorem finish_regional (stop : Nat) : Regional (r.finish options stop) := by
  refine r.flush_regional.bind fun r => ?_
  split
  case h_3 | h_7 => exact .ok _
  all_goals exact .error rfl

end Region

namespace ParseState

variable {s : ParseState} {l : Lexeme} {e : ParseError}

theorem leftParen_regional (s : ParseState) (offset : Nat) :
    Regional (s.leftParen options offset) := by
  cases expects : s.region.expectsOperand with
  | true =>
    rw [leftParen_list expects]
    split
    · exact .error rfl
    · exact .ok _
  | false =>
    rw [leftParen_group expects]
    split
    · exact .error rfl
    · exact .ok _

theorem inList_regional (s : ParseState) (list : OpenList) (t : Token) (offset : Nat) :
    Regional (s.inList options list t offset) := by
  unfold inList
  split
  · exact .error rfl
  · exact .error rfl
  · split
    · exact (s.region.pushValue_regional _ _).bind fun _ => .ok _
    · split
      · split
        · exact .ok _
        · exact .error rfl
      · split
        · exact .ok _
        · exact .error rfl

/-- Only a bracket that closes nothing is refused for what stands before it alone. -/
theorem step_error (h : step options s l = .error e) :
    e.fault.isRegional = true ∨
      l.token = .rightParen ∧ s.openPlaces = [] ∧ e = ⟨l.start, .unmatched⟩ := by
  obtain ⟨r, outer, list, brackets⟩ := s
  obtain ⟨t, start, stop⟩ := l
  cases list with
  | some list => exact .inl (inList_regional _ list t start e h)
  | none =>
    have go {push : Except ParseError Region} (regional : Regional push)
        (h : push.map (fun region => (⟨region, outer, none, brackets⟩ : ParseState)) = .error e) :
        e.fault.isRegional = true := regional.map e h
    cases t with
    | comparator op => exact .inl (go (r.pushComparator_regional op start) h)
    | connective op => exact .inl (go (r.pushConnective_regional op start) h)
    | not => exact .inl (go (r.pushNot_regional start) h)
    | leftParen => exact .inl (leftParen_regional _ start e h)
    | rightParen =>
      cases outer with
      | nil =>
        cases h
        exact .inr ⟨rfl, rfl, rfl⟩
      | cons group outer =>
        change rightParen options ⟨r, group :: outer, none, brackets⟩ start = .error e at h
        rw [rightParen_cons] at h
        refine .inl (Regional.bind (r.finish_regional start) (fun x => ?_) e h)
        exact (group.around.pushExpression_regional x group.start).bind fun _ => .ok _
    | comma => exact .inl (Regional.error rfl e h)
    | _ => exact .inl (go (r.pushValue_regional _ start) h)

theorem finish_error {stop : Nat} (h : s.finish options stop = .error e) :
    e.fault.isRegional = true ∨
      ∃ places, s.openPlaces = e.offset :: places ∧ e.fault = .unclosed := by
  obtain ⟨r, outer, list, brackets⟩ := s
  cases list with
  | some list =>
    cases h
    exact .inr ⟨_, rfl, rfl⟩
  | none =>
    cases outer with
    | nil => exact .inl (r.finish_regional stop e h)
    | cons group outer =>
      cases h
      exact .inr ⟨_, rfl, rfl⟩

theorem exists_step_error {ls : List Lexeme} (h : ls.foldlM (step options) s = .error e) :
    ∃ before l rest s', ls = before ++ l :: rest ∧
      before.foldlM (step options) s = .ok s' ∧ step options s' l = .error e := by
  induction ls generalizing s with
  | nil => cases h
  | cons l ls ih =>
    rw [List.foldlM_cons] at h
    rcases bind_eq_error.mp h with refused | ⟨s₁, stepped, h⟩
    · exact ⟨[], l, ls, s, rfl, rfl, refused⟩
    · obtain ⟨before, l', rest, s', rfl, run, refused⟩ := ih h
      refine ⟨l :: before, l', rest, s', rfl, ?_, refused⟩
      rw [List.foldlM_cons]
      exact bind_eq_ok.mpr ⟨s₁, stepped, run⟩

/-- A run is refused in a region, or at a bracket that closes nothing. -/
theorem run_error {ls : List Lexeme} (h : ls.foldlM (step options) .start = .error e) :
    e.fault.isRegional = true ∨ ∃ before l rest, ls = before ++ l :: rest ∧
      l.token = .rightParen ∧ Balanced (before.map (·.token)) ∧ e = ⟨l.start, .unmatched⟩ := by
  obtain ⟨before, l, rest, s, rfl, run, refused⟩ := exists_step_error h
  refine (step_error refused).imp_right fun ⟨token, closed, unmatched⟩ => ?_
  have opened := leavesOpen_of_run run
  rw [closed] at opened
  exact ⟨before, l, rest, rfl, token, opened.balanced, unmatched⟩

end ParseState

/-- A token of the text starts here, or the text has tokens up to its end, and it ends here. -/
def TokenStart (text : String) (place : Nat) : Prop :=
  (∃ l ∈ (Reader.ofText text).lexemes.1, l.start = place) ∨
    place = text.length ∧ ∃ ls, tokenize text = .ok (ls, text.length)

/-- An error stands in the text it was found in, where its fault is. -/
structure ParseError.PointsInto (e : ParseError) (text : String) : Prop where
  within : e.offset ≤ text.length
  /-- An error of the characters is the first one that the lexer finds, where it places it. -/
  lexical : ∀ cause, e.lexError? = some cause →
    tokenize text = .error cause ∧ e.offset = cause.offset
  token : e.lexError? = none → TokenStart text e.offset
  /-- The bracket that is not closed is the innermost one: behind it every other has its partner. -/
  unclosed : e.fault = .unclosed → ∃ before l inner,
    tokenize text = .ok (before ++ l :: inner, text.length) ∧ l.token = .leftParen ∧
      l.start = e.offset ∧ Balanced (inner.map (·.token))
  /-- The bracket that closes nothing finds none open: before it every other has its partner. -/
  unmatched : e.fault = .unmatched → ∃ before l rest,
    (Reader.ofText text).lexemes.1 = before ++ l :: rest ∧ l.token = .rightParen ∧
      l.start = e.offset ∧ Balanced (before.map (·.token))

namespace ParseError.PointsInto

variable {text : String} {e : ParseError} {ls : List Lexeme}

theorem of_regional (regional : e.fault.isRegional = true) (within : e.offset ≤ text.length)
    (token : TokenStart text e.offset) : e.PointsInto text := by
  obtain ⟨offset, fault⟩ := e
  cases fault with
  | lexical | unclosed | unmatched => cases regional
  | _ => exact ⟨within, nofun, fun _ => token, nofun, nofun⟩

theorem of_lexical {cause : LexError} (h : tokenize text = .error cause) :
    (ParseError.lexical cause).PointsInto text := by
  have found : (Reader.ofText text).lexemes.2 = .error cause := by
    unfold tokenize at h
    split at h
    · cases h
    · next ls cause' read =>
      cases h
      rw [read]
  have within := (Reader.lexemes_ofText_within text).error cause found
  refine ⟨within, fun cause' same => ?_, nofun, nofun, nofun⟩
  cases same
  exact ⟨h, rfl⟩

theorem of_run (front : ls <+: (Reader.ofText text).lexemes.1)
    (h : ls.foldlM (ParseState.step options) .start = .error e) : e.PointsInto text := by
  obtain ⟨l, member, start⟩ := List.mem_map.mp (offset_of_run h)
  have read := front.subset member
  have within := (Reader.lexemes_ofText_within text).starts l read
  rw [start] at within
  have token : TokenStart text e.offset := .inl ⟨l, read, start⟩
  rcases ParseState.run_error h with regional | ⟨before, l', rest, rfl, right, balanced, rfl⟩
  · exact of_regional regional (Nat.le_of_lt within) token
  · obtain ⟨others, tokens⟩ := front
    refine ⟨Nat.le_of_lt within, nofun, fun _ => token, nofun, fun _ => ?_⟩
    refine ⟨before, l', rest ++ others, ?_, right, rfl, balanced⟩
    rw [← tokens, List.append_assoc, List.cons_append]

theorem of_finish {s : ParseState} (tokens : tokenize text = .ok (ls, text.length))
    (run : ls.foldlM (ParseState.step options) .start = .ok s)
    (h : s.finish options text.length = .error e) : e.PointsInto text := by
  have read := tokenize_eq_ok.mp tokens
  have failed : parseLexemes options ls text.length = .error e :=
    bind_eq_error.mpr (.inr ⟨s, run, bind_eq_error.mpr (.inl h)⟩)
  have place : (∃ l ∈ ls, l.start = e.offset) ∨ e.offset = text.length := by
    simpa using offset_of_parseLexemes failed
  have inside := (Reader.lexemes_ofText_within text).starts
  have token : TokenStart text e.offset := by
    rw [TokenStart, read]
    exact place.imp_right fun last => ⟨last, ls, tokens⟩
  rw [read] at inside
  have within : e.offset ≤ text.length := by
    rcases place with ⟨l, member, start⟩ | last
    · exact start ▸ Nat.le_of_lt (inside l member)
    · exact Nat.le_of_eq last
  rcases ParseState.finish_error h with regional | ⟨places, opened, unclosed⟩
  · exact of_regional regional within token
  · have leaves := ParseState.leavesOpen_of_run run
    rw [opened] at leaves
    obtain ⟨offset, fault⟩ := e
    obtain rfl : fault = .unclosed := unclosed
    obtain ⟨before, l, inner, rfl, left, start, balanced⟩ := leaves.exists_innermost
    exact ⟨within, nofun, fun _ => token,
      fun _ => ⟨before, l, inner, tokens, left, start, balanced⟩, nofun⟩

end ParseError.PointsInto

/-- Every error points into the text: one of the characters where the lexer places it, any other at
a token or at the end, and one about a bracket at that bracket. -/
theorem parse_error_pointsInto {text : String} {e : ParseError}
    (h : parse text options = .error e) : e.PointsInto text := by
  unfold parse at h
  split at h
  · next ls stop read =>
    have tokens := tokenize_eq_ok.mpr read
    obtain rfl : stop = text.length := by
      have inside := Reader.lexemes_ofText_within text
      rw [read] at inside
      exact inside.finish stop rfl
    rcases bind_eq_error.mp h with run | ⟨s, run, h⟩
    · exact .of_run (by rw [read]) run
    · rcases bind_eq_error.mp h with finish | ⟨_, -, h⟩
      · exact .of_finish tokens run finish
      · cases h
  · next ls cause read =>
    rcases bind_eq_error.mp h with run | ⟨s, -, h⟩
    · exact .of_run (by rw [read]; exact List.dropLast_prefix ls) run
    · cases h
      refine .of_lexical ?_
      rw [tokenize, read]

/-- The second bracket is closed, the first and the third are not. -/
theorem parse_error_pointsInto_unclosed :
    parse "(a = 1 AND (b = 2) OR c IN (3" = .error ⟨27, .unclosed⟩ ∧
      ParseError.PointsInto ⟨27, .unclosed⟩ "(a = 1 AND (b = 2) OR c IN (3" := by
  have refused : parse "(a = 1 AND (b = 2) OR c IN (3" = .error ⟨27, .unclosed⟩ := by cbv
  exact ⟨refused, parse_error_pointsInto refused⟩

end RecordFilter
