import RecordFilter.Proofs.Bracket.Balanced
import RecordFilter.Proofs.Parse.Acceptance

namespace RecordFilter

variable {options : ParseOptions} {ls : List Lexeme} {l : Lexeme} {place : Nat}
  {places places' : List Nat}

/-- Brackets in these places are open behind the lexemes, the innermost one first. -/
inductive LeavesOpen : List Lexeme → List Nat → Prop where
  | closed {ls : List Lexeme} (balanced : Balanced (ls.map (·.token))) : LeavesOpen ls []
  | opened {before inner : List Lexeme} {l : Lexeme} {places : List Nat}
      (around : LeavesOpen before places) (token : l.token = .leftParen)
      (balanced : Balanced (inner.map (·.token))) :
      LeavesOpen (before ++ l :: inner) (l.start :: places)

/-- What a lexeme does to the places of the brackets that are open. -/
inductive Lexeme.Shifts (l : Lexeme) : List Nat → List Nat → Prop where
  | opens {places : List Nat} (token : l.token = .leftParen) : l.Shifts places (l.start :: places)
  | closes {place : Nat} {places : List Nat} (token : l.token = .rightParen) :
      l.Shifts (place :: places) places
  | stays {places : List Nat} (left : l.token ≠ .leftParen) (right : l.token ≠ .rightParen) :
      l.Shifts places places

namespace LeavesOpen

theorem append_balanced {more : List Lexeme} (h : LeavesOpen ls places)
    (balanced : Balanced (more.map (·.token))) : LeavesOpen (ls ++ more) places := by
  cases h with
  | closed first =>
    refine .closed ?_
    rw [List.map_append]
    exact first.append balanced
  | opened around token inner =>
    rw [List.append_assoc, List.cons_append]
    refine .opened around token ?_
    rw [List.map_append]
    exact inner.append balanced

theorem shift (h : LeavesOpen ls places) (shifts : l.Shifts places places') :
    LeavesOpen (ls ++ [l]) places' := by
  cases shifts with
  | opens token => exact .opened h token .nil
  | closes token =>
    cases h with
    | @opened before inner l₀ _ around left balanced =>
      have pair : Balanced ((l₀ :: (inner ++ [l])).map (·.token)) := by
        rw [List.map_cons, List.map_append, left, List.map_singleton, token]
        exact .bracketed balanced
      rw [List.append_assoc, List.cons_append]
      exact around.append_balanced pair
  | stays left right => exact h.append_balanced (.token left right)

/-- Behind the innermost bracket that is open every bracket has its partner. -/
theorem exists_innermost (h : LeavesOpen ls (place :: places)) :
    ∃ before l inner, ls = before ++ l :: inner ∧ l.token = .leftParen ∧ l.start = place ∧
      Balanced (inner.map (·.token)) := by
  cases h with
  | opened around token balanced => exact ⟨_, _, _, rfl, token, rfl, balanced⟩

theorem balanced (h : LeavesOpen ls []) : Balanced (ls.map (·.token)) := by
  cases h with
  | closed balanced => exact balanced

end LeavesOpen

namespace ParseState

def openPlaces (s : ParseState) : List Nat :=
  (s.list.map (·.start)).toList ++ s.outer.map (·.start)

variable {s s' : ParseState}

theorem leftParen_shifts (free : s.list = none) (token : l.token = .leftParen)
    (h : s.leftParen options l.start = .ok s') : l.Shifts s.openPlaces s'.openPlaces := by
  obtain ⟨r, outer, list, brackets⟩ := s
  obtain rfl : list = none := free
  have opens : s'.openPlaces = l.start :: outer.map (·.start) := by
    cases expects : r.expectsOperand with
    | true =>
      rw [leftParen_list expects] at h
      split at h <;> cases h
      rfl
    | false =>
      rw [leftParen_group expects] at h
      split at h <;> cases h
      rfl
  rw [opens]
  exact .opens token

theorem rightParen_shifts (free : s.list = none) (token : l.token = .rightParen)
    (h : s.rightParen options l.start = .ok s') : l.Shifts s.openPlaces s'.openPlaces := by
  obtain ⟨r, outer, list, brackets⟩ := s
  obtain rfl : list = none := free
  cases outer with
  | nil => cases h
  | cons group outer =>
    rw [rightParen_cons] at h
    obtain ⟨e, -, h⟩ := bind_eq_ok.mp h
    obtain ⟨r', -, h⟩ := bind_eq_ok.mp h
    cases h
    exact .closes token

theorem inRegion_shifts (free : s.list = none)
    (h : s.inRegion options l.token l.start = .ok s') : l.Shifts s.openPlaces s'.openPlaces := by
  have go {push : Except ParseError Region} (left : l.token ≠ .leftParen)
      (right : l.token ≠ .rightParen)
      (h : push.map (fun region => { s with region }) = .ok s') :
      l.Shifts s.openPlaces s'.openPlaces := by
    obtain ⟨region, -, rfl⟩ := map_eq_ok.mp h
    exact .stays left right
  obtain ⟨t, start, stop⟩ := l
  cases t with
  | leftParen => exact leftParen_shifts free rfl h
  | rightParen => exact rightParen_shifts free rfl h
  | comma => cases h
  | _ => exact go nofun nofun h

theorem inList_shifts {list : OpenList} (reading : s.list = some list)
    (h : s.inList options list l.token l.start = .ok s') :
    l.Shifts s.openPlaces s'.openPlaces := by
  obtain ⟨r, outer, _, brackets⟩ := s
  obtain rfl := reading
  have go {list' : OpenList} (left : l.token ≠ .leftParen) (right : l.token ≠ .rightParen)
      (h : (.ok ⟨r, outer, some list', brackets⟩ : Except ParseError ParseState) = .ok s')
      (same : list'.start = list.start) :
      l.Shifts (openPlaces ⟨r, outer, some list, brackets⟩) s'.openPlaces := by
    cases h
    have stays : openPlaces ⟨r, outer, some list', brackets⟩ =
        openPlaces ⟨r, outer, some list, brackets⟩ := by
      simp [openPlaces, same]
    rw [stays]
    exact .stays left right
  unfold inList at h
  split at h
  · cases h
  · cases h
  · next notLeft =>
    split at h
    · next closing =>
      obtain ⟨r', -, h⟩ := bind_eq_ok.mp h
      cases h
      exact .closes closing.1
    · split at h
      · split at h
        · next x value =>
          refine go notLeft ?_ h rfl
          intro right
          rw [right] at value
          cases value
        · cases h
      · split at h
        · next comma => exact go notLeft (by simp [comma]) h rfl
        · cases h

theorem step_shifts (h : step options s l = .ok s') : l.Shifts s.openPlaces s'.openPlaces := by
  unfold step at h
  split at h
  · next list reading => exact inList_shifts reading h
  · next free => exact inRegion_shifts free h

/-- The parser knows what its tokens leave open. -/
theorem run_leavesOpen {before : List Lexeme} (opened : LeavesOpen before s.openPlaces)
    (h : ls.foldlM (step options) s = .ok s') : LeavesOpen (before ++ ls) s'.openPlaces := by
  induction ls generalizing before s with
  | nil =>
    cases h
    rwa [List.append_nil]
  | cons l ls ih =>
    rw [List.foldlM_cons] at h
    obtain ⟨s₁, stepped, h⟩ := bind_eq_ok.mp h
    have later := ih (opened.shift (step_shifts stepped)) h
    rwa [List.append_assoc] at later

/-- From its start it knows all that is open. -/
theorem leavesOpen_of_run (h : ls.foldlM (step options) .start = .ok s) :
    LeavesOpen ls s.openPlaces := by
  have nothing : LeavesOpen [] start.openPlaces := .closed .nil
  exact run_leavesOpen nothing h

end ParseState
end RecordFilter
