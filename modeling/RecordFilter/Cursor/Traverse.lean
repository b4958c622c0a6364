import RecordFilter.Cursor.Basic

namespace RecordFilter.Cursor

variable {α σ : Type} {p : Plan α}

def advance (c : Cursor p) (w : World α) : Option (Result α) × Cursor p × World α :=
  advanceBy hasNext next c w

def traverseFrom (step : σ → α → ForInStep σ) :
    Nat → σ → Cursor p → World α → (σ × Option CursorError) × Cursor p × World α
  | 0, s, c, w => ((s, none), c, w)
  | fuel + 1, s, c, w => match c.advance w with
    | (none, c, w) => ((s, none), c, w)
    | (some (.error e), c, w) => ((s, some e), c, w)
    | (some (.ok x), c, w) => match step s x with
      | .done s => ((s, none), c, w)
      | .yield s => traverseFrom step fuel s c w

/-- Feeds items to `step` until it is done, a result is no item, or none is left; that result is
given beside what `step` has reached. -/
def traverse (step : σ → α → ForInStep σ) (s : σ) (c : Cursor p) (w : World α) :
    (σ × Option CursorError) × Cursor p × World α :=
  traverseFrom step (c.remaining w + 1) s c w

def drainFrom : Nat → Cursor p → World α → List (Result α) × Cursor p × World α
  | 0, c, w => ([], c, w)
  | fuel + 1, c, w => match c.advance w with
    | (none, c, w) => ([], c, w)
    | (some r, c, w) =>
      let (rs, c, w) := drainFrom fuel c w
      (r :: rs, c, w)

/-- All results that are left; those that are no items end nothing. -/
def drain (c : Cursor p) (w : World α) : List (Result α) × Cursor p × World α :=
  drainFrom (c.remaining w + 1) c w

end RecordFilter.Cursor
