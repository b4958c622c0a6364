import RecordFilter.Query.Basic

namespace RecordFilter.Query

variable {α σ : Type}

def aggregate (q : Query α) (step : σ → α → ForInStep σ) (s : σ) (w : World α) :
    Result σ × World α :=
  match q.traverse step s w with
  | ((s, none), w) => (.ok s, w)
  | ((_, some e), w) => (.error e, w)

def count (q : Query α) (w : World α) : Result Nat × World α :=
  q.aggregate (fun n _ => .yield (n + 1)) 0 w

def first? (q : Query α) (w : World α) : Result (Option α) × World α :=
  q.aggregate (fun _ x => .done (some x)) none w

def any (q : Query α) (test : α → Bool) (w : World α) : Result Bool × World α :=
  q.aggregate (fun _ x => if test x then .done true else .yield false) false w

def all (q : Query α) (test : α → Bool) (w : World α) : Result Bool × World α :=
  q.aggregate (fun _ x => if test x then .yield true else .done false) true w

def toList (q : Query α) (w : World α) : Result (List α) × World α :=
  let (r, w) := q.aggregate (fun xs x => .yield (x :: xs)) [] w
  (r.map List.reverse, w)

/-- The first of the items that no later one is better than. -/
def best? (q : Query α) (better : α → α → Bool) (w : World α) : Result (Option α) × World α :=
  q.aggregate (fun best x => .yield (match best with
    | none => some x
    | some y => if better x y then some x else some y)) none w

/-- The least item. One that has no order with the least so far does not take its place. -/
def least? (q : Query α) (order : α → α → Option Ordering) (w : World α) :
    Result (Option α) × World α :=
  q.best? (fun x y => order x y == some .lt) w

def greatest? (q : Query α) (order : α → α → Option Ordering) (w : World α) :
    Result (Option α) × World α :=
  q.best? (fun x y => order x y == some .gt) w

end RecordFilter.Query
