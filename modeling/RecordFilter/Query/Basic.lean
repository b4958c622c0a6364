import RecordFilter.Cursor.Traverse

namespace RecordFilter

structure Filter (α : Type) where
  label : Option String
  test : α → Outcome

structure Selector (α : Type) where
  label : Option String
  apply : α → α

inductive Source (α : Type) where
  | items (label : Option String) (xs : List α)
  | shared (name : String)
  | query (source : Source α) (filters : List (Filter α)) (selectors : List (Selector α))

/-- A query holds no items of its own: each traversal finds what the source holds then. -/
structure Query (α : Type) where
  source : Source α
  filters : List (Filter α)
  selectors : List (Selector α)

variable {α σ : Type}

namespace Source

/-- The first filter is the innermost; the selectors come after all filters. -/
def plan : Source α → Plan α
  | items label xs => .sequence label xs
  | shared name => .shared name
  | query source filters selectors =>
    let filtered := filters.foldl (fun p f => .filter f.label f.test p) source.plan
    selectors.foldl (fun p s => .map s.label s.apply p) filtered

def label : Source α → Option String
  | items label _ => label
  | shared _ => none
  | query source _ _ => source.label

end Source

namespace Query

def ofSource (source : Source α) : Query α := ⟨source, [], []⟩

def toSource (q : Query α) : Source α := .query q.source q.filters q.selectors

/-- Filters see the items of the source, also when they are added after a selector. -/
def filter (q : Query α) (label : Option String) (test : α → Outcome) : Query α :=
  { q with filters := q.filters ++ [⟨label, test⟩] }

/-- Keeps the items whose record meets a condition; a failing test takes the place of its item. -/
def filterBy (q : Query α) (record : α → Record) (c : Condition) : Query α :=
  q.filter none fun x => c.evaluate (record x)

def select (q : Query α) (label : Option String) (f : α → α) : Query α :=
  { q with selectors := q.selectors ++ [⟨label, f⟩] }

def plan (q : Query α) : Plan α := q.toSource.plan

def start (q : Query α) (w : World α) : Cursor q.plan × World α :=
  (q.plan.start, w.log (.opened q.source.label))

/-- Opens a cursor, traverses it, and closes it however the traversal ended. -/
def traverse (q : Query α) (step : σ → α → ForInStep σ) (s : σ) (w : World α) :
    (σ × Option CursorError) × World α :=
  let (c, w) := q.start w
  let (r, c, w) := c.traverse step s w
  (r, (c.close w).2)

def results (q : Query α) (w : World α) : List (Result α) × World α :=
  let (c, w) := q.start w
  let (rs, c, w) := c.drain w
  (rs, (c.close w).2)

end Query
end RecordFilter
