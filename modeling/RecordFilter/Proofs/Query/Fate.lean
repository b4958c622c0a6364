import RecordFilter.Proofs.Cursor.Script
import RecordFilter.Query.Aggregate

namespace RecordFilter

variable {α σ : Type}

def judgeAll (tests : List (α → Outcome)) (r : Result α) : Option (Result α) :=
  tests.foldl (fun r test => r.bind (judge test)) (some r)

theorem foldl_bind_judge (tests : List (α → Outcome)) (o : Option (Result α)) :
    tests.foldl (fun r test => r.bind (judge test)) o = o.bind (judgeAll tests) := by
  cases o with
  | some r => rfl
  | none =>
    induction tests with
    | nil => rfl
    | cons test tests ih => exact ih

theorem judgeAll_cons (test : α → Outcome) (tests : List (α → Outcome)) (r : Result α) :
    judgeAll (test :: tests) r = (judge test r).bind (judgeAll tests) :=
  foldl_bind_judge tests (judge test r)

namespace Filter

def ofCondition (record : α → Record) (c : Condition) : Filter α :=
  ⟨none, fun x => c.evaluate (record x)⟩

theorem judge_ofCondition (record : α → Record) (c : Condition) (x : α) :
    judge (ofCondition record c).test (.ok x) = match c.fit (record x) with
      | .ok true => some (.ok x)
      | .ok false => none
      | .error e => some (.error (.test e)) := rfl

end Filter

/-- The results of putting a source's contents to tests, and then what passes to functions. -/
def denote (tests : List (α → Outcome)) (functions : List (α → α)) (contents : List (Result α)) :
    List (Result α) :=
  (contents.filterMap (judgeAll tests)).map (·.map fun x => functions.foldl (fun x f => f x) x)

theorem denote_nil (tests : List (α → Outcome)) (contents : List (Result α)) :
    denote tests [] contents = contents.filterMap (judgeAll tests) := by
  have same : (·.map fun x => x : Result α → Result α) = id := by
    funext r
    cases r <;> rfl
  simp only [denote, List.foldl_nil, same, List.map_id]

/-- What a source holds. -/
def Source.contents (vectors : String → List α) : Source α → List (Result α)
  | items _ xs => xs.map .ok
  | shared name => (vectors name).map .ok
  | query source filters selectors =>
    denote (filters.map (·.test)) (selectors.map (·.apply)) (source.contents vectors)

/-- What is done to an item of a source, and what becomes of it: nothing, if it does not pass. -/
structure Fate (α : Type) where
  events : List Event
  result : Option (Result α)

namespace Fate

def sift (label : Option String) (test : α → Outcome) (fate : Fate α) : Fate α :=
  match fate.result with
  | some (.ok x) => ⟨fate.events ++ testEvents label (test x), judge test (.ok x)⟩
  | _ => fate

def map (label : Option String) (f : α → α) (fate : Fate α) : Fate α :=
  match fate.result with
  | some (.ok x) => ⟨fate.events ++ [.mapped label], some (.ok (f x))⟩
  | _ => fate

def process (filters : List (Filter α)) (selectors : List (Selector α)) (fate : Fate α) : Fate α :=
  selectors.foldl (fun fate s => fate.map s.label s.apply)
    (filters.foldl (fun fate f => fate.sift f.label f.test) fate)

theorem result_sift (label : Option String) (test : α → Outcome) (fate : Fate α) :
    (fate.sift label test).result = fate.result.bind (judge test) := by
  obtain ⟨events, result⟩ := fate
  rcases result with _ | _ | _ <;> rfl

theorem result_map (label : Option String) (f : α → α) (fate : Fate α) :
    (fate.map label f).result = fate.result.map (·.map f) := by
  obtain ⟨events, result⟩ := fate
  rcases result with _ | _ | _ <;> rfl

theorem result_foldl_sift (filters : List (Filter α)) (fate : Fate α) :
    (filters.foldl (fun fate f => fate.sift f.label f.test) fate).result =
      fate.result.bind (judgeAll (filters.map (·.test))) := by
  induction filters generalizing fate with
  | nil =>
    obtain ⟨events, result⟩ := fate
    cases result <;> rfl
  | cons f filters ih =>
    rw [List.foldl_cons, ih, result_sift, Option.bind_assoc]
    congr 1
    funext r
    exact (judgeAll_cons _ _ r).symm

theorem result_foldl_map (selectors : List (Selector α)) (fate : Fate α) :
    (selectors.foldl (fun fate s => fate.map s.label s.apply) fate).result =
      fate.result.map (·.map fun x => (selectors.map (·.apply)).foldl (fun x f => f x) x) := by
  induction selectors generalizing fate with
  | nil =>
    obtain ⟨events, result⟩ := fate
    rcases result with _ | _ | _ <;> rfl
  | cons s selectors ih =>
    rw [List.foldl_cons, ih, result_map]
    rcases fate.result with _ | _ | _ <;> rfl

theorem result_process (filters : List (Filter α)) (selectors : List (Selector α))
    (fate : Fate α) :
    (fate.process filters selectors).result =
      (fate.result.bind (judgeAll (filters.map (·.test)))).map
        (·.map fun x => (selectors.map (·.apply)).foldl (fun x f => f x) x) := by
  rw [process, result_foldl_map, result_foldl_sift]

end Fate

namespace Source

def fates (vectors : String → List α) : Source α → List (Fate α)
  | items label xs => xs.map fun x => ⟨[.pulled label], some (.ok x)⟩
  | shared name => (vectors name).map fun x => ⟨[.pulled none], some (.ok x)⟩
  | query source filters selectors => (source.fates vectors).map (·.process filters selectors)

def ending : Source α → List Event
  | items label _ => [.pulled label]
  | shared _ => []
  | query source _ _ => source.ending

theorem filterMap_fates (vectors : String → List α) (source : Source α) :
    (source.fates vectors).filterMap (·.result) = source.contents vectors := by
  induction source with
  | items label xs => simp [fates, contents]
  | shared name => simp [fates, contents]
  | query source filters selectors ih =>
    simp only [fates, contents, denote, ← ih, List.filterMap_map, List.filterMap_filterMap,
      List.map_filterMap, Function.comp_def, Fate.result_process]

end Source

namespace Script

/-- Items one after the other. What is done to those that nothing becomes of comes before what is
done to the next. -/
def ofFates (last : List Event) : List (Fate α) → Script α
  | [] => finish last
  | fate :: fates => match fate.result with
    | none => (ofFates last fates).after fate.events
    | some r => deliver fate.events r (ofFates last fates)

theorem sift_after (label : Option String) (test : α → Outcome) (before : List Event)
    (s : Script α) : (s.after before).sift label test = (s.sift label test).after before := by
  cases s with
  | finish events => rfl
  | deliver events r rest =>
    cases r with
    | error e => rfl
    | ok x =>
      cases judged : judge test (.ok x) <;> simp [sift, judged, after_after]

theorem map_after (label : Option String) (f : α → α) (before : List Event) (s : Script α) :
    (s.after before).map label f = (s.map label f).after before := by
  cases s with
  | finish events => rfl
  | deliver events r rest => cases r <;> simp [map]

theorem sift_ofFates (label : Option String) (test : α → Outcome) (last : List Event)
    (fates : List (Fate α)) :
    (ofFates last fates).sift label test = ofFates last (fates.map (·.sift label test)) := by
  induction fates with
  | nil => rfl
  | cons fate fates ih =>
    obtain ⟨events, result⟩ := fate
    rcases result with _ | e | x
    · simp [ofFates, Fate.sift, sift_after, ih]
    · simp [ofFates, Fate.sift, sift, ih]
    · cases judged : judge test (.ok x) <;> simp [ofFates, Fate.sift, sift, ih, judged]

theorem map_ofFates (label : Option String) (f : α → α) (last : List Event)
    (fates : List (Fate α)) :
    (ofFates last fates).map label f = ofFates last (fates.map (·.map label f)) := by
  induction fates with
  | nil => rfl
  | cons fate fates ih =>
    obtain ⟨events, result⟩ := fate
    rcases result with _ | e | x
    · simp [ofFates, Fate.map, map_after, ih]
    · simp [ofFates, Fate.map, map, ih]
    · simp [ofFates, Fate.map, map, ih]

theorem results_ofFates (last : List Event) (fates : List (Fate α)) :
    (ofFates last fates).results = fates.filterMap (·.result) := by
  induction fates with
  | nil => rfl
  | cons fate fates ih =>
    obtain ⟨events, result⟩ := fate
    cases result <;> simp [ofFates, results, ih]

theorem foldl_sift_ofFates (filters : List (Filter α)) (last : List Event)
    (fates : List (Fate α)) :
    filters.foldl (fun s f => s.sift f.label f.test) (ofFates last fates) =
      ofFates last
        (fates.map fun fate => filters.foldl (fun fate f => fate.sift f.label f.test) fate) := by
  induction filters generalizing fates with
  | nil => simp
  | cons f filters ih => simp [sift_ofFates, ih, Function.comp_def]

theorem foldl_map_ofFates (selectors : List (Selector α)) (last : List Event)
    (fates : List (Fate α)) :
    selectors.foldl (fun s g => s.map g.label g.apply) (ofFates last fates) =
      ofFates last
        (fates.map fun fate => selectors.foldl (fun fate s => fate.map s.label s.apply) fate) := by
  induction selectors generalizing fates with
  | nil => simp
  | cons s selectors ih => simp [map_ofFates, ih, Function.comp_def]

theorem ofFates_pulls {items : List α} (pull : Event) (last : List Event) :
    ofFates last (items.map fun x => ⟨[pull], some (.ok x)⟩) = ofItems pull last items := by
  induction items with
  | nil => rfl
  | cons x items ih => simp [ofFates, ofItems_cons, ih]

end Script

def Plan.sourceLabel : Plan α → Option String
  | sequence label _ => label
  | filter _ _ inner => inner.sourceLabel
  | map _ _ inner => inner.sourceLabel
  | _ => none

namespace Cursor

variable {vectors : String → List α}

theorem acts_foldl_filter (filters : List (Filter α)) {p : Plan α} {s : Script α}
    (h : Acts vectors p.start s) :
    Acts vectors (filters.foldl (fun p f => .filter f.label f.test p) p).start
      (filters.foldl (fun s f => s.sift f.label f.test) s) := by
  induction filters generalizing p s with
  | nil => exact h
  | cons f filters ih => exact ih (.filter h)

theorem acts_foldl_map (selectors : List (Selector α)) {p : Plan α} {s : Script α}
    (h : Acts vectors p.start s) :
    Acts vectors (selectors.foldl (fun p g => .map g.label g.apply p) p).start
      (selectors.foldl (fun s g => s.map g.label g.apply) s) := by
  induction selectors generalizing p s with
  | nil => exact h
  | cons g selectors ih => exact ih (.map h)

/-- A new cursor over a source goes through the fates of the items. -/
theorem acts_start (source : Source α) :
    Acts vectors source.plan.start (.ofFates source.ending (source.fates vectors)) := by
  induction source with
  | items label xs =>
    rw [Source.fates, Script.ofFates_pulls]
    exact .sequence (.unread xs)
  | shared name =>
    rw [Source.fates, Script.ofFates_pulls]
    exact .shared 0 none
  | query source filters selectors ih =>
    have processed : (source.fates vectors).map (·.process filters selectors) =
        ((source.fates vectors).map fun fate =>
          filters.foldl (fun fate f => fate.sift f.label f.test) fate).map fun fate =>
            selectors.foldl (fun fate s => fate.map s.label s.apply) fate := by
      simp [Fate.process]
    rw [Source.fates, Source.ending, processed, ← Script.foldl_map_ofFates,
      ← Script.foldl_sift_ofFates]
    exact acts_foldl_map selectors (acts_foldl_filter filters ih)

theorem results_plan (source : Source α) :
    source.plan.results vectors = source.contents vectors := by
  rw [← pending_start, ← (acts_start source).results_eq, Script.results_ofFates,
    Source.filterMap_fates]

theorem Acts.close_eq {p : Plan α} {c : Cursor p} {s : Script α} (h : Acts vectors c s)
    (w : World α) : (c.close w).2 = w.log (.closed p.sourceLabel) := by
  induction h with
  | sequence feed => rfl
  | shared index current => rfl
  | filter h ih => exact ih
  | found r h ih => exact ih
  | map h ih => exact ih

end Cursor

theorem Source.sourceLabel_plan (source : Source α) : source.plan.sourceLabel = source.label := by
  have filtered (filters : List (Filter α)) (p : Plan α) :
      (filters.foldl (fun p f => .filter f.label f.test p) p).sourceLabel = p.sourceLabel := by
    induction filters generalizing p with
    | nil => rfl
    | cons f filters ih => exact ih (.filter f.label f.test p)
  have mapped (selectors : List (Selector α)) (p : Plan α) :
      (selectors.foldl (fun p s => .map s.label s.apply p) p).sourceLabel = p.sourceLabel := by
    induction selectors generalizing p with
    | nil => rfl
    | cons s selectors ih => exact ih (.map s.label s.apply p)
  induction source with
  | items label xs => rfl
  | shared name => rfl
  | query source filters selectors ih =>
    exact (mapped selectors _).trans ((filtered filters _).trans ih)

namespace Query

/-- A traversal of a query opens its source, goes through the fates of the items as far as it needs
them, and closes the source. -/
theorem traverse_eq (q : Query α) (step : σ → α → ForInStep σ) (a : σ) (w : World α) :
    q.traverse step a w =
      ((consume step a (q.toSource.contents w.vectors)).1,
        w.logAll (.opened q.source.label ::
          ((Script.ofFates q.toSource.ending (q.toSource.fates w.vectors)).spend step a).1 ++
            [.closed q.source.label])) := by
  have began : Cursor.Acts w.vectors q.toSource.plan.start _ := Cursor.acts_start q.toSource
  obtain ⟨c, went, acts⟩ := began.traverse_eq (w := w.log (.opened q.source.label)) step a rfl
  rw [Script.results_ofFates, Source.filterMap_fates] at went
  have closed : ∀ w, (c.close w).2 = w.log (.closed q.source.label) := by
    intro w
    rw [acts.close_eq, Source.sourceLabel_plan]
    rfl
  have went' : q.plan.start.traverse step a (w.log (.opened q.source.label)) = _ := went
  simp only [traverse, start, went']
  refine congrArg (Prod.mk _) ((closed _).trans ?_)
  simp [World.log_eq]

end Query
end RecordFilter
