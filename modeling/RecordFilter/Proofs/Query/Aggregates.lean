import RecordFilter.Proofs.Query.Fate

namespace RecordFilter

variable {α σ : Type}

/-- An end of a search: a result that is no item, or an item that passes. -/
def settles (test : α → Bool) : Result α → Bool
  | .error _ => true
  | .ok x => test x

/-- The first of the items that come before or level with all of them. -/
def earliestLeast? (cmp : α → α → Ordering) (items : List α) : Option α :=
  items.find? fun x => items.all fun y => (cmp x y).isLE

/-- One item more than those of which `best` is the earliest least one. -/
def keepLeast (cmp : α → α → Ordering) (best : Option α) (x : α) : Option α :=
  match best with
  | none => some x
  | some y => if cmp x y == .lt then some x else some y

section Least

variable {cmp : α → α → Ordering}

theorem earliestLeast?_eq_some {before after : List α} {x : α}
    [Std.TransCmp cmp] (above : ∀ y ∈ before, cmp x y = .lt)
    (level : ∀ y ∈ after, (cmp x y).isLE) :
    earliestLeast? cmp (before ++ x :: after) = some x := by
  refine List.find?_eq_some_iff_append.mpr ⟨?_, before, after, rfl, fun y member => ?_⟩
  · refine List.all_eq_true.mpr fun y member => ?_
    rcases List.mem_append.mp member with h | h
    · simp [above y h]
    · rcases List.mem_cons.mp h with rfl | h
      · simp [Std.ReflCmp.compare_self]
      · exact level y h
  · have greater : cmp y x = .gt := Std.OrientedCmp.gt_iff_lt.mpr (above y member)
    simp [greater]

theorem foldl_keepLeast_some [Std.TransCmp cmp] {before after : List α} {x : α}
    (above : ∀ y ∈ before, cmp x y = .lt) (level : ∀ y ∈ after, (cmp x y).isLE)
    (items : List α) :
    items.foldl (keepLeast cmp) (some x) = earliestLeast? cmp (before ++ x :: after ++ items) := by
  induction items generalizing before x after with
  | nil => rw [List.append_nil, earliestLeast?_eq_some above level, List.foldl_nil]
  | cons z items ih =>
    by_cases less : cmp z x = .lt
    · have least : ∀ y ∈ before ++ x :: after, cmp z y = .lt := by
        intro y member
        rcases List.mem_append.mp member with h | h
        · exact Std.TransCmp.lt_trans less (above y h)
        · rcases List.mem_cons.mp h with rfl | h
          · exact less
          · exact Std.TransCmp.lt_of_lt_of_isLE less (level y h)
      have rest := ih least (List.forall_mem_nil _)
      simpa [keepLeast, less] using rest
    · have stays : (cmp x z).isLE := by
        cases order : cmp x z with
        | gt => exact absurd (Std.OrientedCmp.gt_iff_lt.mp order) less
        | _ => rfl
      have levels : ∀ y ∈ after ++ [z], (cmp x y).isLE := by
        intro y member
        rcases List.mem_append.mp member with h | h
        · exact level y h
        · exact List.mem_singleton.mp h ▸ stays
      have rest := ih above levels
      simpa [keepLeast, less] using rest

/-- Keeping the best item from left to right ends with the earliest least one. -/
theorem foldl_keepLeast [Std.TransCmp cmp] (items : List α) :
    items.foldl (keepLeast cmp) none = earliestLeast? cmp items := by
  cases items with
  | nil => rfl
  | cons x items =>
    have above : ∀ y ∈ [], cmp x y = .lt := List.forall_mem_nil _
    have level : ∀ y ∈ [], (cmp x y).isLE := List.forall_mem_nil _
    exact foldl_keepLeast_some above level items

end Least

theorem consume_yield (f : σ → α → σ) (s : σ) (results : List (Result α)) :
    (match consume (fun s x => .yield (f s x)) s results with
      | ((s, none), _) => .ok s
      | ((_, some e), _) => .error e) = (results.mapM id).map (·.foldl f s) := by
  induction results generalizing s with
  | nil => rfl
  | cons r results ih =>
    cases r with
    | error e => rfl
    | ok x =>
      rw [consume, ih, List.mapM_cons]
      cases results.mapM id <;> rfl

theorem consume_search {step : σ → α → ForInStep σ} {test : α → Bool} {found : α → σ} {s : σ}
    (done : ∀ s x, test x = true → step s x = .done (found x))
    (yields : ∀ s' x, test x = false → step s' x = .yield s) (results : List (Result α)) :
    (match consume step s results with
      | ((s, none), _) => .ok s
      | ((_, some e), _) => .error e) =
      ((results.find? (settles test)).elim (.ok s) (·.map found) : Result σ) := by
  induction results with
  | nil => rfl
  | cons r results ih =>
    cases r with
    | error e => rfl
    | ok x =>
      cases passes : test x with
      | true => simp [consume, settles, passes, done, Except.map]
      | false => simp [consume, settles, passes, yields, ih]

namespace Fate

/-- What is done to the items up to the first one whose fate settles a search, or to all of them
and then to find that there are no more. -/
def eventsUntil (settled : Result α → Bool) (last : List Event) : List (Fate α) → List Event
  | [] => last
  | fate :: fates => fate.events ++
      if fate.result.any settled then [] else eventsUntil settled last fates

theorem eventsUntil_append {settled : Result α → Bool} {before : List (Fate α)} {fate : Fate α}
    (last : List Event) (after : List (Fate α))
    (unsettled : ∀ fate ∈ before, fate.result.any settled = false)
    (settles : fate.result.any settled = true) :
    eventsUntil settled last (before ++ fate :: after) =
      (before ++ [fate]).flatMap (·.events) := by
  induction before with
  | nil => simp [eventsUntil, settles]
  | cons b before ih =>
    have first : b.result.any settled = false := unsettled b List.mem_cons_self
    have later := ih fun fate member => unsettled fate (List.mem_cons_of_mem _ member)
    simpa [eventsUntil, first] using later

theorem eventsUntil_of_unsettled {settled : Result α → Bool} {fates : List (Fate α)}
    (last : List Event) (unsettled : ∀ fate ∈ fates, fate.result.any settled = false) :
    eventsUntil settled last fates = fates.flatMap (·.events) ++ last := by
  induction fates with
  | nil => rfl
  | cons fate fates ih =>
    have first : fate.result.any settled = false := unsettled fate List.mem_cons_self
    have later := ih fun fate member => unsettled fate (List.mem_cons_of_mem _ member)
    simp [eventsUntil, first, later]

theorem mem_eventsUntil {settled : Result α → Bool} {last : List Event} {fates : List (Fate α)}
    {e : Event} (h : e ∈ eventsUntil settled last fates) :
    e ∈ last ∨ ∃ fate ∈ fates, e ∈ fate.events := by
  induction fates with
  | nil => exact .inl h
  | cons fate fates ih =>
    rcases List.mem_append.mp h with h | h
    · exact .inr ⟨fate, List.mem_cons_self, h⟩
    · split at h
      · cases h
      · rcases ih h with h | ⟨fate', member, h⟩
        · exact .inl h
        · exact .inr ⟨fate', List.mem_cons_of_mem _ member, h⟩

end Fate

/-- Openings and closings are done to a source, all else to its items. -/
def Event.isBoundary : Event → Bool
  | opened _ => true
  | closed _ => true
  | _ => false

namespace Fate

/-- Nothing is opened or closed on the way. -/
def StaysInside (fate : Fate α) : Prop := ∀ e ∈ fate.events, e.isBoundary = false

theorem StaysInside.sift (label : Option String) (test : α → Outcome) {fate : Fate α}
    (h : fate.StaysInside) : (fate.sift label test).StaysInside := by
  obtain ⟨events, result⟩ := fate
  rcases result with _ | _ | x
  · exact h
  · exact h
  · intro e member
    rcases List.mem_append.mp member with member | member
    · exact h e member
    · rcases List.mem_cons.mp member with rfl | member
      · rfl
      · obtain ⟨field, -, rfl⟩ := List.mem_map.mp member
        rfl

theorem StaysInside.map (label : Option String) (f : α → α) {fate : Fate α}
    (h : fate.StaysInside) : (fate.map label f).StaysInside := by
  obtain ⟨events, result⟩ := fate
  rcases result with _ | _ | x
  · exact h
  · exact h
  · intro e member
    rcases List.mem_append.mp member with member | member
    · exact h e member
    · exact List.mem_singleton.mp member ▸ rfl

theorem StaysInside.process (filters : List (Filter α)) (selectors : List (Selector α))
    {fate : Fate α} (h : fate.StaysInside) : (fate.process filters selectors).StaysInside := by
  have sifted := List.foldlRecOn filters (motive := StaysInside)
    (fun fate f => fate.sift f.label f.test) h fun _ h f _ => h.sift f.label f.test
  exact List.foldlRecOn selectors (motive := StaysInside) (fun fate s => fate.map s.label s.apply)
    sifted fun _ h s _ => h.map s.label s.apply

end Fate

namespace Source

theorem staysInside_of_mem_fates (vectors : String → List α) (source : Source α) :
    ∀ fate ∈ source.fates vectors, fate.StaysInside := by
  induction source with
  | items label xs => simp [fates, Fate.StaysInside, Event.isBoundary]
  | shared name => simp [fates, Fate.StaysInside, Event.isBoundary]
  | query source filters selectors ih =>
    intro processed member
    obtain ⟨fate, inner, rfl⟩ := List.mem_map.mp member
    exact (ih fate inner).process filters selectors

theorem isBoundary_of_mem_ending (source : Source α) :
    ∀ e ∈ source.ending, e.isBoundary = false := by
  induction source with
  | items label xs => simp [ending, Event.isBoundary]
  | shared name => simp [ending]
  | query source filters selectors ih => exact ih

end Source

namespace Script

theorem spend_after (step : σ → α → ForInStep σ) (s : σ) (before : List Event)
    (script : Script α) :
    ((script.after before).spend step s).1 = before ++ (script.spend step s).1 := by
  cases script with
  | finish events => rfl
  | deliver events r rest =>
    cases r with
    | error e => rfl
    | ok x => cases taken : step s x <;> simp [spend, taken]

/-- A traversal that is done with the items that pass goes through the fates up to the first such
item. -/
theorem spend_ofFates {step : σ → α → ForInStep σ} (test : α → Bool)
    (done : ∀ s x, test x = true → ∃ s', step s x = .done s')
    (yields : ∀ s x, test x = false → ∃ s', step s x = .yield s') (s : σ) (last : List Event)
    (fates : List (Fate α)) :
    ((ofFates last fates).spend step s).1 = Fate.eventsUntil (settles test) last fates := by
  induction fates generalizing s with
  | nil => rfl
  | cons fate fates ih =>
    obtain ⟨events, result⟩ := fate
    rcases result with _ | e | x
    · simp [ofFates, spend_after, Fate.eventsUntil, ih]
    · simp [ofFates, spend, Fate.eventsUntil, settles]
    · cases passes : test x with
      | true =>
        obtain ⟨s', taken⟩ := done s x passes
        simp [ofFates, spend, Fate.eventsUntil, settles, taken, passes]
      | false =>
        obtain ⟨s', taken⟩ := yields s x passes
        simp [ofFates, spend, Fate.eventsUntil, settles, taken, passes, ih]

end Script

namespace Query

def searched (q : Query α) (test : α → Bool) (w : World α) : World α :=
  w.logAll (.opened q.source.label ::
    Fate.eventsUntil (settles test) q.toSource.ending (q.toSource.fates w.vectors) ++
      [.closed q.source.label])

variable (q : Query α) (w : World α)

theorem aggregate_yield (f : σ → α → σ) (s : σ) :
    q.aggregate (fun s x => .yield (f s x)) s w =
      (((q.toSource.contents w.vectors).mapM id).map (·.foldl f s),
        q.searched (fun _ => false) w) := by
  have answer := consume_yield f s (q.toSource.contents w.vectors)
  have yields (s : σ) (x : α) : ∃ s', (.yield (f s x) : ForInStep σ) = .yield s' := ⟨_, rfl⟩
  have events := Script.spend_ofFates (fun _ => false) (fun _ _ passes => nomatch passes)
    (fun s x _ => yields s x) s q.toSource.ending (q.toSource.fates w.vectors)
  rw [← answer, aggregate, traverse_eq, events]
  rcases consume (fun s x => .yield (f s x)) s (q.toSource.contents w.vectors) with
    ⟨⟨s', _ | e⟩, rest⟩ <;> rfl

theorem aggregate_search {step : σ → α → ForInStep σ} (test : α → Bool) (found : α → σ) {s : σ}
    (done : ∀ s x, test x = true → step s x = .done (found x))
    (yields : ∀ s' x, test x = false → step s' x = .yield s) :
    q.aggregate step s w =
      (((q.toSource.contents w.vectors).find? (settles test)).elim (.ok s) (·.map found),
        q.searched test w) := by
  have answer := consume_search done yields (q.toSource.contents w.vectors)
  have events := Script.spend_ofFates test (fun s x passes => ⟨_, done s x passes⟩)
    (fun s x fails => ⟨_, yields s x fails⟩) s q.toSource.ending (q.toSource.fates w.vectors)
  rw [← answer, aggregate, traverse_eq, events]
  rcases consume step s (q.toSource.contents w.vectors) with ⟨⟨s', _ | e⟩, rest⟩ <;> rfl

theorem count_eq : q.count w =
    (((q.toSource.contents w.vectors).mapM id).map List.length, q.searched (fun _ => false) w) := by
  have length (items : List α) : items.foldl (fun n _ => n + 1) 0 = items.length := by
    simp
  simp only [count, aggregate_yield, length]

theorem toList_eq : q.toList w =
    ((q.toSource.contents w.vectors).mapM id, q.searched (fun _ => false) w) := by
  simp only [toList, aggregate_yield]
  cases (q.toSource.contents w.vectors).mapM id with
  | error e => rfl
  | ok items => simp [Except.map]

theorem first?_eq : q.first? w =
    ((q.toSource.contents w.vectors).head?.elim (.ok none) (·.map some),
      q.searched (fun _ => true) w) := by
  have head : (q.toSource.contents w.vectors).find? (settles fun _ => true) =
      (q.toSource.contents w.vectors).head? := by
    rcases q.toSource.contents w.vectors with _ | ⟨_ | _, _⟩ <;> rfl
  rw [← head]
  exact q.aggregate_search w (fun _ => true) some (fun _ _ _ => rfl) (by simp)

theorem any_eq (test : α → Bool) : q.any test w =
    (((q.toSource.contents w.vectors).find? (settles test)).elim (.ok false) (·.map fun _ => true),
      q.searched test w) :=
  q.aggregate_search w test (fun _ => true) (fun _ _ passes => if_pos passes)
    fun _ _ fails => by simp [fails]

theorem all_eq (test : α → Bool) : q.all test w =
    (((q.toSource.contents w.vectors).find? (settles (!test ·))).elim (.ok true)
        (·.map fun _ => false),
      q.searched (!test ·) w) :=
  q.aggregate_search w (!test ·) (fun _ => false) (fun _ _ fails => by simp_all)
    fun _ _ passes => by simp_all

theorem least?_eq {cmp : α → α → Ordering} [Std.TransCmp cmp] :
    q.least? (fun x y => some (cmp x y)) w =
      (((q.toSource.contents w.vectors).mapM id).map (earliestLeast? cmp),
        q.searched (fun _ => false) w) := by
  have least : (·.foldl (keepLeast cmp) none) = earliestLeast? cmp := funext foldl_keepLeast
  rw [← least]
  exact q.aggregate_yield w (keepLeast cmp) none

theorem greatest?_eq {cmp : α → α → Ordering} [Std.TransCmp cmp] :
    q.greatest? (fun x y => some (cmp x y)) w =
      (((q.toSource.contents w.vectors).mapM id).map (earliestLeast? fun x y => cmp y x),
        q.searched (fun _ => false) w) := by
  have : Std.TransCmp fun x y => cmp y x := .opposite
  have turned : q.greatest? (fun x y => some (cmp x y)) w =
      q.least? (fun x y => some (cmp y x)) w := by
    simp only [greatest?, least?]
    congr 1
    funext x y
    rw [Bool.eq_iff_iff]
    simp [Std.OrientedCmp.gt_iff_lt]
  rw [turned, least?_eq]

end Query

/-- A call that adds to a query. To keep what meets a condition is to filter. -/
inductive Stage (α : Type) where
  | filter (f : Filter α)
  | select (s : Selector α)

namespace Stage

def filter? : Stage α → Option (Filter α)
  | filter f => some f
  | select _ => none

def selector? : Stage α → Option (Selector α)
  | filter _ => none
  | select s => some s

end Stage

namespace Query

def add (q : Query α) : Stage α → Query α
  | .filter f => q.filter f.label f.test
  | .select s => q.select s.label s.apply

def build (source : Source α) (stages : List (Stage α)) : Query α :=
  stages.foldl add (ofSource source)

theorem build_eq (source : Source α) (stages : List (Stage α)) :
    build source stages = ⟨source, stages.filterMap (·.filter?), stages.filterMap (·.selector?)⟩ := by
  have go (q : Query α) : stages.foldl add q =
      ⟨q.source, q.filters ++ stages.filterMap (·.filter?),
        q.selectors ++ stages.filterMap (·.selector?)⟩ := by
    induction stages generalizing q with
    | nil => simp
    | cons stage stages ih =>
      rw [List.foldl_cons, ih]
      cases stage <;> simp [add, filter, select, Stage.filter?, Stage.selector?]
  exact go (ofSource source)

/-- The aggregates of a query answer for the results of its source's items, each put to all filters
in the order in which they were added and then to the selectors. The first result that is no item is
the answer; else it is the number of the items, the items, the first one, whether one passes a test,
whether all do, or the earliest least or greatest one. An aggregate opens the source once, goes
through the items up to the first that settles its answer, leaves those behind untouched, and closes
the source once. All of it is for the source as the call finds it. -/
theorem aggregates_eq (source : Source α) (stages : List (Stage α)) (w : World α) (test : α → Bool)
    (cmp : α → α → Ordering) [Std.TransCmp cmp] :
    let q := build source stages
    let filters := stages.filterMap (·.filter?)
    let selectors := stages.filterMap (·.selector?)
    let results := denote (filters.map (·.test)) (selectors.map (·.apply))
      (source.contents w.vectors)
    let fates := (source.fates w.vectors).map (·.process filters selectors)
    let order := fun x y => some (cmp x y)
    q.count w = ((results.mapM id).map List.length, q.searched (fun _ => false) w) ∧
      q.toList w = (results.mapM id, q.searched (fun _ => false) w) ∧
      q.first? w = (results.head?.elim (.ok none) (·.map some), q.searched (fun _ => true) w) ∧
      q.any test w =
        ((results.find? (settles test)).elim (.ok false) (·.map fun _ => true),
          q.searched test w) ∧
      q.all test w =
        ((results.find? (settles (!test ·))).elim (.ok true) (·.map fun _ => false),
          q.searched (!test ·) w) ∧
      q.least? order w =
        ((results.mapM id).map (earliestLeast? cmp), q.searched (fun _ => false) w) ∧
      q.greatest? order w =
        ((results.mapM id).map (earliestLeast? fun x y => cmp y x),
          q.searched (fun _ => false) w) ∧
      fates.filterMap (·.result) = results ∧
      ∀ stop : α → Bool, ∃ events,
        q.searched stop w =
          w.logAll (.opened source.label :: events ++ [.closed source.label]) ∧
        (∀ e ∈ events, e.isBoundary = false) ∧
        ((∀ fate ∈ fates, fate.result.any (settles stop) = false) →
          events = fates.flatMap (·.events) ++ source.ending) ∧
        ∀ before fate after, fates = before ++ fate :: after →
          (∀ b ∈ before, b.result.any (settles stop) = false) →
          fate.result.any (settles stop) = true →
          events = (before ++ [fate]).flatMap (·.events) := by
  intro q filters selectors results fates order
  have built : q = ⟨source, filters, selectors⟩ := build_eq source stages
  have holds : q.toSource.contents w.vectors = results := by rw [built]; rfl
  have passes : q.toSource.fates w.vectors = fates := by rw [built]; rfl
  have ending : q.toSource.ending = source.ending := by rw [built]; rfl
  have label : q.source.label = source.label := by rw [built]
  refine ⟨?_, ?_, ?_, ?_, ?_, ?_, ?_, ?_, fun stop => ?_⟩
  · rw [count_eq, holds]
  · rw [toList_eq, holds]
  · rw [first?_eq, holds]
  · rw [any_eq, holds]
  · rw [all_eq, holds]
  · rw [least?_eq, holds]
  · rw [greatest?_eq, holds]
  · rw [← passes, Source.filterMap_fates, holds]
  · refine ⟨Fate.eventsUntil (settles stop) source.ending fates, ?_, ?_, ?_, ?_⟩
    · rw [searched, passes, ending, label]
    · intro e member
      rcases Fate.mem_eventsUntil member with last | ⟨fate, member, inside⟩
      · exact source.isBoundary_of_mem_ending e last
      · exact q.toSource.staysInside_of_mem_fates w.vectors fate (passes ▸ member) e inside
    · exact Fate.eventsUntil_of_unsettled source.ending
    · intro before fate after split unsettled settled
      rw [split, Fate.eventsUntil_append source.ending after unsettled settled]

/-- The second of four items settles the search; a filter that was added after the selector has
seen it as it is in the source. -/
theorem aggregates_eq_shared :
    let w : World Nat := World.empty.setVector "v" [7, 3, 12, 3]
    let small : Filter Nat := ⟨none, fun n => ⟨.ok (n < 10), []⟩⟩
    let other : Filter Nat := ⟨none, fun n => ⟨.ok (n ≠ 7), []⟩⟩
    let q := build (.shared "v") [.filter small, .select ⟨none, (· * 2)⟩, .filter other]
    Std.TransCmp (compare : Nat → Nat → Ordering) ∧ (q.count w).1 = .ok 2 ∧
      (q.greatest? (fun x y => some (compare x y)) w).1 = .ok (some 6) ∧
      q.any (· == 6) w = (.ok true, w.logAll [.opened none, .pulled none, .tested none,
        .tested none, .pulled none, .tested none, .tested none, .mapped none, .closed none]) := by
  intro w small other q
  obtain ⟨count, -, -, any, -, -, greatest, -, worlds⟩ :=
    aggregates_eq (.shared "v") [.filter small, .select ⟨none, (· * 2)⟩, .filter other] w (· == 6)
      compare
  obtain ⟨events, world, -, -, stops⟩ := worlds (· == 6)
  let seven : Fate Nat := ⟨[.pulled none, .tested none, .tested none], none⟩
  let three : Fate Nat :=
    ⟨[.pulled none, .tested none, .tested none, .mapped none], some (.ok 6)⟩
  let twelve : Fate Nat := ⟨[.pulled none, .tested none], none⟩
  have happened := stops [seven] three [twelve, three] rfl (by simp [seven]) rfl
  refine ⟨inferInstance, congrArg Prod.fst count, congrArg Prod.fst greatest, ?_⟩
  rw [any, world, happened]
  rfl

end Query
end RecordFilter
