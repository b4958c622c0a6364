import RecordFilter.Proofs.Evaluation.Rules
import RecordFilter.Proofs.Query.Fate

namespace RecordFilter

variable {α σ : Type}

/-- All that happens, short of a test as such. -/
def Event.isUntested : Event → Bool
  | tested _ => false
  | _ => true

theorem filter_testEvents (label : Option String) (o : Outcome) :
    (testEvents label o).filter Event.isUntested = o.reads.map .read := by
  have reads : ∀ e ∈ o.reads.map Event.read, e.isUntested = true := by simp [Event.isUntested]
  rw [testEvents, List.filter_cons_of_neg (by simp [Event.isUntested]),
    List.filter_eq_self.mpr reads]

def Outcome.andThen (first second : Outcome) : Outcome :=
  match first.result with
  | .ok true => ⟨second.result, first.reads ++ second.reads⟩
  | _ => first

namespace Outcome

theorem andThen_of_true {first : Outcome} (h : first.result = .ok true) (second : Outcome) :
    first.andThen second = ⟨second.result, first.reads ++ second.reads⟩ := by
  simp [andThen, h]

theorem andThen_of_ne {first : Outcome} (h : first.result ≠ .ok true) (second : Outcome) :
    first.andThen second = first := by
  unfold andThen
  split
  · next passed => exact absurd passed h
  · rfl

end Outcome

/-- A conjunction tests its right side as a filter behind the left side would. -/
theorem Condition.evaluate_and (left right : Condition) (record : Record) :
    (join left .and right).evaluate record =
      (left.evaluate record).andThen (right.evaluate record) := by
  cases result : (left.evaluate record).result with
  | error e =>
    rw [evaluate_join_error result, Outcome.andThen_of_ne (by simp [result]), ← result]
  | ok a =>
    cases a with
    | false =>
      have decided : (left.evaluate record).result = .ok Connective.and.decisive := result
      rw [evaluate_join_decided decided, Outcome.andThen_of_ne (by simp [result])]
      exact congrArg (Outcome.mk · _) result.symm
    | true =>
      have undecided : (left.evaluate record).result = .ok !Connective.and.decisive := result
      rw [evaluate_join_open undecided, Outcome.andThen_of_true result]

namespace Script

variable (keep : Event → Bool)

@[simp] theorem only_after (before : List Event) (s : Script α) :
    (s.after before).only keep = (s.only keep).after (before.filter keep) := by
  cases s <;> simp [only]

theorem only_sift (label : Option String) (test : α → Outcome) (s : Script α) :
    ((s.only keep).sift label test).only keep = (s.sift label test).only keep := by
  induction s with
  | finish events => simp [only, sift]
  | deliver events r rest ih =>
    cases r with
    | error e => simp [only, sift, ih]
    | ok x => cases judged : judge test (.ok x) <;> simp [only, sift, judged, ih]

theorem only_foldl_sift {s s' : Script α} (same : s.only keep = s'.only keep)
    (filters : List (Filter α)) :
    (filters.foldl (fun s f => s.sift f.label f.test) s).only keep =
      (filters.foldl (fun s f => s.sift f.label f.test) s').only keep := by
  induction filters generalizing s s' with
  | nil => exact same
  | cons f filters ih =>
    apply ih
    rw [← only_sift, same, only_sift]

/-- Two filters in a row do what one does that has both tests. -/
theorem only_sift_sift (label label' label'' : Option String) (test test' : α → Outcome)
    (s : Script α) :
    ((s.sift label test).sift label' test').only Event.isUntested =
      (s.sift label'' fun x => (test x).andThen (test' x)).only Event.isUntested := by
  induction s with
  | finish events => rfl
  | deliver events r rest ih =>
    cases r with
    | error e => simp [only, sift, ih]
    | ok x =>
      cases verdict : (test x).result with
      | error e =>
        have failed : (test x).result ≠ .ok true := by simp [verdict]
        have same := Outcome.andThen_of_ne failed (test' x)
        simp [only, sift, judge, verdict, same, ih, filter_testEvents]
      | ok passed =>
        cases passed with
        | false =>
          have failed : (test x).result ≠ .ok true := by simp [verdict]
          have same := Outcome.andThen_of_ne failed (test' x)
          simp [sift, judge, verdict, same, ih, sift_after, filter_testEvents]
        | true =>
          have both := Outcome.andThen_of_true verdict (test' x)
          have first : judge test (.ok x) = some (.ok x) := by simp [judge, verdict]
          have second : judge (fun x => (test x).andThen (test' x)) (.ok x) =
              judge test' (.ok x) := by
            simp [judge, both]
          cases judged : judge test' (.ok x) <;>
            simp [only, sift, first, second, judged, both, ih, filter_testEvents]

@[simp] theorem next?_only (s : Script α) : (s.only keep).next? = s.next? := by
  cases s <;> rfl

@[simp] theorem events_only (s : Script α) : (s.only keep).events = s.events.filter keep := by
  cases s <;> rfl

@[simp] theorem tail_only (s : Script α) : (s.only keep).tail = s.tail.only keep := by
  cases s <;> rfl

@[simp] theorem ahead_only (s : Script α) : (s.only keep).ahead = s.ahead.only keep := by
  cases s <;> rfl

@[simp] theorem results_only (s : Script α) : (s.only keep).results = s.results := by
  induction s with
  | finish events => rfl
  | deliver events r rest ih => exact congrArg (r :: ·) ih

theorem spend_only (step : σ → α → ForInStep σ) (a : σ) (s : Script α) :
    (s.only keep).spend step a =
      ((s.spend step a).1.filter keep, (s.spend step a).2.only keep) := by
  induction s generalizing a with
  | finish events => rfl
  | deliver events r rest ih =>
    cases r with
    | error e => rfl
    | ok x => cases taken : step a x <;> simp [only, spend, taken, ih]

theorem answer_only (s : Script α) (call : Call α) :
    (s.only keep).answer call =
      ((s.answer call).1, (s.answer call).2.1.filter keep, (s.answer call).2.2.only keep) := by
  cases call <;> simp [answer, spend_only]

theorem run_only (s : Script α) (calls : List (Call α)) :
    (s.only keep).run calls =
      ((s.run calls).1, (s.run calls).2.1.filter keep, (s.run calls).2.2.only keep) := by
  induction calls generalizing s with
  | nil => rfl
  | cons call calls ih => simp [run, answer_only, ih]

end Script

namespace Filter

variable {record : α → Record}

variable (record) in
theorem only_foldl_sift_conditions (e : Condition) (es : List Condition) (s : Script α) :
    (((e :: es).map (ofCondition record)).foldl (fun s f => s.sift f.label f.test) s).only
        Event.isUntested =
      (s.sift none (ofCondition record (es.foldl (.join · .and ·) e)).test).only
        Event.isUntested := by
  induction es generalizing e with
  | nil => rfl
  | cons c es ih =>
    have merged : ((s.sift none (ofCondition record e).test).sift none
        (ofCondition record c).test).only Event.isUntested =
          (s.sift none (ofCondition record (.join e .and c)).test).only Event.isUntested := by
      rw [Script.only_sift_sift none none none]
      simp only [ofCondition, Condition.evaluate_and]
    exact (Script.only_foldl_sift _ merged (es.map (ofCondition record))).trans (ih (.join e .and c))

theorem sift_ofCondition (c : Condition) (x : α) (events : List Event) :
    Fate.sift (ofCondition record c).label (ofCondition record c).test ⟨events, some (.ok x)⟩ =
      ⟨events ++ testEvents none (c.evaluate (record x)), judge (ofCondition record c).test (.ok x)⟩ :=
  rfl

/-- A condition that fails ends the tests of an item, and its failure is what becomes of it. -/
theorem process_of_failure {before after : List Condition} {c : Condition} {x : α} {err : EvalError}
    (passed : ∀ b ∈ before, b.fit (record x) = .ok true) (fails : c.fit (record x) = .error err)
    (events : List Event) :
    Fate.process ((before ++ c :: after).map (ofCondition record)) [] ⟨events, some (.ok x)⟩ =
      ⟨events ++ (before ++ [c]).flatMap fun b => testEvents none (b.evaluate (record x)),
        some (.error (.test err))⟩ := by
  have rest (filters : List (Filter α)) (events : List Event) (e : CursorError) :
      filters.foldl (fun (fate : Fate α) f => fate.sift f.label f.test) ⟨events, some (.error e)⟩ =
        ⟨events, some (.error e)⟩ := by
    induction filters with
    | nil => rfl
    | cons f filters ih => exact ih
  induction before generalizing events with
  | nil => simp [Fate.process, sift_ofCondition, judge_ofCondition, fails, rest]
  | cons b before ih =>
    have first : b.fit (record x) = .ok true := passed b List.mem_cons_self
    have later := ih (fun b' member => passed b' (List.mem_cons_of_mem _ member))
      (events ++ testEvents none (b.evaluate (record x)))
    simpa [Fate.process, sift_ofCondition, judge_ofCondition, first] using later

theorem judgeAll_of_failure {before after : List Condition} {c : Condition} {x : α}
    {err : EvalError} (passed : ∀ b ∈ before, b.fit (record x) = .ok true)
    (fails : c.fit (record x) = .error err) :
    judgeAll (((before ++ c :: after).map (ofCondition record)).map (·.test)) (.ok x) =
      some (.error (.test err)) := by
  have process : Fate.process ((before ++ c :: after).map (ofCondition record)) []
      ⟨[], some (.ok x)⟩ = _ := process_of_failure passed fails []
  have result := congrArg Fate.result process
  rw [Fate.result_process] at result
  obtain ⟨r, judged, mapped⟩ := Option.map_eq_some_iff.mp result
  cases r with
  | ok y => cases mapped
  | error e => exact judged.trans (congrArg some mapped)

end Filter

namespace Query

theorem foldl_filterBy (record : α → Record) (cs : List Condition) (q : Query α) :
    cs.foldl (·.filterBy record ·) q =
      { q with filters := q.filters ++ cs.map (Filter.ofCondition record) } := by
  induction cs generalizing q with
  | nil => simp
  | cons c cs ih =>
    rw [List.foldl_cons, ih]
    simp [filterBy, filter, Filter.ofCondition]

theorem isFilter_foldl (filters : List (Filter α)) {p : Plan α} (h : p.isFilter = true) :
    (filters.foldl (fun p f => .filter f.label f.test p) p).isFilter = true := by
  induction filters generalizing p with
  | nil => exact h
  | cons f filters ih => exact ih rfl

theorem run_filters (source : Source α) (f : Filter α) (fs : List (Filter α)) (w : World α)
    (calls : List (Call α)) :
    let s := (f :: fs).foldl (fun s f => s.sift f.label f.test)
      (Script.ofFates source.ending (source.fates w.vectors))
    ∃ c, (start ⟨source, f :: fs, []⟩ w).1.run (start ⟨source, f :: fs, []⟩ w).2 calls =
      ((s.run calls).1, c, (w.log (.opened source.label)).logAll (s.run calls).2.1) := by
  intro s
  have acts : Cursor.Acts w.vectors (start ⟨source, f :: fs, []⟩ w).1 s :=
    Cursor.acts_foldl_filter (f :: fs) (Cursor.acts_start source)
  have top : (plan ⟨source, f :: fs, []⟩).isFilter = true :=
    isFilter_foldl fs (p := .filter f.label f.test source.plan) rfl
  obtain ⟨c, ran, -⟩ := acts.run_filter top (w := (start ⟨source, f :: fs, []⟩ w).2) rfl calls
  exact ⟨c, ran⟩

theorem run_filters_conditions (source : Source α) (record : α → Record) (e : Condition)
    (es : List Condition) (w : World α) (calls : List (Call α)) :
    let chained : Query α := ⟨source, (e :: es).map (Filter.ofCondition record), []⟩
    let joined : Query α := ⟨source, [Filter.ofCondition record (es.foldl (.join · .and ·) e)], []⟩
    ∃ answers c c' w₁ w₂,
      (chained.start w).1.run (chained.start w).2 calls = (answers, c, w₁) ∧
      (joined.start w).1.run (joined.start w).2 calls = (answers, c', w₂) ∧
      w₁.history.filter Event.isUntested = w₂.history.filter Event.isUntested := by
  obtain ⟨c, ran⟩ := run_filters source (.ofCondition record e)
    (es.map (Filter.ofCondition record)) w calls
  obtain ⟨c', ran'⟩ := run_filters source (.ofCondition record (es.foldl (.join · .and ·) e)) [] w
    calls
  have same := Filter.only_foldl_sift_conditions record e es
    (Script.ofFates source.ending (source.fates w.vectors))
  have runs := congrArg (Script.run · calls) same
  simp only [Script.run_only, Prod.mk.injEq] at runs
  obtain ⟨answers, events, -⟩ := runs
  refine ⟨_, c, c', _, _, ran, ran'.trans (congrArg (·, c', _) answers.symm), ?_⟩
  simp only [World.logAll, List.filter_append, List.filter_reverse]
  exact congrArg (·.reverse ++ _) events

theorem results_filters (vectors : String → List α) (source : Source α)
    (filters : List (Filter α)) :
    (plan ⟨source, filters, []⟩).results vectors =
      (source.contents vectors).filterMap (judgeAll (filters.map (·.test))) :=
  (Cursor.results_plan (.query source filters [])).trans (denote_nil _ _)

/-- Whatever the calls on a new cursor, they deliver results of the query from the front, and the
cursor stands before the others. -/
theorem run_stands (q : Query α) (w : World α) (calls : List (Call α)) :
    ∃ answers c w' rest, (q.start w).1.run (q.start w).2 calls = (answers, c, w') ∧
      q.plan.results w.vectors = answers.flatMap (·.delivered) ++ rest ∧
      c.StandsBefore w' rest := by
  have real := q.plan.exhausted_not_mem w.vectors
  rw [← Cursor.pending_start] at real ⊢
  obtain ⟨answers, c, w', rest, ran, -, parts, -, stands⟩ :=
    Cursor.run_stands (q.start w).1 (q.start w).2 calls real
  exact ⟨answers, c, w', rest, ran, parts, stands⟩

/-- Filters for conditions in a row deliver what one filter for their conjunction delivers, whatever
the calls and their order, and pull the same items and read the same fields of them in the same
order. A condition that fails on an item ends the tests of that item: among the results that calls
deliver and those still to come its failure stands in the place of the item, and the other items
come to what they would have come to. -/
theorem run_filterBy_eq (source : Source α) (record : α → Record) (e : Condition)
    (es : List Condition) (w : World α) :
    let chained := (e :: es).foldl (·.filterBy record ·) (ofSource source)
    let joined := (ofSource source).filterBy record (es.foldl (.join · .and ·) e)
    (∀ calls : List (Call α), ∃ answers c c' w₁ w₂,
        (chained.start w).1.run (chained.start w).2 calls = (answers, c, w₁) ∧
        (joined.start w).1.run (joined.start w).2 calls = (answers, c', w₂) ∧
        w₁.history.filter Event.isUntested = w₂.history.filter Event.isUntested) ∧
      ∀ before c after x err, e :: es = before ++ c :: after →
        (∀ b ∈ before, b.fit (record x) = .ok true) → c.fit (record x) = .error err →
        (∀ events, Fate.process chained.filters [] ⟨events, some (.ok x)⟩ =
          ⟨events ++ (before ++ [c]).flatMap fun b => testEvents none (b.evaluate (record x)),
            some (.error (.test err))⟩) ∧
        ∀ xs ys, source.contents w.vectors = xs ++ .ok x :: ys →
          let kept := List.filterMap (judgeAll (chained.filters.map (·.test)))
          chained.plan.results w.vectors = kept xs ++ .error (.test err) :: kept ys ∧
          ∀ calls, ∃ answers c w₁ rest,
            (chained.start w).1.run (chained.start w).2 calls = (answers, c, w₁) ∧
            kept xs ++ .error (.test err) :: kept ys = answers.flatMap (·.delivered) ++ rest ∧
            c.StandsBefore w₁ rest := by
  intro chained joined
  let filters := (e :: es).map (Filter.ofCondition record)
  have split : chained = ⟨source, filters, []⟩ := foldl_filterBy record (e :: es) (ofSource source)
  rw [split]
  refine ⟨run_filters_conditions source record e es w,
    fun before c after x err conditions passed fails => ?_⟩
  have process : ∀ events, Fate.process ((before ++ c :: after).map (.ofCondition record)) []
      ⟨events, some (.ok x)⟩ = _ := Filter.process_of_failure passed fails
  have judged : judgeAll
      (((before ++ c :: after).map (Filter.ofCondition record)).map (·.test)) (.ok x) = _ :=
    Filter.judgeAll_of_failure passed fails
  rw [← conditions] at process judged
  refine ⟨process, fun xs ys holds => ?_⟩
  intro kept
  have results : (plan ⟨source, filters, []⟩).results w.vectors =
      kept xs ++ .error (.test err) :: kept ys := by
    have failed : kept (.ok x :: ys) = .error (.test err) :: kept ys :=
      List.filterMap_cons_some judged
    rw [results_filters, holds, ← failed]
    exact List.filterMap_append
  refine ⟨results, fun calls => ?_⟩
  rw [← results]
  exact run_stands ⟨source, filters, []⟩ w calls

/-- The second of three conditions fails on the first of two records. -/
theorem run_filterBy_eq_failing :
    let first : Condition := .comparison ⟨.key "a", .equal, .string "x", none, rfl⟩
    let second : Condition := .comparison ⟨.key "a", .less, .number (.int32 1), none, rfl⟩
    let third : Condition := .comparison ⟨.key "b", .equal, .number (.int32 1), none, rfl⟩
    let x : Value := .object [("a", .string "x")]
    let source : Source Value := .items none [x, .null]
    let chained := [first, second, third].foldl (·.filterBy Value.record ·) (ofSource source)
    let failure : EvalError := .typeMismatch .less (some .string) .int32
    (∀ b ∈ [first], b.fit x.record = .ok true) ∧ second.fit x.record = .error failure ∧
      source.contents (World.empty (α := Value)).vectors = [] ++ .ok x :: [.ok .null] ∧
      chained.plan.results (World.empty (α := Value)).vectors = [.error (.test failure)] ∧
      ((chained.start .empty).1.next (chained.start .empty).2).1 = .error (.test failure) := by
  intro first second third x source chained failure
  have passed : ∀ b ∈ [first], b.fit x.record = .ok true := by simp [first, x]; decide
  have fails : second.fit x.record = .error failure := by decide
  obtain ⟨-, failing⟩ := run_filterBy_eq source Value.record first [second, third] .empty
  obtain ⟨results, runs⟩ :=
    (failing [first] second [third] x failure rfl passed fails).2 [] [.ok .null] rfl
  obtain ⟨_, _, _, rest, ran, parts, stands⟩ := runs []
  cases ran
  exact ⟨passed, fails, rfl, results, stands.next _ _ parts.symm⟩

end Query
end RecordFilter
