import RecordFilter.Check
import RecordFilter.Proofs.Query.Aggregates

namespace RecordFilter

variable {α : Type}

namespace Filter

def siftAll (record : α → Record) (c : Condition) (xs : List α) : List (Result α) :=
  (xs.map .ok).filterMap (judge (ofCondition record c).test)

variable {record : α → Record} {c : Condition}

theorem mapM_siftAll_of_ok {xs : List α} (tested : ∀ x ∈ xs, ∃ b, c.fit (record x) = .ok b) :
    (siftAll record c xs).mapM id = .ok (xs.filter fun x => c.fit (record x) = .ok true) := by
  induction xs with
  | nil => rfl
  | cons x xs ih =>
    have rest := ih fun y member => tested y (List.mem_cons_of_mem _ member)
    obtain ⟨b, fit⟩ := tested x List.mem_cons_self
    rw [siftAll, List.map_cons, List.filterMap_cons, judge_ofCondition, fit]
    cases b with
    | true =>
      rw [List.filter_cons_of_pos (by simp [fit])]
      exact (List.mapM_cons (f := id)).trans (rest ▸ rfl)
    | false =>
      rw [List.filter_cons_of_neg (by simp [fit])]
      exact rest

theorem mapM_siftAll_of_error {before : List α} {x : α} {e : EvalError}
    (tested : ∀ y ∈ before, ∃ b, c.fit (record y) = .ok b) (fails : c.fit (record x) = .error e)
    (after : List α) :
    (siftAll record c (before ++ x :: after)).mapM id = .error (.test e) := by
  have split : siftAll record c (before ++ x :: after) =
      siftAll record c before ++ .error (.test e) :: siftAll record c after := by
    simp only [siftAll, List.map_append, List.map_cons, List.filterMap_append]
    rw [List.filterMap_cons_some (by rw [judge_ofCondition, fails])]
  rw [split, List.mapM_append, mapM_siftAll_of_ok tested, List.mapM_cons]
  rfl

end Filter

/-- Only objects have fields. -/
theorem Json.record_eq_empty {j : Json} (h : j.kind ≠ .object) : j.record = .empty := by
  cases j with
  | object fields => exact absurd rfl h
  | _ => rfl

namespace Check

variable {c : Condition}

theorem apply_array (countOnly : Bool) (records : List Json) :
    apply countOnly c (.array records) =
      (((Filter.siftAll Json.record c records).mapM id).map fun found =>
        if countOnly then .count found.length else .found found).mapError .evaluate := by
  have contents : ((Query.ofSource (.items none records)).filterBy Json.record c).toSource.contents
      (World.empty (α := Json)).vectors = Filter.siftAll Json.record c records :=
    denote_nil [(Filter.ofCondition Json.record c).test] (records.map .ok)
  simp only [apply, Query.count_eq, Query.toList_eq, contents]
  cases countOnly <;> cases (Filter.siftAll Json.record c records).mapM id <;> rfl

theorem apply_array_of_ok {records : List Json}
    (tested : ∀ x ∈ records, ∃ b, c.fit x.record = .ok b) (countOnly : Bool) :
    apply countOnly c (.array records) =
      let found := records.filter fun x => c.fit x.record = .ok true
      .ok (if countOnly then .count found.length else .found found) := by
  rw [apply_array, Filter.mapM_siftAll_of_ok tested]
  rfl

theorem apply_array_of_error {before : List Json} {x : Json} {e : EvalError}
    (tested : ∀ y ∈ before, ∃ b, c.fit y.record = .ok b) (fails : c.fit x.record = .error e)
    (after : List Json) (countOnly : Bool) :
    apply countOnly c (.array (before ++ x :: after)) = .error (.evaluate (.test e)) := by
  rw [apply_array, Filter.mapM_siftAll_of_error tested fails]
  rfl

/-- An object is found in the array of it alone just if it fits, and a failure is the same for both.
Nothing else comes of an object. -/
structure SameAlone (o : Json) (object array : Except CheckError CheckResult) : Prop where
  fit : ∀ b, object = .ok (.fit b) ↔ array = .ok (.found (if b then [o] else []))
  error : ∀ e, object = .error e ↔ array = .error e
  settled : (∃ b, object = .ok (.fit b)) ∨ ∃ e, object = .error e

theorem apply_object (c : Condition) (countOnly : Bool) (fields : List (String × Json)) :
    let o := Json.object fields
    SameAlone o (apply countOnly c o) (apply false c (.array [o])) := by
  intro o
  have object : apply countOnly c o =
      ((c.fit o.record).map .fit).mapError (.evaluate <| .test ·) := rfl
  cases fit : c.fit o.record with
  | ok b =>
    have tested : ∀ x ∈ [o], ∃ b, c.fit x.record = .ok b := by simp [fit]
    have array := apply_array_of_ok tested false
    have found : [o].filter (fun x => c.fit x.record = .ok true) = if b then [o] else [] := by
      cases b <;> simp [fit]
    rw [fit] at object
    rw [object, array, found]
    constructor <;> cases b <;> simp [Except.map, Except.mapError]
  | error e =>
    have array : apply false c (.array [o]) = .error (.evaluate (.test e)) :=
      apply_array_of_error (List.forall_mem_nil _) fit [] false
    rw [fit] at object
    rw [object, array]
    constructor <;> simp [Except.map, Except.mapError]

/-- A check whose filter reads as a condition puts it to the document of its input. On an array it
fails with the failure of the first record that can not be tested; without one it finds the records
that fit, as they are and in order, or their number. What is no object is tested as a record without
fields. An object fits, or fails, just when the array of it alone comes to that object, to nothing,
or to the same failure, and so do two inputs that read as these documents. Which texts are
documents, and how deep these may nest, is settled before by the reader. -/
theorem run_eq_fit (check : Check) (c : Condition) (reads : check.bound = .ok (.condition c))
    (tests : check.textOnly = false) :
    (∀ text countOnly, run { check with input := some text, countOnly := countOnly } =
      (document text).bind (apply countOnly c)) ∧
    (∀ before x after e, (∀ y ∈ before, ∃ b, c.fit y.record = .ok b) →
      c.fit x.record = .error e → ∀ countOnly,
        apply countOnly c (.array (before ++ x :: after)) = .error (.evaluate (.test e))) ∧
    (∀ records, (∀ x ∈ records, ∃ b, c.fit x.record = .ok b) →
      let found := records.filter fun x => c.fit x.record = .ok true
      apply false c (.array records) = .ok (.found found) ∧
        apply true c (.array records) = .ok (.count found.length)) ∧
    (∀ x : Json, x.kind ≠ .object → x.record = .empty) ∧
    ∀ fields countOnly,
      let o := Json.object fields
      SameAlone o (apply countOnly c o) (apply false c (.array [o])) ∧
        ∀ object array, document object = .ok o → document array = .ok (.array [o]) →
          SameAlone o (run { check with input := some object, countOnly := countOnly })
            (run { check with input := some array, countOnly := false }) := by
  have runs (text : String) (countOnly : Bool) :
      run { check with input := some text, countOnly := countOnly } =
        (document text).bind (apply countOnly c) := by
    have same : bound { check with input := some text, countOnly := countOnly } =
        .ok (.condition c) := reads
    rw [run, same]
    exact if_neg (by simp [tests])
  refine ⟨runs, ?_, ?_, fun x => Json.record_eq_empty, ?_⟩
  · intro before x after e tested fails countOnly
    exact apply_array_of_error tested fails after countOnly
  · intro records tested found
    exact ⟨apply_array_of_ok tested false, apply_array_of_ok tested true⟩
  · intro fields countOnly o
    have same := apply_object c countOnly fields
    refine ⟨same, fun object array single alone => ?_⟩
    rw [runs, runs, single, alone]
    exact same

/-- A parameter is bound; a record without the field does not fit, and a text can not be ordered
against a number. -/
theorem run_eq_fit_less :
    let check : Check := ⟨"a < ?", none, ["2"], false, false⟩
    let c : Condition := .comparison ⟨.key "a", .less, .number (.int32 2), none, rfl⟩
    let low : Json := .object [("a", .integer 1)]
    let text : Json := .object [("a", .string "x")]
    check.bound = .ok (.condition c) ∧
      run { check with input := some "[\x7b\"a\": 1\x7d, 5]", countOnly := true } = .ok (.count 1) ∧
      apply false c (.array [low, .integer 5]) = .ok (.found [low]) ∧
      apply true c (.array ([low] ++ text :: [.null])) =
        .error (.evaluate (.test (.typeMismatch .less (some .string) .int32))) ∧
      SameAlone low (run { check with input := some "\x7b\"a\": 1\x7d", countOnly := true })
        (run { check with input := some "[\x7b\"a\": 1\x7d]", countOnly := false }) := by
  intro check c low text
  have reads : check.bound = .ok (.condition c) := by cbv
  obtain ⟨runs, failing, counted, -, single⟩ := run_eq_fit check c reads rfl
  have input : document "[\x7b\"a\": 1\x7d, 5]" = .ok (.array [low, .integer 5]) := by cbv
  have fits : c.fit low.record = .ok true := by decide
  have absent : c.fit (Json.integer 5).record = .ok false := by decide
  have fails : c.fit text.record = .error (.typeMismatch .less (some .string) .int32) := by decide
  obtain ⟨found, count⟩ := counted [low, .integer 5] (by simp [fits, absent])
  have object : document "\x7b\"a\": 1\x7d" = .ok low := by cbv
  have array : document "[\x7b\"a\": 1\x7d]" = .ok (.array [low]) := by cbv
  refine ⟨reads, ?_, ?_, failing [low] text [.null] _ (by simp [fits]) fails true,
    (single _ true).2 _ _ object array⟩
  · rw [runs, input]
    exact count.trans (by simp [fits, absent])
  · simpa [fits, absent] using found

end Check
end RecordFilter
