import RecordFilter.Cursor.Traverse
import RecordFilter.Proofs.Cursor.Pending

namespace RecordFilter

variable {α : Type} {p : Plan α}

inductive Call (α : Type) where
  | hasNext
  | next
  /-- A traversal goes on while `go` accepts the items that it has been given. -/
  | traverse (go : List α → Bool)

inductive Answer (α : Type) where
  | more (b : Bool)
  | result (r : Result α)
  | visited (items : List α) (fault : Option CursorError)

namespace Answer

/-- The results that an answer brings; that there is none is no result. -/
def delivered : Answer α → List (Result α)
  | more _ => []
  | result (.error .exhausted) => []
  | result r => [r]
  | visited items fault => items.map .ok ++ (fault.map .error).toList

end Answer

def recordWhile (go : List α → Bool) (seen : List α) (x : α) : ForInStep (List α) :=
  if go (seen ++ [x]) then .yield (seen ++ [x]) else .done (seen ++ [x])

namespace Cursor

def answer (c : Cursor p) (w : World α) : Call α → Answer α × Cursor p × World α
  | .hasNext =>
    let (more, c, w) := c.hasNext w
    (.more more, c, w)
  | .next =>
    let (r, c, w) := c.next w
    (.result r, c, w)
  | .traverse go =>
    let ((items, fault), c, w) := c.traverse (recordWhile go) [] w
    (.visited items fault, c, w)

def run (c : Cursor p) (w : World α) : List (Call α) → List (Answer α) × Cursor p × World α
  | [] => ([], c, w)
  | call :: calls =>
    let (a, c, w) := c.answer w call
    let (answers, c, w) := c.run w calls
    (a :: answers, c, w)

end Cursor

/-- What a traversal does with a list of results, and what it leaves of it. -/
def consume {σ : Type} (step : σ → α → ForInStep σ) :
    σ → List (Result α) → (σ × Option CursorError) × List (Result α)
  | s, [] => ((s, none), [])
  | s, .error e :: rest => ((s, some e), rest)
  | s, .ok x :: rest => match step s x with
    | .done s => ((s, none), rest)
    | .yield s => consume step s rest

namespace Call

/-- What a call gets from a list of results, and what it leaves of it. -/
def onList (pending : List (Result α)) : Call α → Answer α × List (Result α)
  | hasNext => (.more !pending.isEmpty, pending)
  | next => (.result (pending.head?.getD (.error .exhausted)), pending.tail)
  | traverse go =>
    let ((items, fault), rest) := consume (recordWhile go) [] pending
    (.visited items fault, rest)

end Call

theorem consume_recordWhile (go : List α → Bool) (seen : List α) (pending : List (Result α)) :
    let ((items, fault), rest) := consume (recordWhile go) seen pending
    seen.map .ok ++ pending = (Answer.visited items fault).delivered ++ rest := by
  induction pending generalizing seen with
  | nil => simp [consume, Answer.delivered]
  | cons r rest ih =>
    cases r with
    | error e => simp [consume, Answer.delivered]
    | ok x =>
      have next := ih (seen ++ [x])
      by_cases on : go (seen ++ [x]) = true
      · simpa [consume, recordWhile, on] using next
      · simp [consume, recordWhile, on, Answer.delivered]

theorem Call.delivered_onList (call : Call α) {pending : List (Result α)}
    (real : .error .exhausted ∉ pending) :
    (call.onList pending).1.delivered ++ (call.onList pending).2 = pending := by
  cases call with
  | hasNext => rfl
  | next =>
    cases pending with
    | nil => rfl
    | cons r rest =>
      have other : r ≠ .error .exhausted := fun same => real (same ▸ List.mem_cons_self)
      cases r with
      | ok x => rfl
      | error e =>
        cases e with
        | exhausted => exact absurd rfl other
        | _ => rfl
  | traverse go => exact (consume_recordWhile go [] pending).symm

/-- The end of the list is not among the results. -/
theorem Plan.exhausted_not_mem (vectors : String → List α) (p : Plan α) :
    .error .exhausted ∉ p.results vectors := by
  induction p with
  | empty => simp [results]
  | sequence label items => simp [results]
  | shared name => simp [results]
  | filter label test inner ih =>
    intro member
    obtain ⟨r, hr, judged⟩ := List.mem_filterMap.mp member
    cases r with
    | error e =>
      have same : Except.error e = (.error .exhausted : Result α) := Option.some.inj judged
      exact ih (same ▸ hr)
    | ok x =>
      unfold judge at judged
      dsimp only at judged
      split at judged <;> cases judged
  | map label f inner ih =>
    intro member
    obtain ⟨r, hr, mapped⟩ := List.mem_map.mp member
    cases r with
    | error e => exact ih (mapped ▸ hr)
    | ok x => cases mapped
  | stop => simp [results]
  | link head tail first others => simp [results, first, others]

namespace Cursor

variable {vectors : String → List α}

theorem traverseFrom_eq {σ : Type} (step : σ → α → ForInStep σ) {fuel : Nat} (s : σ) (c : Cursor p)
    (w : World α) (same : w.vectors = vectors) (enough : (c.pending vectors).length < fuel) :
    ∃ c' w', traverseFrom step fuel s c w = ((consume step s (c.pending vectors)).1, c', w') ∧
      c'.pending vectors = (consume step s (c.pending vectors)).2 ∧ w'.vectors = vectors := by
  have advances := advances_advanceBy (faithful vectors p).asks (faithful vectors p).takes
  induction fuel generalizing s c w with
  | zero => exact absurd enough (Nat.not_lt_zero _)
  | succ fuel ih =>
    obtain ⟨c₁, w₁, took, tail, same₁⟩ := advances c w same
    cases left : c.pending vectors with
    | nil =>
      rw [left] at took tail
      refine ⟨c₁, w₁, ?_, tail, same₁⟩
      simp [traverseFrom, advance, took, consume]
    | cons r rest =>
      rw [left] at took tail enough
      cases r with
      | error e =>
        refine ⟨c₁, w₁, ?_, tail, same₁⟩
        simp [traverseFrom, advance, took, consume]
      | ok x =>
        cases taken : step s x with
        | done s' =>
          refine ⟨c₁, w₁, ?_, ?_, same₁⟩
          · simp [traverseFrom, advance, took, consume, taken]
          · simp [tail, consume, taken]
        | yield s' =>
          have fewer : (c₁.pending vectors).length < fuel := by
            rw [tail]
            exact Nat.lt_of_succ_lt_succ enough
          obtain ⟨c₂, w₂, went, left₂, same₂⟩ := ih s' c₁ w₁ same₁ fewer
          rw [tail] at went left₂
          refine ⟨c₂, w₂, ?_, ?_, same₂⟩
          · simpa [traverseFrom, advance, took, consume, taken] using went
          · simpa [consume, taken] using left₂

/-- A call gets from a cursor what it would get from the list of pending results. -/
theorem answer_eq (c : Cursor p) (w : World α) (call : Call α) (same : w.vectors = vectors) :
    ∃ c' w', c.answer w call = ((call.onList (c.pending vectors)).1, c', w') ∧
      c'.pending vectors = (call.onList (c.pending vectors)).2 ∧ w'.vectors = vectors := by
  cases call with
  | hasNext =>
    obtain ⟨c', w', asked, kept, same'⟩ := (faithful vectors p).asks c w same
    exact ⟨c', w', by simp [answer, asked, Call.onList], kept, same'⟩
  | next =>
    obtain ⟨c', w', took, tail, same'⟩ := (faithful vectors p).takes c w same
    exact ⟨c', w', by simp [answer, took, Call.onList], tail, same'⟩
  | traverse go =>
    have enough : (c.pending vectors).length < c.remaining w + 1 := by
      have := length_pending_le w c
      rw [same] at this
      omega
    obtain ⟨c', w', went, left, same'⟩ := traverseFrom_eq (recordWhile go) [] c w same enough
    exact ⟨c', w', by simp [answer, traverse, went, Call.onList], left, same'⟩

/-- What is delivered by a run, and what is pending after it, was pending before it. -/
theorem run_pending (c : Cursor p) (w : World α) (calls : List (Call α))
    (same : w.vectors = vectors) (real : .error .exhausted ∉ c.pending vectors) :
    ∃ answers c' w', c.run w calls = (answers, c', w') ∧ w'.vectors = vectors ∧
      c.pending vectors = answers.flatMap (·.delivered) ++ c'.pending vectors := by
  induction calls generalizing c w with
  | nil => exact ⟨[], c, w, rfl, same, rfl⟩
  | cons call calls ih =>
    obtain ⟨c₁, w₁, answered, left, same₁⟩ := answer_eq c w call same
    have parts := call.delivered_onList real
    rw [← left] at parts
    have real₁ : .error .exhausted ∉ c₁.pending vectors := fun member =>
      real (parts ▸ List.mem_append_right _ member)
    obtain ⟨answers, c₂, w₂, ran, same₂, parts₂⟩ := ih c₁ w₁ same₁ real₁
    refine ⟨(call.onList (c.pending vectors)).1 :: answers, c₂, w₂, ?_, same₂, ?_⟩
    · simp only [run, answered, ran]
    · refine parts.symm.trans ?_
      rw [parts₂, List.flatMap_cons, List.append_assoc]

/-- Whatever is called next is answered as these results say. -/
structure StandsBefore (c : Cursor p) (w : World α) (rest : List (Result α)) : Prop where
  hasNext : (c.hasNext w).1 = true ↔ rest ≠ []
  next : ∀ r others, rest = r :: others → (c.next w).1 = r
  exhausted : (c.next w).1 = .error .exhausted ↔ rest = []
  traverse : ∀ go, (c.answer w (.traverse go)).1 = ((Call.traverse go).onList rest).1

theorem standsBefore_pending (c : Cursor p) (w : World α)
    (real : .error .exhausted ∉ c.pending w.vectors) :
    c.StandsBefore w (c.pending w.vectors) := by
  obtain ⟨_, _, asked, -, -⟩ := (faithful w.vectors p).asks c w rfl
  obtain ⟨_, _, took, -, -⟩ := (faithful w.vectors p).takes c w rfl
  constructor
  · simp [asked]
  · intro r others left
    simp [took, left]
  · cases left : c.pending w.vectors with
    | nil => simp [took, left]
    | cons r others =>
      rw [left] at real took
      have other : r ≠ .error .exhausted := fun same => real (same ▸ List.mem_cons_self)
      simp [took, other]
  · intro go
    obtain ⟨_, _, answered, -, -⟩ := answer_eq c w (.traverse go) rfl
    rw [answered]

theorem run_stands (c : Cursor p) (w : World α) (calls : List (Call α))
    (real : .error .exhausted ∉ c.pending w.vectors) :
    ∃ answers c' w' rest, c.run w calls = (answers, c', w') ∧ w'.vectors = w.vectors ∧
      c.pending w.vectors = answers.flatMap (·.delivered) ++ rest ∧ c'.pending w'.vectors = rest ∧
      c'.StandsBefore w' rest := by
  obtain ⟨answers, c', w', ran, same, parts⟩ := run_pending c w calls rfl real
  have left : .error .exhausted ∉ c'.pending w.vectors := fun member =>
    real (parts ▸ List.mem_append_right _ member)
  rw [← same] at left
  have stands := standsBefore_pending c' w' left
  rw [same] at stands
  exact ⟨answers, c', w', c'.pending w.vectors, ran, same, parts, by rw [same], stands⟩

/-- A cursor stands for the list of its plan's results: after any calls, the results delivered are
the first of the list in order, and the cursor stands before the others. Once there are no others,
it is exhausted for good. -/
theorem run_delivers (p : Plan α) (w : World α) (calls : List (Call α)) :
    ∃ answers c w' rest, p.start.run w calls = (answers, c, w') ∧ w'.vectors = w.vectors ∧
      p.results w.vectors = answers.flatMap (·.delivered) ++ rest ∧ c.StandsBefore w' rest ∧
      (rest = [] → ∀ later, ∃ answers' c' w'', c.run w' later = (answers', c', w'') ∧
        answers'.flatMap (·.delivered) = [] ∧ c'.StandsBefore w'' []) := by
  have real := p.exhausted_not_mem w.vectors
  rw [← pending_start] at real ⊢
  obtain ⟨answers, c, w', rest, ran, same, parts, left, stands⟩ := run_stands p.start w calls real
  refine ⟨answers, c, w', rest, ran, same, parts, stands, fun spent later => ?_⟩
  subst spent
  have real' : .error .exhausted ∉ c.pending w'.vectors := by
    rw [left]
    exact List.not_mem_nil
  obtain ⟨answers', c', w'', rest', ran', -, parts', -, stands'⟩ := run_stands c w' later real'
  rw [left] at parts'
  obtain ⟨none, rfl⟩ := List.append_eq_nil_iff.mp parts'.symm
  exact ⟨answers', c', w'', ran', none, stands'⟩

end Cursor
end RecordFilter
