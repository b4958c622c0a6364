import Mathlib
import RecordFilter.Cursor.Basic

namespace RecordFilter

variable {α S T : Type}

namespace World

@[simp] theorem log_vectors (w : World α) (e : Event) : (w.log e).vectors = w.vectors := rfl

@[simp] theorem logReads_vectors (w : World α) (fields : List String) :
    (w.logReads fields).vectors = w.vectors := by
  unfold logReads
  induction fields generalizing w with
  | nil => rfl
  | cons field fields ih => exact ih (w.log (.read field))

end World

namespace Feed

theorem peek_eq (feed : Feed α) : ∃ feed' pulled,
    feed.peek = (feed.toList.head?, feed', pulled) ∧ feed'.toList = feed.toList := by
  cases feed with
  | unread items => cases items <;> exact ⟨_, _, rfl, rfl⟩
  | ahead x items => exact ⟨_, _, rfl, rfl⟩
  | atEnd => exact ⟨_, _, rfl, rfl⟩

theorem take_eq (feed : Feed α) : ∃ feed' pulled,
    feed.take = (feed.toList.head?, feed', pulled) ∧ feed'.toList = feed.toList.tail := by
  cases feed with
  | unread items => cases items <;> exact ⟨_, _, rfl, rfl⟩
  | ahead x items => exact ⟨_, _, rfl, rfl⟩
  | atEnd => exact ⟨_, _, rfl, rfl⟩

end Feed

/-- What a test makes of a result: nothing of an item that does not pass, and a failure of an item
that it fails on. Failures are passed on. -/
def judge (test : α → Outcome) : Result α → Option (Result α)
  | .ok x => match (test x).result with
    | .ok true => some (.ok x)
    | .ok false => none
    | .error e => some (.error (.test e))
  | .error e => some (.error e)

/-- All results of a plan, while the shared vectors are these. -/
def Plan.results (vectors : String → List α) : Plan α → List (Result α)
  | empty => []
  | sequence _ items => items.map .ok
  | shared name => (vectors name).map .ok
  | filter _ test inner => (inner.results vectors).filterMap (judge test)
  | map _ f inner => (inner.results vectors).map (·.map f)
  | stop => []
  | link head tail => head.results vectors ++ tail.results vectors

namespace Cursor

/-- The results still to come. A filter gives what it has found before anything else, and a member
of a concatenation that was passed gives nothing more. -/
def pending (vectors : String → List α) : {p : Plan α} → Cursor p → List (Result α)
  | _, .empty => []
  | _, .sequence feed closed => if closed then [] else feed.toList.map .ok
  | .shared name, .shared index _ closed =>
    if closed then [] else ((vectors name).drop index).map .ok
  | .filter _ test _, .filter found rest =>
    found.toList ++ (rest.pending vectors).filterMap (judge test)
  | .map _ f _, .map rest => (rest.pending vectors).map (·.map f)
  | _, .stop => []
  | _, .link first passed others _ =>
    (if passed then [] else first.pending vectors) ++ others.pending vectors

theorem pending_start (vectors : String → List α) (p : Plan α) :
    p.start.pending vectors = p.results vectors := by
  induction p with
  | empty => rfl
  | sequence label items => rfl
  | shared name => rfl
  | filter label test inner ih =>
    rw [Plan.start, pending, ih]
    rfl
  | map label f inner ih =>
    rw [Plan.start, pending, ih]
    rfl
  | stop => rfl
  | link head tail first others =>
    rw [Plan.start, pending, first, others]
    rfl

/-- Fuel for all that remains is fuel for all that is pending. -/
theorem length_pending_le (w : World α) {p : Plan α} (c : Cursor p) :
    (c.pending w.vectors).length ≤ c.remaining w := by
  induction c with
  | empty => exact Nat.le_refl 0
  | sequence feed closed => cases closed <;> simp [pending, remaining]
  | shared index current closed => cases closed <;> simp [pending, remaining]
  | @filter label test inner found rest ih =>
    have kept := List.length_filterMap_le (judge test) (rest.pending w.vectors)
    cases found with
    | none =>
      simp only [pending, remaining, Option.toList_none, List.nil_append, Option.isSome_none,
        Bool.false_eq_true, if_false]
      omega
    | some r =>
      simp only [pending, remaining, Option.toList_some, List.singleton_append, List.length_cons,
        Option.isSome_some, if_true]
      omega
  | map rest ih => simpa [pending, remaining] using ih
  | stop => exact Nat.le_refl 0
  | link first passed others last ih ih' =>
    cases passed <;> simp [pending, remaining]
    · omega
    · exact ih'

end Cursor

/-- A way of asking tells whether anything is pending, and keeps it all. -/
def Asks (vectors : String → List α) (view : S → List (Result α))
    (hasNext : S → World α → Bool × S × World α) : Prop :=
  ∀ s w, w.vectors = vectors → ∃ s' w', hasNext s w = (!(view s).isEmpty, s', w') ∧
    view s' = view s ∧ w'.vectors = vectors

/-- A way of taking gives what is pending first, or says that nothing is. -/
def Takes (vectors : String → List α) (view : S → List (Result α))
    (next : S → World α → Result α × S × World α) : Prop :=
  ∀ s w, w.vectors = vectors → ∃ s' w',
    next s w = ((view s).head?.getD (.error .exhausted), s', w') ∧
      view s' = (view s).tail ∧ w'.vectors = vectors

def Advances (vectors : String → List α) (view : S → List (Result α))
    (advance : S → World α → Option (Result α) × S × World α) : Prop :=
  ∀ s w, w.vectors = vectors → ∃ s' w', advance s w = ((view s).head?, s', w') ∧
    view s' = (view s).tail ∧ w'.vectors = vectors

variable {vectors : String → List α} {view : S → List (Result α)}

theorem advances_advanceBy {hasNext : S → World α → Bool × S × World α}
    {next : S → World α → Result α × S × World α} (asks : Asks vectors view hasNext)
    (takes : Takes vectors view next) : Advances vectors view (advanceBy hasNext next) := by
  intro s w same
  obtain ⟨s₁, w₁, asked, kept, same₁⟩ := asks s w same
  cases left : view s with
  | nil =>
    rw [left] at asked kept
    refine ⟨s₁, w₁, ?_, kept, same₁⟩
    simp [advanceBy, asked]
  | cons r rs =>
    obtain ⟨s₂, w₂, took, tail, same₂⟩ := takes s₁ w₁ same₁
    rw [left] at asked kept
    rw [kept] at took tail
    refine ⟨s₂, w₂, ?_, tail, same₂⟩
    simp [advanceBy, asked, took]

/-- Looking for an item that passes takes the first of the results that the test leaves. -/
theorem advances_seek {advance : S → World α → Option (Result α) × S × World α}
    (advances : Advances vectors view advance) (label : Option String) (test : α → Outcome)
    {fuel : Nat} {s : S} {w : World α} (same : w.vectors = vectors)
    (enough : (view s).length < fuel) :
    ∃ s' w', seek advance label test fuel s w =
        (((view s).filterMap (judge test)).head?, s', w') ∧
      (view s').filterMap (judge test) = ((view s).filterMap (judge test)).tail ∧
      w'.vectors = vectors := by
  induction fuel generalizing s w with
  | zero => exact absurd enough (Nat.not_lt_zero _)
  | succ fuel ih =>
    obtain ⟨s₁, w₁, took, tail, same₁⟩ := advances s w same
    cases left : view s with
    | nil =>
      rw [left] at took tail
      exact ⟨s₁, w₁, by rw [seek, took]; rfl, by rw [tail]; rfl, same₁⟩
    | cons r rs =>
      rw [left] at took tail enough
      cases r with
      | error e => exact ⟨s₁, w₁, by rw [seek, took]; rfl, by rw [tail]; rfl, same₁⟩
      | ok x =>
        let tested := (w₁.log (.tested label)).logReads (test x).reads
        have same₂ : tested.vectors = vectors := by simp [tested, same₁]
        cases verdict : (test x).result with
        | error e =>
          have judged : judge test (.ok x) = some (.error (.test e)) := by simp [judge, verdict]
          rw [List.filterMap_cons_some judged]
          exact ⟨s₁, tested, by rw [seek, took]; simp [verdict, tested], by rw [tail]; rfl, same₂⟩
        | ok passes =>
          cases passes with
          | true =>
            have judged : judge test (.ok x) = some (.ok x) := by simp [judge, verdict]
            rw [List.filterMap_cons_some judged]
            exact ⟨s₁, tested, by rw [seek, took]; simp [verdict, tested], by rw [tail]; rfl, same₂⟩
          | false =>
            have judged : judge test (.ok x) = none := by simp [judge, verdict]
            have fewer : (view s₁).length < fuel := by
              rw [tail]
              exact Nat.lt_of_succ_lt_succ enough
            obtain ⟨s₂, w₂, found, rest, same₃⟩ := ih same₂ fewer
            rw [tail] at found rest
            rw [List.filterMap_cons_none judged]
            refine ⟨s₂, w₂, ?_, rest, same₃⟩
            rw [seek, took]
            simpa [verdict, tested] using found

/-- The part that is chosen of a concatenation holds the first of all results, if there is one. -/
inductive Chosen (vectors : String → List α) (view : S → List (Result α))
    (view' : T → List (Result α)) (all : List (Result α)) :
    Option Part × S × T × World α → Prop where
  | head {s : S} {t : T} {w : World α} (same : w.vectors = vectors) (more : view s ≠ [])
      (parts : all = view s ++ view' t) : Chosen vectors view view' all (some .head, s, t, w)
  | tail {s : S} {t : T} {w : World α} (same : w.vectors = vectors) (more : view' t ≠ [])
      (parts : all = view' t) : Chosen vectors view view' all (some .tail, s, t, w)
  | none {s : S} {t : T} {w : World α} (same : w.vectors = vectors) (spent : view' t = [])
      (parts : all = []) : Chosen vectors view view' all (none, s, t, w)

theorem chosen_choosePart {view' : T → List (Result α)}
    {headHasNext : S → World α → Bool × S × World α}
    {tailHasNext : T → World α → Bool × T × World α} (head : Asks vectors view headHasNext)
    (tail : Asks vectors view' tailHasNext) (passed : Bool) (s : S) (t : T) {w : World α}
    (same : w.vectors = vectors) :
    Chosen vectors view view' ((if passed then [] else view s) ++ view' t)
      (choosePart headHasNext tailHasNext passed s t w) := by
  have others (s₁ : S) (w₁ : World α) (same₁ : w₁.vectors = vectors) :
      Chosen vectors view view' (view' t)
        (if (tailHasNext t w₁).1 then some .tail else none, s₁, (tailHasNext t w₁).2) := by
    obtain ⟨t', w', asked, kept, same'⟩ := tail t w₁ same₁
    rw [asked]
    cases left : view' t with
    | nil => exact .none same' (kept.trans left) rfl
    | cons r rs =>
      rw [left] at kept
      exact .tail same' (by simp [kept]) kept.symm
  cases passed with
  | true => exact others s w same
  | false =>
    obtain ⟨s', w', asked, kept, same'⟩ := head s w same
    cases left : view s with
    | nil =>
      rw [left] at asked
      simpa [choosePart, asked] using others s' w' same'
    | cons r rs =>
      rw [left] at asked kept
      have chosen : choosePart headHasNext tailHasNext false s t w = (some .head, s', t, w') := by
        simp [choosePart, asked]
      rw [chosen]
      exact .head same' (by simp [kept]) (by simp [kept])

namespace Cursor

variable (vectors)

/-- Cursors of a plan ask and take as their pending results say. -/
structure Faithful (p : Plan α) : Prop where
  asks : Asks vectors (pending vectors) fun (c : Cursor p) w => c.hasNext w
  takes : Takes vectors (pending vectors) fun (c : Cursor p) w => c.next w

theorem faithful_empty : Faithful vectors (.empty : Plan α) := by
  constructor
  · intro c w same
    cases c
    exact ⟨.empty, w, rfl, rfl, same⟩
  · intro c w same
    cases c
    exact ⟨.empty, w, rfl, rfl, same⟩

theorem faithful_stop : Faithful vectors (.stop : Plan α) := by
  constructor
  · intro c w same
    cases c
    exact ⟨.stop, w, rfl, rfl, same⟩
  · intro c w same
    cases c
    exact ⟨.stop, w, rfl, rfl, same⟩

theorem faithful_sequence (label : Option String) (items : List α) :
    Faithful vectors (.sequence label items) := by
  constructor
  · intro c w same
    cases c with
    | sequence feed closed =>
      cases closed with
      | true => exact ⟨.sequence feed true, w, rfl, rfl, same⟩
      | false =>
        obtain ⟨feed', pulled, peeked, kept⟩ := feed.peek_eq
        refine ⟨.sequence feed' false, if pulled then w.log (.pulled label) else w, ?_, ?_, ?_⟩
        · simp only [hasNext, peeked, pending]
          cases feed.toList <;> rfl
        · simp only [pending, kept]
        · cases pulled <;> exact same
  · intro c w same
    cases c with
    | sequence feed closed =>
      cases closed with
      | true => exact ⟨.sequence feed true, w, rfl, rfl, same⟩
      | false =>
        obtain ⟨feed', pulled, took, rest⟩ := feed.take_eq
        refine ⟨.sequence feed' false, if pulled then w.log (.pulled label) else w, ?_, ?_, ?_⟩
        · simp only [next, took, pending]
          cases feed.toList <;> rfl
        · simp [pending, rest]
        · cases pulled <;> exact same

theorem faithful_shared (name : String) : Faithful vectors (.shared name) := by
  constructor
  · intro c w same
    cases c with
    | shared index current closed =>
      refine ⟨.shared index current closed, w, ?_, rfl, same⟩
      cases closed with
      | true => rfl
      | false =>
        subst same
        have left : decide (index < (w.vectors name).length) =
            !(((w.vectors name).drop index).map Except.ok : List (Result α)).isEmpty := by
          rw [Bool.eq_iff_iff]
          simp
        simp only [hasNext, pending, left]
        rfl
  · intro c w same
    cases c with
    | shared index current closed =>
      cases closed with
      | true => exact ⟨.shared index current true, w, rfl, rfl, same⟩
      | false =>
        subst same
        by_cases inside : index < (w.vectors name).length
        · refine ⟨.shared (index + 1) (some index) false, w.log (.pulled none), ?_, ?_, rfl⟩
          · simp [next, pending, inside]
          · simp [pending]
        · refine ⟨.shared index current false, w, ?_, ?_, rfl⟩
          · simp [next, pending, Nat.not_lt.mp inside]
          · simp [pending]
            omega

theorem faithful_filter (label : Option String) (test : α → Outcome) {inner : Plan α}
    (ih : Faithful vectors inner) : Faithful vectors (.filter label test inner) := by
  have search (rest : Cursor inner) (w : World α) (same : w.vectors = vectors) :
      ∃ rest' w', seek (advanceBy (fun (c : Cursor inner) w => c.hasNext w) fun c w => c.next w)
          label test (rest.remaining w + 1) rest w =
        (((rest.pending vectors).filterMap (judge test)).head?, rest', w') ∧
      (rest'.pending vectors).filterMap (judge test) =
        ((rest.pending vectors).filterMap (judge test)).tail ∧ w'.vectors = vectors := by
    have enough : (rest.pending vectors).length < rest.remaining w + 1 := by
      have := length_pending_le w rest
      rw [same] at this
      omega
    exact advances_seek (advances_advanceBy ih.asks ih.takes) label test same enough
  constructor
  · intro c w same
    cases c with
    | filter found rest =>
      cases found with
      | some r => exact ⟨.filter (some r) rest, w, rfl, rfl, same⟩
      | none =>
        obtain ⟨rest', w', sought, tail, same'⟩ := search rest w same
        let found := ((rest.pending vectors).filterMap (judge test)).head?
        refine ⟨.filter found rest', w', ?_, ?_, same'⟩
        · simp only [hasNext, sought, pending, Option.toList_none, List.nil_append, found]
          cases (rest.pending vectors).filterMap (judge test) <;> rfl
        · simp only [pending, tail, Option.toList_none, List.nil_append, found]
          cases (rest.pending vectors).filterMap (judge test) <;> rfl
  · intro c w same
    cases c with
    | filter found rest =>
      cases found with
      | some r => exact ⟨.filter none rest, w, rfl, rfl, same⟩
      | none =>
        obtain ⟨rest', w', sought, tail, same'⟩ := search rest w same
        refine ⟨.filter none rest', w', ?_, ?_, same'⟩
        · simp [next, sought, pending]
        · simpa [pending] using tail

theorem faithful_map (label : Option String) (f : α → α) {inner : Plan α}
    (ih : Faithful vectors inner) : Faithful vectors (.map label f inner) := by
  constructor
  · intro c w same
    cases c with
    | map rest =>
      obtain ⟨rest', w', asked, kept, same'⟩ := ih.asks rest w same
      refine ⟨.map rest', w', ?_, ?_, same'⟩
      · simp [hasNext, asked, pending]
      · simp [pending, kept]
  · intro c w same
    cases c with
    | map rest =>
      obtain ⟨rest', w', took, tail, same'⟩ := ih.takes rest w same
      cases left : rest.pending vectors with
      | nil =>
        rw [left] at took tail
        refine ⟨.map rest', w', ?_, ?_, same'⟩
        · simp [next, took, pending, left]
        · simp [pending, tail, left]
      | cons r rs =>
        rw [left] at took tail
        cases r with
        | error e =>
          refine ⟨.map rest', w', ?_, ?_, same'⟩
          · simp [next, took, pending, left, Except.map]
          · simp [pending, tail, left]
        | ok x =>
          refine ⟨.map rest', w'.log (.mapped label), ?_, ?_, same'⟩
          · simp [next, took, pending, left, Except.map]
          · simp [pending, tail, left]

theorem faithful_link {head tail : Plan α} (ih : Faithful vectors head)
    (ih' : Faithful vectors tail) : Faithful vectors (.link head tail) := by
  constructor
  · intro c w same
    cases c with
    | link first passed others last =>
      have chosen := chosen_choosePart ih.asks ih'.asks passed first others same
      generalize choice : choosePart (fun (c : Cursor head) w => c.hasNext w)
        (fun (c : Cursor tail) w => c.hasNext w) passed first others w = out at chosen
      simp only [hasNext, choice, pending]
      cases chosen with
      | @head first' others' w' same' more parts =>
        refine ⟨.link first' false others' last, w', ?_, parts.symm, same'⟩
        simp [parts, more]
      | @tail first' others' w' same' more parts =>
        refine ⟨.link first' true others' last, w', ?_, parts.symm, same'⟩
        simp [parts, more]
      | @none first' others' w' same' spent parts =>
        refine ⟨.link first' true others' last, w', ?_, spent.trans parts.symm, same'⟩
        simp [parts]
  · intro c w same
    cases c with
    | link first passed others last =>
      have chosen := chosen_choosePart ih.asks ih'.asks passed first others same
      generalize choice : choosePart (fun (c : Cursor head) w => c.hasNext w)
        (fun (c : Cursor tail) w => c.hasNext w) passed first others w = out at chosen
      simp only [next, choice, pending]
      cases chosen with
      | @head first' others' w' same' more parts =>
        obtain ⟨first'', w'', took, rest, same''⟩ := ih.takes first' w' same'
        cases left : first'.pending vectors with
        | nil => exact absurd left more
        | cons r rs =>
          rw [left] at took rest parts
          refine ⟨.link first'' false others' (Part.head.ofResult r), w'', ?_, ?_, same''⟩
          · simp [took, parts]
          · simp [pending, rest, parts]
      | @tail first' others' w' same' more parts =>
        obtain ⟨others'', w'', took, rest, same''⟩ := ih'.takes others' w' same'
        cases left : others'.pending vectors with
        | nil => exact absurd left more
        | cons r rs =>
          rw [left] at took rest parts
          refine ⟨.link first' true others'' (Part.tail.ofResult r), w'', ?_, ?_, same''⟩
          · simp [took, parts]
          · simp [pending, rest, parts]
      | @none first' others' w' same' spent parts =>
        refine ⟨.link first' true others' last, w', ?_, ?_, same'⟩
        · simp [parts]
        · simp [pending, spent, parts]

/-- Every plan's cursors deliver what is pending, and nothing else. -/
theorem faithful (p : Plan α) : Faithful vectors p := by
  induction p with
  | empty => exact faithful_empty vectors
  | sequence label items => exact faithful_sequence vectors label items
  | shared name => exact faithful_shared vectors name
  | filter label test inner ih => exact faithful_filter vectors label test ih
  | map label f inner ih => exact faithful_map vectors label f ih
  | stop => exact faithful_stop vectors
  | link head tail first others => exact faithful_link vectors first others

end Cursor
end RecordFilter
