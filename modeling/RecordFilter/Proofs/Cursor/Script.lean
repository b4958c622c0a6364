import RecordFilter.Proofs.Cursor.Delivery

namespace RecordFilter

variable {α σ S : Type}

namespace World

def logAll (w : World α) (events : List Event) : World α :=
  { w with history := events.reverse ++ w.history }

@[simp] theorem logAll_nil (w : World α) : w.logAll [] = w := rfl

@[simp] theorem logAll_logAll (w : World α) (first second : List Event) :
    (w.logAll first).logAll second = w.logAll (first ++ second) := by
  simp [logAll]

theorem log_eq (w : World α) (e : Event) : w.log e = w.logAll [e] := rfl

theorem logReads_eq (w : World α) (fields : List String) :
    w.logReads fields = w.logAll (fields.map .read) := by
  unfold logReads
  induction fields generalizing w with
  | nil => rfl
  | cons field fields ih =>
    rw [List.foldl_cons, ih, log_eq, logAll_logAll]
    rfl

end World

/-- The results that are delivered, each behind the events of looking for it. The last events are
those of looking for a result when there is none any more. -/
inductive Script (α : Type) where
  | finish (events : List Event)
  | deliver (events : List Event) (r : Result α) (rest : Script α)

def testEvents (label : Option String) (o : Outcome) : List Event :=
  .tested label :: o.reads.map .read

namespace Script

def results : Script α → List (Result α)
  | finish _ => []
  | deliver _ r rest => r :: rest.results

def next? : Script α → Option (Result α)
  | finish _ => none
  | deliver _ r _ => some r

/-- What happens until the next result is found, or found missing. -/
def events : Script α → List Event
  | finish events => events
  | deliver events _ _ => events

/-- What is left when the next result is taken. -/
def tail : Script α → Script α
  | finish _ => finish []
  | deliver _ _ rest => rest

/-- What is left when the next result has been looked for. -/
def ahead : Script α → Script α
  | finish _ => finish []
  | deliver _ r rest => deliver [] r rest

def after (before : List Event) : Script α → Script α
  | finish events => finish (before ++ events)
  | deliver events r rest => deliver (before ++ events) r rest

/-- What a filter makes of a script. Looking for an item that passes takes in what was done to those
that do not. -/
def sift (label : Option String) (test : α → Outcome) : Script α → Script α
  | finish events => finish events
  | deliver events (.error e) rest => deliver events (.error e) (rest.sift label test)
  | deliver events (.ok x) rest =>
    let events := events ++ testEvents label (test x)
    match judge test (.ok x) with
    | none => (rest.sift label test).after events
    | some r => deliver events r (rest.sift label test)

def map (label : Option String) (f : α → α) : Script α → Script α
  | finish events => finish events
  | deliver events (.error e) rest => deliver events (.error e) (rest.map label f)
  | deliver events (.ok x) rest =>
    deliver (events ++ [.mapped label]) (.ok (f x)) (rest.map label f)

@[simp] theorem after_finish (before events : List Event) :
    (finish events : Script α).after before = finish (before ++ events) := rfl

@[simp] theorem after_deliver (before events : List Event) (r : Result α) (rest : Script α) :
    (deliver events r rest).after before = deliver (before ++ events) r rest := rfl

@[simp] theorem next?_after (before : List Event) (s : Script α) :
    (s.after before).next? = s.next? := by
  cases s <;> rfl

@[simp] theorem events_after (before : List Event) (s : Script α) :
    (s.after before).events = before ++ s.events := by
  cases s <;> rfl

@[simp] theorem tail_after (before : List Event) (s : Script α) :
    (s.after before).tail = s.tail := by
  cases s <;> rfl

theorem after_after (first second : List Event) (s : Script α) :
    (s.after second).after first = s.after (first ++ second) := by
  cases s <;> simp [after]

@[simp] theorem results_after (before : List Event) (s : Script α) :
    (s.after before).results = s.results := by
  cases s <;> rfl

theorem results_sift (label : Option String) (test : α → Outcome) (s : Script α) :
    (s.sift label test).results = s.results.filterMap (judge test) := by
  induction s with
  | finish events => rfl
  | deliver events r rest ih =>
    cases r with
    | error e => simp [sift, results, ih, judge]
    | ok x =>
      cases judged : judge test (.ok x) with
      | none => simp [sift, results, ih, judged]
      | some r => simp [sift, results, ih, judged]

theorem results_map (label : Option String) (f : α → α) (s : Script α) :
    (s.map label f).results = s.results.map (·.map f) := by
  induction s with
  | finish events => rfl
  | deliver events r rest ih =>
    cases r with
    | error e => simp [map, results, ih, Except.map]
    | ok x => simp [map, results, ih, Except.map]

def ofItems (pull : Event) (last : List Event) (items : List α) : Script α :=
  items.foldr (fun x s => deliver [pull] (.ok x) s) (finish last)

theorem ofItems_cons (pull : Event) (last : List Event) (x : α) (items : List α) :
    ofItems pull last (x :: items) = deliver [pull] (.ok x) (ofItems pull last items) := rfl

theorem results_ofItems (pull : Event) (last : List Event) (items : List α) :
    (ofItems pull last items).results = items.map .ok := by
  induction items with
  | nil => rfl
  | cons x items ih => exact congrArg (.ok x :: ·) ih

end Script

/-- What a sequence will do with what it holds. -/
def Feed.script (label : Option String) : Feed α → Script α
  | unread items => .ofItems (.pulled label) [.pulled label] items
  | ahead x items => .deliver [] (.ok x) (.ofItems (.pulled label) [.pulled label] items)
  | atEnd => .finish []

namespace Cursor

variable {vectors : String → List α}

variable (vectors) in
/-- An open cursor of a pipeline stands where the script begins, while the shared vectors are
these. -/
inductive Acts : {p : Plan α} → Cursor p → Script α → Prop where
  | sequence {label : Option String} {items : List α} (feed : Feed α) :
      Acts (.sequence feed false : Cursor (.sequence label items)) (feed.script label)
  | shared {name : String} (index : Nat) (current : Option Nat) :
      Acts (.shared index current false : Cursor (.shared name))
        (.ofItems (.pulled none) [] ((vectors name).drop index))
  | filter {label : Option String} {test : α → Outcome} {inner : Plan α} {rest : Cursor inner}
      {s : Script α} (h : Acts rest s) :
      Acts (.filter none rest : Cursor (.filter label test inner)) (s.sift label test)
  | found {label : Option String} {test : α → Outcome} {inner : Plan α} {rest : Cursor inner}
      {s : Script α} (r : Result α) (h : Acts rest s) :
      Acts (.filter (some r) rest : Cursor (.filter label test inner))
        (.deliver [] r (s.sift label test))
  | map {label : Option String} {f : α → α} {inner : Plan α} {rest : Cursor inner}
      {s : Script α} (h : Acts rest s) :
      Acts (.map rest : Cursor (.map label f inner)) (s.map label f)

theorem Acts.results_eq {p : Plan α} {c : Cursor p} {s : Script α} (h : Acts vectors c s) :
    s.results = c.pending vectors := by
  induction h with
  | sequence feed => cases feed <;> simp [Feed.script, Script.results, Script.results_ofItems,
      pending, Feed.toList]
  | shared index current => simp [Script.results_ofItems, pending]
  | filter h ih => simp [Script.results_sift, pending, ih]
  | found r h ih => simp [Script.results, Script.results_sift, pending, ih]
  | map h ih => simp [Script.results_map, pending, ih]

end Cursor

/-- States that stand where a script begins take their next step as it says. -/
def Follows (vectors : String → List α) (stands : S → Script α → Prop)
    (advance : S → World α → Option (Result α) × S × World α) : Prop :=
  ∀ s script w, stands s script → w.vectors = vectors → ∃ s',
    advance s w = (script.next?, s', w.logAll script.events) ∧ stands s' script.tail

/-- Looking for an item that passes goes through the script up to the first one. -/
theorem seek_eq {vectors : String → List α} {stands : S → Script α → Prop}
    {advance : S → World α → Option (Result α) × S × World α}
    (follows : Follows vectors stands advance) (label : Option String) (test : α → Outcome)
    {fuel : Nat} {s : S} {script : Script α} {w : World α} (h : stands s script)
    (same : w.vectors = vectors) (enough : script.results.length < fuel) :
    ∃ s' rest, seek advance label test fuel s w =
        ((script.sift label test).next?, s', w.logAll (script.sift label test).events) ∧
      stands s' rest ∧ rest.sift label test = (script.sift label test).tail := by
  induction script generalizing fuel s w with
  | finish events =>
    obtain ⟨fuel, rfl⟩ := Nat.exists_eq_succ_of_ne_zero (Nat.ne_zero_of_lt enough)
    obtain ⟨s', took, stands'⟩ := follows s _ w h same
    exact ⟨s', _, by rw [seek, took]; rfl, stands', rfl⟩
  | deliver events r rest ih =>
    obtain ⟨fuel, rfl⟩ := Nat.exists_eq_succ_of_ne_zero (Nat.ne_zero_of_lt enough)
    obtain ⟨s', took, stands'⟩ := follows s _ w h same
    cases r with
    | error e => exact ⟨s', _, by rw [seek, took]; rfl, stands', rfl⟩
    | ok x =>
      have tested : ((w.logAll events).log (.tested label)).logReads (test x).reads =
          w.logAll (events ++ testEvents label (test x)) := by
        simp [World.log_eq, World.logReads_eq, testEvents]
      have sought : seek advance label test (fuel + 1) s w =
          match judge test (.ok x) with
          | none => seek advance label test fuel s' (w.logAll (events ++ testEvents label (test x)))
          | some r => (some r, s', w.logAll (events ++ testEvents label (test x))) := by
        rw [seek, took]
        dsimp only [Script.next?, Script.events]
        rw [tested]
        cases verdict : (test x).result with
        | error e => simp [judge, verdict]
        | ok passes => cases passes <;> simp [judge, verdict]
      rw [sought]
      cases judged : judge test (.ok x) with
      | some r =>
        simp only [Script.sift, judged, Script.next?, Script.events, Script.tail]
        exact ⟨s', rest, rfl, stands', rfl⟩
      | none =>
        obtain ⟨s'', rest', found, stands'', left⟩ :=
          ih stands' (w := w.logAll (events ++ testEvents label (test x))) same
            (Nat.lt_of_succ_lt_succ enough)
        refine ⟨s'', rest', ?_, stands'', ?_⟩
        · simpa [Script.sift, judged] using found
        · simpa [Script.sift, judged] using left

namespace Cursor

variable {vectors : String → List α}

theorem follows_sequence (label : Option String) (items : List α) :
    Follows vectors (Acts vectors) (advance : Cursor (.sequence label items) → _) := by
  intro c script w h _
  cases h with
  | sequence feed =>
    cases feed with
    | unread items =>
      cases items with
      | nil => exact ⟨.sequence .atEnd false, rfl, .sequence .atEnd⟩
      | cons x items => exact ⟨.sequence (.unread items) false, rfl, .sequence (.unread items)⟩
    | ahead x items => exact ⟨.sequence (.unread items) false, rfl, .sequence (.unread items)⟩
    | atEnd => exact ⟨.sequence .atEnd false, rfl, .sequence .atEnd⟩

theorem follows_shared (name : String) :
    Follows vectors (Acts vectors) (advance : Cursor (.shared name) → _) := by
  intro c script w h same
  cases h with
  | shared index current =>
    subst same
    by_cases inside : index < (w.vectors name).length
    · rw [List.drop_eq_getElem_cons inside, Script.ofItems_cons]
      refine ⟨.shared (index + 1) (some index) false, ?_, .shared (index + 1) (some index)⟩
      simp [advance, advanceBy, hasNext, next, inside, Script.next?, Script.events, World.log_eq]
    · have stays : Acts w.vectors (.shared index current false : Cursor (.shared name))
          (.ofItems (.pulled none) [] ((w.vectors name).drop index)) := .shared index current
      rw [List.drop_eq_nil_of_le (Nat.not_lt.mp inside)] at stays ⊢
      refine ⟨.shared index current false, ?_, stays⟩
      simp [advance, advanceBy, hasNext, inside, Script.ofItems, Script.next?, Script.events]

theorem search_eq (label : Option String) (test : α → Outcome) {inner : Plan α}
    (ih : Follows vectors (Acts vectors) (advance : Cursor inner → _)) {rest : Cursor inner}
    {s : Script α} (h : Acts vectors rest s) {w : World α} (same : w.vectors = vectors) :
    ∃ rest' s', seek advance label test (rest.remaining w + 1) rest w =
        ((s.sift label test).next?, rest', w.logAll (s.sift label test).events) ∧
      Acts vectors rest' s' ∧ s'.sift label test = (s.sift label test).tail := by
  have enough : s.results.length < rest.remaining w + 1 := by
    have := length_pending_le w rest
    rw [same, ← h.results_eq] at this
    omega
  exact seek_eq ih label test h same enough

theorem follows_filter (label : Option String) (test : α → Outcome) {inner : Plan α}
    (ih : Follows vectors (Acts vectors) (advance : Cursor inner → _)) :
    Follows vectors (Acts vectors) (advance : Cursor (.filter label test inner) → _) := by
  intro c script w h same
  cases h with
  | @found _ _ _ rest s r h => exact ⟨.filter none rest, rfl, .filter h⟩
  | @filter _ _ _ rest s h =>
    obtain ⟨rest', s', sought, acts, left⟩ := search_eq label test ih h same
    refine ⟨.filter none rest', ?_, left ▸ .filter acts⟩
    have sought' : seek (advanceBy (fun (c : Cursor inner) w => c.hasNext w) fun c w => c.next w)
        label test (rest.remaining w + 1) rest w = _ := sought
    simp only [advance, advanceBy, hasNext, sought']
    cases (s.sift label test).next? <;> rfl

theorem advance_map {label : Option String} {f : α → α} {inner : Plan α} (rest : Cursor inner)
    (w : World α) :
    advance (.map rest : Cursor (.map label f inner)) w = match rest.advance w with
      | (some (.ok x), rest, w) => (some (.ok (f x)), .map rest, w.log (.mapped label))
      | (some (.error e), rest, w) => (some (.error e), .map rest, w)
      | (none, rest, w) => (none, .map rest, w) := by
  obtain ⟨⟨more, rest', w'⟩, asked⟩ : ∃ out, rest.hasNext w = out := ⟨_, rfl⟩
  cases more with
  | false => simp [advance, advanceBy, hasNext, asked]
  | true =>
    obtain ⟨⟨r, rest'', w''⟩, took⟩ : ∃ out, rest'.next w' = out := ⟨_, rfl⟩
    cases r <;> simp [advance, advanceBy, hasNext, next, asked, took]

theorem follows_map (label : Option String) (f : α → α) {inner : Plan α}
    (ih : Follows vectors (Acts vectors) (advance : Cursor inner → _)) :
    Follows vectors (Acts vectors) (advance : Cursor (.map label f inner) → _) := by
  intro c script w h same
  cases h with
  | @map _ _ _ rest s h =>
    obtain ⟨rest', took, acts⟩ := ih rest s w h same
    refine ⟨.map rest', ?_, ?_⟩
    · rw [advance_map, took]
      cases s with
      | finish events => rfl
      | deliver events r s => cases r <;> simp [Script.map, Script.next?, Script.events, World.log_eq]
    · cases s with
      | finish events => exact .map acts
      | deliver events r s => cases r <;> exact .map acts

/-- An open cursor of a pipeline does what comes next in its script. -/
theorem follows (p : Plan α) : Follows vectors (Acts vectors) (advance : Cursor p → _) := by
  induction p with
  | sequence label items => exact follows_sequence label items
  | shared name => exact follows_shared name
  | filter label test inner ih => exact follows_filter label test ih
  | map label f inner ih => exact follows_map label f ih
  | _ =>
    intro c script w h
    cases h

theorem Acts.hasNext_filter {label : Option String} {test : α → Outcome} {inner : Plan α}
    {c : Cursor (.filter label test inner)} {s : Script α} (h : Acts vectors c s) {w : World α}
    (same : w.vectors = vectors) :
    ∃ c', c.hasNext w = (s.next?.isSome, c', w.logAll s.events) ∧ Acts vectors c' s.ahead := by
  cases h with
  | @found _ _ _ rest s r h => exact ⟨.filter (some r) rest, rfl, .found r h⟩
  | @filter _ _ _ rest s h =>
    obtain ⟨rest', s', sought, acts, left⟩ :=
      search_eq label test (follows inner) h same
    have sought' : seek (advanceBy (fun (c : Cursor inner) w => c.hasNext w) fun c w => c.next w)
        label test (rest.remaining w + 1) rest w = _ := sought
    refine ⟨.filter (s.sift label test).next? rest', by simp only [hasNext, sought'], ?_⟩
    cases shape : s.sift label test with
    | finish events =>
      have nothing : s'.sift label test = .finish [] := by rw [left, shape]; rfl
      show Acts vectors (.filter none rest') (.finish [])
      exact nothing ▸ .filter acts
    | deliver events r more =>
      have others : s'.sift label test = more := by rw [left, shape]; rfl
      exact others ▸ .found r acts

theorem Acts.next_filter {label : Option String} {test : α → Outcome} {inner : Plan α}
    {c : Cursor (.filter label test inner)} {s : Script α} (h : Acts vectors c s) {w : World α}
    (same : w.vectors = vectors) :
    ∃ c', c.next w = (s.next?.getD (.error .exhausted), c', w.logAll s.events) ∧
      Acts vectors c' s.tail := by
  cases h with
  | @found _ _ _ rest s r h => exact ⟨.filter none rest, rfl, .filter h⟩
  | @filter _ _ _ rest s h =>
    obtain ⟨rest', s', sought, acts, left⟩ :=
      search_eq label test (follows inner) h same
    have sought' : seek (advanceBy (fun (c : Cursor inner) w => c.hasNext w) fun c w => c.next w)
        label test (rest.remaining w + 1) rest w = _ := sought
    exact ⟨.filter none rest', by simp only [next, sought'], left ▸ .filter acts⟩

end Cursor

namespace Script

def spend (step : σ → α → ForInStep σ) : σ → Script α → List Event × Script α
  | _, finish events => (events, finish [])
  | _, deliver events (.error _) rest => (events, rest)
  | s, deliver events (.ok x) rest => match step s x with
    | .done _ => (events, rest)
    | .yield s =>
      let (later, left) := spend step s rest
      (events ++ later, left)

/-- What a call on a filter is answered, what happens meanwhile, and what is left. -/
def answer (s : Script α) : Call α → Answer α × List Event × Script α
  | .hasNext => (.more s.next?.isSome, s.events, s.ahead)
  | .next => (.result (s.next?.getD (.error .exhausted)), s.events, s.tail)
  | .traverse go =>
    let ((items, fault), _) := consume (recordWhile go) [] s.results
    let (events, left) := s.spend (recordWhile go) []
    (.visited items fault, events, left)

def run (s : Script α) : List (Call α) → List (Answer α) × List Event × Script α
  | [] => ([], [], s)
  | call :: calls =>
    let (a, events, s) := s.answer call
    let (answers, later, s) := s.run calls
    (a :: answers, events ++ later, s)

/-- The script with only some of its events. -/
def only (keep : Event → Bool) : Script α → Script α
  | finish events => finish (events.filter keep)
  | deliver events r rest => deliver (events.filter keep) r (rest.only keep)

end Script

def Plan.isFilter : Plan α → Bool
  | filter .. => true
  | _ => false

theorem Plan.eq_filter_of_isFilter {p : Plan α} (h : p.isFilter = true) :
    ∃ label test inner, p = .filter label test inner := by
  cases p with
  | filter label test inner => exact ⟨label, test, inner, rfl⟩
  | _ => cases h

namespace Cursor

variable {vectors : String → List α} {p : Plan α} {c : Cursor p} {s : Script α} {w : World α}

theorem Acts.traverseFrom_eq (step : σ → α → ForInStep σ) {fuel : Nat} (a : σ)
    (h : Acts vectors c s) (same : w.vectors = vectors) (enough : s.results.length < fuel) :
    ∃ c', traverseFrom step fuel a c w =
        ((consume step a s.results).1, c', w.logAll (s.spend step a).1) ∧
      Acts vectors c' (s.spend step a).2 := by
  induction s generalizing fuel a c w with
  | finish events =>
    obtain ⟨fuel, rfl⟩ := Nat.exists_eq_succ_of_ne_zero (Nat.ne_zero_of_lt enough)
    obtain ⟨c', took, acts⟩ := follows p c _ w h same
    exact ⟨c', by rw [traverseFrom, took]; rfl, acts⟩
  | deliver events r rest ih =>
    obtain ⟨fuel, rfl⟩ := Nat.exists_eq_succ_of_ne_zero (Nat.ne_zero_of_lt enough)
    obtain ⟨c', took, acts⟩ := follows p c _ w h same
    cases r with
    | error e => exact ⟨c', by rw [traverseFrom, took]; rfl, acts⟩
    | ok x =>
      cases taken : step a x with
      | done a' =>
        refine ⟨c', ?_, by simpa [Script.spend, Script.tail, taken] using acts⟩
        rw [traverseFrom, took]
        simp [Script.next?, Script.events, Script.results, Script.spend, consume, taken]
      | yield a' =>
        obtain ⟨c'', went, acts'⟩ := ih a' acts (w := w.logAll events) same
          (Nat.lt_of_succ_lt_succ enough)
        refine ⟨c'', ?_, by simpa [Script.spend, taken] using acts'⟩
        rw [traverseFrom, took]
        simp only [Script.next?, Script.events, taken]
        simpa [Script.results, Script.spend, consume, taken] using went

theorem Acts.traverse_eq (step : σ → α → ForInStep σ) (a : σ) (h : Acts vectors c s)
    (same : w.vectors = vectors) :
    ∃ c', c.traverse step a w =
        ((consume step a s.results).1, c', w.logAll (s.spend step a).1) ∧
      Acts vectors c' (s.spend step a).2 := by
  have enough : s.results.length < c.remaining w + 1 := by
    have := length_pending_le w c
    rw [same, ← h.results_eq] at this
    omega
  exact h.traverseFrom_eq step a same enough

/-- A filter answers as its script says, whatever the call. -/
theorem Acts.answer_filter (top : p.isFilter = true) (h : Acts vectors c s)
    (same : w.vectors = vectors) (call : Call α) :
    ∃ c', c.answer w call = ((s.answer call).1, c', w.logAll (s.answer call).2.1) ∧
      Acts vectors c' (s.answer call).2.2 := by
  obtain ⟨label, test, inner, rfl⟩ := Plan.eq_filter_of_isFilter top
  cases call with
  | hasNext =>
    obtain ⟨c', asked, acts⟩ := h.hasNext_filter same
    exact ⟨c', by simp only [answer, asked, Script.answer], acts⟩
  | next =>
    obtain ⟨c', took, acts⟩ := h.next_filter same
    exact ⟨c', by simp only [answer, took, Script.answer], acts⟩
  | traverse go =>
    obtain ⟨c', went, acts⟩ := h.traverse_eq (recordWhile go) [] same
    exact ⟨c', by simp only [answer, went, Script.answer], acts⟩

theorem Acts.run_filter (top : p.isFilter = true) (h : Acts vectors c s)
    (same : w.vectors = vectors) (calls : List (Call α)) :
    ∃ c', c.run w calls = ((s.run calls).1, c', w.logAll (s.run calls).2.1) ∧
      Acts vectors c' (s.run calls).2.2 := by
  induction calls generalizing c s w with
  | nil => exact ⟨c, rfl, h⟩
  | cons call calls ih =>
    obtain ⟨c', answered, acts⟩ := h.answer_filter top same call
    obtain ⟨c'', ran, acts'⟩ := ih acts (w := w.logAll (s.answer call).2.1) same
    refine ⟨c'', ?_, acts'⟩
    simp only [run, answered, ran, Script.run, World.logAll_logAll]

end Cursor
end RecordFilter
