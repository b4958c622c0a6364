import RecordFilter.Proofs.Cursor.Pending

namespace RecordFilter

variable {α : Type}

/-- An element of a shared vector, and what it is delivered as. -/
structure Entry (α : Type) where
  vector : String
  item : α
  delivered : α

namespace Entry

def ofItem (vector : String) (x : α) : Entry α := ⟨vector, x, x⟩

def map (f : α → α) (e : Entry α) : Entry α := { e with delivered := f e.delivered }

end Entry

namespace Plan

/-- Whether a plan is of shared vectors, mapped and concatenated in any way. -/
def Removable : Plan α → Prop
  | shared _ => True
  | map _ _ inner => inner.Removable
  | stop => True
  | link head tail => head.Removable ∧ tail.Removable
  | _ => False

def vectorNames : Plan α → List String
  | shared name => [name]
  | map _ _ inner => inner.vectorNames
  | link head tail => head.vectorNames ++ tail.vectorNames
  | _ => []

def entries (vectors : String → List α) : Plan α → List (Entry α)
  | shared name => (vectors name).map (.ofItem name)
  | map _ f inner => (inner.entries vectors).map (.map f)
  | link head tail => head.entries vectors ++ tail.entries vectors
  | _ => []

theorem results_eq_entries (vectors : String → List α) {p : Plan α} (removable : p.Removable) :
    p.results vectors = ((p.entries vectors).map (·.delivered)).map .ok := by
  induction p with
  | shared name => simp [results, entries, Entry.ofItem]
  | map label f inner ih =>
    rw [results, ih removable]
    simp [entries, Entry.map, Except.map]
  | stop => rfl
  | link head tail first others =>
    rw [results, first removable.1, others removable.2]
    simp [entries]
  | empty => exact removable.elim
  | sequence label items => exact removable.elim
  | filter label test inner _ => exact removable.elim

end Plan

/-- What has become of the elements of a plan: those that were returned and stay, the one returned
last while it can be removed, and those not yet returned. -/
structure Ledger (α : Type) where
  kept : List (Entry α)
  current : Option (Entry α)
  rest : List (Entry α)

namespace Ledger

def opening (entries : List (Entry α)) : Ledger α := ⟨[], none, entries⟩

def left (l : Ledger α) : List (Entry α) := l.kept ++ l.current.toList ++ l.rest

/-- The next element is returned, and the one before it stays. -/
def advance (l : Ledger α) : Ledger α := match l.rest with
  | [] => l
  | e :: rest => ⟨l.kept ++ l.current.toList, some e, rest⟩

theorem advance_nil {l : Ledger α} (ended : l.rest = []) : l.advance = l := by
  rw [advance, ended]

theorem advance_cons {l : Ledger α} {e : Entry α} {rest : List (Entry α)}
    (left : l.rest = e :: rest) : l.advance = ⟨l.kept ++ l.current.toList, some e, rest⟩ := by
  rw [advance, left]

def removed (l : Ledger α) : Ledger α := { l with current := none }

def map (f : α → α) (l : Ledger α) : Ledger α :=
  ⟨l.kept.map (.map f), l.current.map (.map f), l.rest.map (.map f)⟩

theorem left_map (f : α → α) (l : Ledger α) : (l.map f).left = l.left.map (.map f) := by
  obtain ⟨kept, current, rest⟩ := l
  cases current <;> simp [map, left]

theorem advance_map (f : α → α) (l : Ledger α) : (l.map f).advance = l.advance.map f := by
  obtain ⟨kept, current, rest⟩ := l
  cases rest <;> cases current <;> simp [map, advance]

def nextPart (first others : Ledger α) : Option Part := match first.rest, others.rest with
  | _ :: _, _ => some .head
  | [], _ :: _ => some .tail
  | [], [] => none

/-- The ledger of a concatenation from those of its parts: the part that returned last has the
current element, and before that all elements that the other part returned. -/
inductive Joins : Option Part → Ledger α → Ledger α → Ledger α → Prop where
  | start (rest rest' : List (Entry α)) :
      Joins none (opening rest) (opening rest') (opening (rest ++ rest'))
  | head (kept : List (Entry α)) (current : Option (Entry α)) (rest rest' : List (Entry α)) :
      Joins (some .head) ⟨kept, current, rest⟩ (opening rest') ⟨kept, current, rest ++ rest'⟩
  | tail (kept : List (Entry α)) (current : Option (Entry α)) (kept' : List (Entry α))
      (current' : Option (Entry α)) (rest' : List (Entry α)) :
      Joins (some .tail) ⟨kept, current, []⟩ ⟨kept', current', rest'⟩
        ⟨kept ++ current.toList ++ kept', current', rest'⟩

namespace Joins

variable {last : Option Part} {first others all : Ledger α}

theorem rest_eq (joined : Joins last first others all) : all.rest = first.rest ++ others.rest := by
  cases joined <;> rfl

theorem left_eq (joined : Joins last first others all) : all.left = first.left ++ others.left := by
  cases joined <;> simp [left, opening]

theorem advance_head (joined : Joins last first others all) (more : first.rest ≠ []) :
    Joins (some .head) first.advance others all.advance := by
  cases joined with
  | start rest rest' =>
    cases rest with
    | nil => exact absurd rfl more
    | cons e rest => exact .head [] (some e) rest rest'
  | head kept current rest rest' =>
    cases rest with
    | nil => exact absurd rfl more
    | cons e rest => exact .head (kept ++ current.toList) (some e) rest rest'
  | tail => exact absurd rfl more

theorem advance_tail (joined : Joins last first others all) (spent : first.rest = [])
    (more : others.rest ≠ []) : Joins (some .tail) first others.advance all.advance := by
  cases joined with
  | start rest rest' =>
    obtain rfl : rest = [] := spent
    cases rest' with
    | nil => exact absurd rfl more
    | cons e rest' => exact .tail [] none [] (some e) rest'
  | head kept current rest rest' =>
    obtain rfl : rest = [] := spent
    cases rest' with
    | nil => exact absurd rfl more
    | cons e rest' =>
      have joined := Joins.tail kept current [] (some e) rest'
      rwa [List.append_nil] at joined
  | tail kept current kept' current' rest' =>
    cases rest' with
    | nil => exact absurd rfl more
    | cons e rest' =>
      have joined := Joins.tail kept current (kept' ++ current'.toList) (some e) rest'
      rwa [← List.append_assoc] at joined

end Joins
end Ledger

namespace Cursor

/-- A ledger is true of a cursor in a world with these vectors. Behind a member of a concatenation
that was passed, nothing of it is left to return. -/
inductive Tracks (vectors : String → List α) : {p : Plan α} → Cursor p → Ledger α → Prop where
  | shared {name : String} (kept : List α) (current : Option α) (rest : List α)
      (parts : vectors name = kept ++ current.toList ++ rest) :
      Tracks vectors
        (.shared (kept.length + current.toList.length) (current.map fun _ => kept.length) false :
          Cursor (.shared name))
        ⟨kept.map (.ofItem name), current.map (.ofItem name), rest.map (.ofItem name)⟩
  | map {label : Option String} {f : α → α} {inner : Plan α} {rest : Cursor inner} {l : Ledger α}
      (tracked : Tracks vectors rest l) :
      Tracks vectors (.map rest : Cursor (.map label f inner)) (l.map f)
  | stop : Tracks vectors .stop (.opening [])
  | link {head tail : Plan α} {first : Cursor head} {passed : Bool} {others : Cursor tail}
      {last : Option Part} {l l' all : Ledger α} (tracked : Tracks vectors first l)
      (tracked' : Tracks vectors others l') (spent : passed = true → l.rest = [])
      (joined : Ledger.Joins last l l' all) : Tracks vectors (.link first passed others last) all

namespace Tracks

variable {vectors vectors' : String → List α} {p : Plan α} {c : Cursor p} {l : Ledger α}

theorem opening (vectors : String → List α) (removable : p.Removable) :
    Tracks vectors p.start (.opening (p.entries vectors)) := by
  induction p with
  | shared name => exact .shared [] none (vectors name) rfl
  | map label f inner ih => exact .map (ih removable)
  | stop => exact .stop
  | link head tail first others =>
    exact .link (first removable.1) (others removable.2) nofun (.start _ _)
  | empty => exact removable.elim
  | sequence label items => exact removable.elim
  | filter label test inner _ => exact removable.elim

/-- The vectors hold all that was not removed, and nothing else. -/
theorem entries_eq (tracked : Tracks vectors c l) : p.entries vectors = l.left := by
  induction tracked with
  | shared kept current rest parts =>
    rw [Plan.entries, parts]
    cases current <;> simp [Ledger.left]
  | map _ ih => rw [Plan.entries, ih, Ledger.left_map]
  | stop => rfl
  | link _ _ _ joined ih ih' => rw [Plan.entries, ih, ih', joined.left_eq]

theorem congr (tracked : Tracks vectors c l)
    (same : ∀ name ∈ p.vectorNames, vectors' name = vectors name) : Tracks vectors' c l := by
  induction tracked with
  | shared kept current rest parts =>
    exact .shared kept current rest ((same _ List.mem_cons_self).trans parts)
  | map _ ih => exact .map (ih same)
  | stop => exact .stop
  | link _ _ spent joined ih ih' =>
    exact .link (ih fun name member => same name (List.mem_append_left _ member))
      (ih' fun name member => same name (List.mem_append_right _ member)) spent joined

theorem setVector {w : World α} (tracked : Tracks w.vectors c l) {name : String} (items : List α)
    (other : name ∉ p.vectorNames) : Tracks (w.setVector name items).vectors c l := by
  refine tracked.congr fun name' member => ?_
  have apart : name' ≠ name := fun same => other (same ▸ member)
  simp [World.setVector, apart]

theorem current_mem (tracked : Tracks vectors c l) {e : Entry α} (current : l.current = some e) :
    e.vector ∈ p.vectorNames := by
  induction tracked generalizing e with
  | shared kept current' rest parts =>
    obtain ⟨x, -, rfl⟩ := Option.map_eq_some_iff.mp current
    exact List.mem_cons_self
  | map _ ih =>
    obtain ⟨e', current', rfl⟩ := Option.map_eq_some_iff.mp current
    exact ih (e := e') current'
  | stop => cases current
  | link _ _ _ joined ih ih' =>
    cases joined with
    | start => cases current
    | head => exact List.mem_append_left _ (ih current)
    | tail => exact List.mem_append_right _ (ih' current)

end Tracks

def Asked (w : World α) {p : Plan α} (c : Cursor p) (l : Ledger α) : Prop :=
  ∃ c', c.hasNext w = (!l.rest.isEmpty, c', w) ∧ Tracks w.vectors c' l

theorem choosePart_tracks {head tail : Plan α} {passed : Bool} {first : Cursor head}
    {others : Cursor tail} {l l' : Ledger α} {w : World α} (tracked : Tracks w.vectors first l)
    (tracked' : Tracks w.vectors others l') (spent : passed = true → l.rest = [])
    (asked : first.Asked w l) (asked' : others.Asked w l') :
    ∃ first' others', choosePart (fun (c : Cursor head) w => c.hasNext w)
        (fun (c : Cursor tail) w => c.hasNext w) passed first others w =
          (l.nextPart l', first', others', w) ∧
      Tracks w.vectors first' l ∧ Tracks w.vectors others' l' := by
  obtain ⟨first', asked, kept⟩ := asked
  obtain ⟨others', asked', kept'⟩ := asked'
  cases left : l.rest with
  | nil =>
    have part : l.nextPart l' = if !l'.rest.isEmpty then some .tail else none := by
      rw [Ledger.nextPart, left]
      cases l'.rest <;> rfl
    cases passed with
    | true => exact ⟨first, others', by simp [choosePart, asked', part], tracked, kept'⟩
    | false => exact ⟨first', others', by simp [choosePart, asked, asked', left, part], kept, kept'⟩
  | cons e rest =>
    cases passed with
    | true => exact absurd (spent rfl) (by simp [left])
    | false =>
      have part : l.nextPart l' = some .head := by rw [Ledger.nextPart, left]
      exact ⟨first', others, by simp [choosePart, asked, left, part], kept, tracked'⟩

/-- Asking for more moves past members that have run out, and changes nothing else. -/
theorem asked {p : Plan α} {c : Cursor p} {l : Ledger α} {w : World α}
    (tracked : Tracks w.vectors c l) : c.Asked w l := by
  induction tracked with
  | @shared name kept current rest parts =>
    refine ⟨_, ?_, .shared kept current rest parts⟩
    have more : decide (kept.length + current.toList.length < (w.vectors name).length) =
        !rest.isEmpty := by
      cases rest <;> simp [parts]
    simp [hasNext, more]
  | map _ ih =>
    obtain ⟨rest', asked, tracked'⟩ := ih
    exact ⟨.map rest', by simp [hasNext, asked, Ledger.map], .map tracked'⟩
  | stop => exact ⟨.stop, rfl, .stop⟩
  | @link head tail first passed others last l l' all tracked tracked' spent joined ih ih' =>
    obtain ⟨first', others', chosen, kept, kept'⟩ := choosePart_tracks tracked tracked' spent ih ih'
    have spent' : decide (l.nextPart l' ≠ some .head) = true → l.rest = [] := by
      cases left : l.rest <;> simp [Ledger.nextPart, left]
    refine ⟨_, ?_, .link kept kept' spent' joined⟩
    have more : (l.nextPart l').isSome = !all.rest.isEmpty := by
      rw [joined.rest_eq, Ledger.nextPart]
      cases l.rest <;> cases l'.rest <;> rfl
    simp [hasNext, chosen, more]

def Taken (w : World α) {p : Plan α} (c : Cursor p) (l : Ledger α) : Prop :=
  ∃ c' w', c.next w = (.ofOption (l.rest.head?.map (·.delivered)), c', w') ∧
    Tracks w.vectors c' l.advance ∧ w'.vectors = w.vectors

theorem taken_shared {name : String} {c : Cursor (.shared name)} {l : Ledger α} {w : World α}
    (tracked : Tracks w.vectors c l) : c.Taken w l := by
  cases tracked with
  | shared kept current rest parts =>
    cases rest with
    | nil =>
      have none : (w.vectors name)[kept.length + current.toList.length]? = none := by
        simp [parts]
      exact ⟨_, w, by simp [next, none, Result.ofOption], .shared kept current [] parts, rfl⟩
    | cons x rest =>
      have some : (w.vectors name)[kept.length + current.toList.length]? = some x := by
        rw [parts, ← List.length_append]
        simp
      have parts' : w.vectors name = kept ++ current.toList ++ [x] ++ rest := by simp [parts]
      have tracked := Tracks.shared (kept ++ current.toList) (.some x) rest parts'
      refine ⟨.shared (kept.length + current.toList.length + 1)
        (.some (kept.length + current.toList.length)) false, w.log (.pulled .none), ?_, ?_, rfl⟩
      · simp [next, some, Result.ofOption, Entry.ofItem]
      · cases current <;> simpa [Ledger.advance] using tracked

theorem taken_map {label : Option String} {f : α → α} {inner : Plan α} {c : Cursor inner}
    {l : Ledger α} {w : World α} (taken : c.Taken w l) :
    (Cursor.map c : Cursor (.map label f inner)).Taken w (l.map f) := by
  obtain ⟨c', w', took, tracked, same⟩ := taken
  have tracked' : Tracks w.vectors (.map c' : Cursor (.map label f inner)) (l.map f).advance := by
    rw [Ledger.advance_map]
    exact .map tracked
  cases left : l.rest with
  | nil =>
    refine ⟨.map c', w', ?_, tracked', same⟩
    simp [next, took, left, Ledger.map, Result.ofOption]
  | cons e rest =>
    refine ⟨.map c', w'.log (.mapped label), ?_, tracked', same⟩
    simp [next, took, left, Ledger.map, Result.ofOption, Entry.map]

theorem taken_link {head tail : Plan α} {w : World α}
    (taking : ∀ {c : Cursor head} {l : Ledger α}, Tracks w.vectors c l → c.Taken w l)
    (taking' : ∀ {c : Cursor tail} {l : Ledger α}, Tracks w.vectors c l → c.Taken w l)
    {passed : Bool} {last : Option Part} {first : Cursor head} {others : Cursor tail}
    {l l' all : Ledger α} (tracked : Tracks w.vectors first l)
    (tracked' : Tracks w.vectors others l') (spent : passed = true → l.rest = [])
    (joined : Ledger.Joins last l l' all) : (Cursor.link first passed others last).Taken w all := by
  obtain ⟨first', others', chosen, tracked, tracked'⟩ :=
    choosePart_tracks tracked tracked' spent (asked tracked) (asked tracked')
  cases left : l.rest with
  | cons e rest =>
    obtain ⟨first'', w', took, advanced, same⟩ := taking tracked
    have part : l.nextPart l' = some .head := by rw [Ledger.nextPart, left]
    refine ⟨.link first'' false others' (some .head), w', ?_,
      .link advanced tracked' nofun (joined.advance_head (by simp [left])), same⟩
    simp [next, chosen, part, took, joined.rest_eq, left, Result.ofOption, Part.ofResult]
  | nil =>
    cases left' : l'.rest with
    | cons e rest =>
      obtain ⟨others'', w', took, advanced, same⟩ := taking' tracked'
      have part : l.nextPart l' = some .tail := by rw [Ledger.nextPart, left, left']
      refine ⟨.link first' true others'' (some .tail), w', ?_,
        .link tracked advanced (fun _ => left) (joined.advance_tail left (by simp [left'])), same⟩
      simp [next, chosen, part, took, joined.rest_eq, left, left', Result.ofOption, Part.ofResult]
    | nil =>
      have part : l.nextPart l' = none := by rw [Ledger.nextPart, left, left']
      have ended : all.rest = [] := by rw [joined.rest_eq, left, left', List.append_nil]
      refine ⟨.link first' true others' last, w, ?_, ?_, rfl⟩
      · simp [next, chosen, part, ended, Result.ofOption]
      · rw [Ledger.advance_nil ended]
        exact .link tracked tracked' (fun _ => left) joined

theorem taken {p : Plan α} {c : Cursor p} {l : Ledger α} {w : World α}
    (tracked : Tracks w.vectors c l) : c.Taken w l := by
  -- on the plan and not on `tracked`: a part is asked first, and gives the element from where
  -- asking has left it
  induction p generalizing l with
  | shared name => exact taken_shared tracked
  | map label f inner ih =>
    cases tracked with
    | map tracked => exact taken_map (ih tracked)
  | stop =>
    cases tracked with
    | stop => exact ⟨.stop, w, rfl, .stop, rfl⟩
  | link head tail ih ih' =>
    cases tracked with
    | link tracked tracked' spent joined => exact taken_link ih ih' tracked tracked' spent joined
  | empty => cases tracked
  | sequence label items => cases tracked
  | filter label test inner _ => cases tracked

theorem remove_none {p : Plan α} {c : Cursor p} {l : Ledger α} {w : World α}
    (tracked : Tracks w.vectors c l) (none : l.current = none) :
    c.remove w = (.error .noCurrent, c, w) := by
  induction tracked with
  | shared kept current rest parts =>
    obtain rfl : current = .none := Option.map_eq_none_iff.mp none
    rfl
  | map _ ih => rw [remove, ih (Option.map_eq_none_iff.mp none)]
  | stop => rfl
  | link _ _ _ joined ih ih' =>
    cases joined with
    | start => rfl
    | head => rw [remove, ih none]
    | tail => rw [remove, ih' none]

/-- The current element goes from the vector it came from, whatever part of the tree is asked
next. -/
theorem remove_some {p : Plan α} {c : Cursor p} {l : Ledger α} {w : World α}
    (tracked : Tracks w.vectors c l) (distinct : p.vectorNames.Nodup) {e : Entry α}
    (current : l.current = some e) :
    ∃ c' before after, w.vectors e.vector = before ++ e.item :: after ∧
      c.remove w = (.ok (), c', w.setVector e.vector (before ++ after)) ∧
      Tracks (w.setVector e.vector (before ++ after)).vectors c' l.removed := by
  induction tracked generalizing e with
  | @shared name kept current' rest parts =>
    obtain ⟨x, rfl, rfl⟩ := Option.map_eq_some_iff.mp current
    have held : w.vectors name = kept ++ x :: rest := by simpa using parts
    have parts' : (w.setVector name (kept ++ rest)).vectors name = kept ++ [] ++ rest := by
      simp [World.setVector]
    have tracked' := Tracks.shared kept none rest parts'
    refine ⟨.shared kept.length none false, kept, rest, held, ?_, tracked'⟩
    simp [remove, held, List.eraseIdx_append_of_length_le, Entry.ofItem]
  | @map _ _ _ rest l _ ih =>
    obtain ⟨e', current', rfl⟩ := Option.map_eq_some_iff.mp current
    obtain ⟨c', before, after, held, removed, tracked'⟩ := ih distinct current'
    refine ⟨.map c', before, after, held, ?_, .map tracked'⟩
    simp [remove, removed, Entry.map]
  | stop => cases current
  | @link head tail first passed others last l l' all tracked tracked' spent joined ih ih' =>
    obtain ⟨distinct, distinct', apart⟩ := List.nodup_append.mp distinct
    cases joined with
    | start => cases current
    | head =>
      have here := tracked.current_mem current
      obtain ⟨c', before, after, held, removed, tracked⟩ := ih distinct current
      have tracked' := tracked'.setVector (before ++ after) fun there => apart _ here _ there rfl
      refine ⟨.link c' passed others (some .head), before, after, held, ?_,
        .link tracked tracked' spent (.head ..)⟩
      simp [remove, removed]
    | tail =>
      have here := tracked'.current_mem current
      obtain ⟨c', before, after, held, removed, tracked'⟩ := ih' distinct' current
      have tracked := tracked.setVector (before ++ after) fun there => apart _ there _ here rfl
      refine ⟨.link first passed c' (some .tail), before, after, held, ?_,
        .link tracked tracked' spent (.tail ..)⟩
      simp [remove, removed]

end Cursor

inductive Request where
  | hasNext
  | next
  | remove

inductive Response (α : Type) where
  | more (b : Bool)
  | result (r : Result α)
  | removed (r : Result Unit)

namespace Response

def returned : Response α → List α
  | result (.ok x) => [x]
  | _ => []

/-- An item was returned, and nothing was removed since. -/
def HasCurrent (responses : List (Response α)) : Prop :=
  ∃ earlier x later, responses = earlier ++ result (.ok x) :: later ∧ removed (.ok ()) ∉ later

theorem not_hasCurrent_nil : ¬HasCurrent ([] : List (Response α)) := by
  rintro ⟨earlier, x, later, parts, -⟩
  cases earlier <;> cases parts

theorem hasCurrent_cons (response : Response α) (responses : List (Response α)) :
    HasCurrent (response :: responses) ↔ HasCurrent responses ∨
      (∃ x, response = result (.ok x)) ∧ removed (.ok ()) ∉ responses := by
  constructor
  · rintro ⟨earlier, x, later, parts, kept⟩
    cases earlier with
    | nil =>
      obtain ⟨rfl, rfl⟩ := List.cons.inj parts
      exact .inr ⟨⟨x, rfl⟩, kept⟩
    | cons _ earlier => exact .inl ⟨earlier, x, later, (List.cons.inj parts).2, kept⟩
  · rintro (⟨earlier, x, later, rfl, kept⟩ | ⟨⟨x, rfl⟩, kept⟩)
    · exact ⟨response :: earlier, x, later, rfl, kept⟩
    · exact ⟨[], x, responses, rfl, kept⟩

end Response

namespace Cursor

variable {p : Plan α}

def respond (c : Cursor p) (w : World α) : Request → Response α × Cursor p × World α
  | .hasNext =>
    let (more, c, w) := c.hasNext w
    (.more more, c, w)
  | .next =>
    let (r, c, w) := c.next w
    (.result r, c, w)
  | .remove =>
    let (r, c, w) := c.remove w
    (.removed r, c, w)

def respondAll (c : Cursor p) (w : World α) :
    List Request → List (Response α) × Cursor p × World α
  | [] => ([], c, w)
  | request :: requests =>
    let (response, c, w) := c.respond w request
    let (responses, c, w) := c.respondAll w requests
    (response :: responses, c, w)

end Cursor

namespace Ledger

def note (l : Ledger α) : Response α → Ledger α
  | .result (.ok _) => l.advance
  | .removed (.ok ()) => l.removed
  | _ => l

def notes (l : Ledger α) (responses : List (Response α)) : Ledger α := responses.foldl note l

theorem note_parts (l : Ledger α) (response : Response α) :
    ∃ before, l.current.toList ++ l.rest =
      before ++ (l.note response).current.toList ++ (l.note response).rest := by
  have same : ∃ before, l.current.toList ++ l.rest = before ++ l.current.toList ++ l.rest :=
    ⟨[], rfl⟩
  cases response with
  | more b => exact same
  | result r =>
    cases r with
    | error e => exact same
    | ok x =>
      cases left : l.rest with
      | nil => rwa [note, advance_nil left, ← left]
      | cons e rest => exact ⟨l.current.toList, by simp [note, advance_cons left]⟩
  | removed r =>
    cases r with
    | error e => exact same
    | ok u => exact ⟨l.current.toList, by simp [note, removed]⟩

theorem notes_parts (l : Ledger α) (responses : List (Response α)) :
    ∃ before, l.current.toList ++ l.rest =
      before ++ (l.notes responses).current.toList ++ (l.notes responses).rest := by
  induction responses generalizing l with
  | nil => exact ⟨[], rfl⟩
  | cons response responses ih =>
    obtain ⟨before, parts⟩ := ih (l.note response)
    obtain ⟨passed, parts'⟩ := l.note_parts response
    refine ⟨passed ++ before, ?_⟩
    rw [parts', List.append_assoc, parts]
    simp [notes]

theorem current_notes (l : Ledger α) (responses : List (Response α))
    (fits : responses.flatMap (·.returned) <+: l.rest.map (·.delivered)) :
    (l.notes responses).current.isSome ↔ Response.HasCurrent responses ∨
      l.current.isSome ∧ .removed (.ok ()) ∉ responses := by
  induction responses generalizing l with
  | nil => simp [notes, Response.not_hasCurrent_nil]
  | cons response responses ih =>
    have noted : (l.notes (response :: responses)) = (l.note response).notes responses := rfl
    rw [noted, Response.hasCurrent_cons]
    cases response with
    | more b =>
      have step := ih l (by simpa [Response.returned] using fits)
      simpa [note] using step
    | result r =>
      cases r with
      | error e =>
        have step := ih l (by simpa [Response.returned] using fits)
        simpa [note] using step
      | ok x =>
        cases left : l.rest with
        | nil => simp [left, Response.returned] at fits
        | cons e rest =>
          have advanced : l.note (.result (.ok x)) =
              ⟨l.kept ++ l.current.toList, some e, rest⟩ := by
            rw [note, advance_cons left]
          have fits' : responses.flatMap (·.returned) <+: rest.map (·.delivered) := by
            rw [left] at fits
            exact (List.cons_prefix_cons.mp fits).2
          rw [advanced, ih _ fits']
          by_cases removal : .removed (.ok ()) ∈ responses <;> simp [removal]
    | removed r =>
      cases r with
      | error e =>
        have step := ih l (by simpa [Response.returned] using fits)
        simpa [note] using step
      | ok u =>
        have step := ih l.removed (by simpa [Response.returned, removed] using fits)
        simpa [note, removed] using step

end Ledger

namespace Cursor

variable {p : Plan α}

theorem respond_tracks {c : Cursor p} {l : Ledger α} {w : World α} (tracked : Tracks w.vectors c l)
    (distinct : p.vectorNames.Nodup) (request : Request) :
    ∃ response c' w', c.respond w request = (response, c', w') ∧
      Tracks w'.vectors c' (l.note response) ∧
      l.rest.map (·.delivered) = response.returned ++ (l.note response).rest.map (·.delivered) ∧
      ∀ name ∉ p.vectorNames, w'.vectors name = w.vectors name := by
  cases request with
  | hasNext =>
    obtain ⟨c', asked, tracked'⟩ := asked tracked
    refine ⟨.more !l.rest.isEmpty, c', w, ?_, tracked', rfl, fun _ _ => rfl⟩
    rw [respond, asked]
  | next =>
    obtain ⟨c', w', took, tracked', same⟩ := taken tracked
    rw [← same] at tracked'
    have frame (name : String) : w'.vectors name = w.vectors name := congrFun same name
    cases left : l.rest with
    | nil =>
      rw [Ledger.advance_nil left] at tracked'
      refine ⟨.result (.error .exhausted), c', w', ?_, tracked', ?_, fun name _ => frame name⟩
      · simp [respond, took, left, Result.ofOption]
      · simp [Response.returned, Ledger.note, left]
    | cons e rest =>
      refine ⟨.result (.ok e.delivered), c', w', ?_, tracked', ?_, fun name _ => frame name⟩
      · simp [respond, took, left, Result.ofOption]
      · simp [Response.returned, Ledger.note, Ledger.advance_cons left]
  | remove =>
    cases current : l.current with
    | none =>
      refine ⟨.removed (.error .noCurrent), c, w, ?_, tracked, rfl, fun _ _ => rfl⟩
      rw [respond, remove_none tracked current]
    | some e =>
      obtain ⟨c', before, after, -, removed, tracked'⟩ := remove_some tracked distinct current
      refine ⟨.removed (.ok ()), c', _, ?_, tracked', rfl, fun name other => ?_⟩
      · rw [respond, removed]
      · have apart : name ≠ e.vector := fun same => other (same ▸ tracked.current_mem current)
        simp [World.setVector, apart]

theorem respondAll_tracks {c : Cursor p} {l : Ledger α} {w : World α}
    (tracked : Tracks w.vectors c l) (distinct : p.vectorNames.Nodup) (requests : List Request) :
    ∃ responses c' w', c.respondAll w requests = (responses, c', w') ∧
      Tracks w'.vectors c' (l.notes responses) ∧
      l.rest.map (·.delivered) =
        responses.flatMap (·.returned) ++ (l.notes responses).rest.map (·.delivered) ∧
      ∀ name ∉ p.vectorNames, w'.vectors name = w.vectors name := by
  induction requests generalizing c l w with
  | nil => exact ⟨[], c, w, rfl, tracked, rfl, fun _ _ => rfl⟩
  | cons request requests ih =>
    obtain ⟨response, c₁, w₁, responded, tracked₁, fits, frame⟩ :=
      respond_tracks tracked distinct request
    obtain ⟨responses, c₂, w₂, responded₂, tracked₂, fits₂, frame₂⟩ := ih tracked₁
    refine ⟨response :: responses, c₂, w₂, ?_, tracked₂, ?_, fun name other =>
      (frame₂ name other).trans (frame name other)⟩
    · simp only [respondAll, responded, responded₂]
    · rw [fits, fits₂, List.flatMap_cons, List.append_assoc]
      rfl

/-- Removing neither skips nor repeats anything. Whatever is requested of a tree over distinct
vectors, the items returned are the first of its results, and the next ones follow; the vectors hold
what was returned and not removed, and then what was not yet returned. A removal takes the item
returned last from the vector it came from, unless it is gone already or there is none: then nothing
changes. -/
theorem respondAll_accounts (p : Plan α) (w : World α) (removable : p.Removable)
    (distinct : p.vectorNames.Nodup) (requests : List Request) :
    ∃ responses c w', p.start.respondAll w requests = (responses, c, w') ∧
      let ledger := (Ledger.opening (p.entries w.vectors)).notes responses
      p.results w.vectors =
        (responses.flatMap (·.returned) ++ ledger.rest.map (·.delivered)).map .ok ∧
      (c.hasNext w').1 = !ledger.rest.isEmpty ∧
      (c.next w').1 = .ofOption (ledger.rest.head?.map (·.delivered)) ∧
      p.entries w'.vectors = ledger.left ∧
      (∀ name ∉ p.vectorNames, w'.vectors name = w.vectors name) ∧
      (Response.HasCurrent responses → ∃ e earlier before after c',
        p.entries w.vectors = earlier ++ e :: ledger.rest ∧
        w'.vectors e.vector = before ++ e.item :: after ∧
        c.remove w' = (.ok (), c', w'.setVector e.vector (before ++ after)) ∧
        p.entries (w'.setVector e.vector (before ++ after)).vectors = ledger.kept ++ ledger.rest) ∧
      (¬Response.HasCurrent responses → c.remove w' = (.error .noCurrent, c, w')) := by
  obtain ⟨responses, c, w', responded, tracked, fits, frame⟩ :=
    respondAll_tracks (.opening w.vectors removable) distinct requests
  refine ⟨responses, c, w', responded, ?_⟩
  have standing := (Ledger.opening (p.entries w.vectors)).current_notes responses ⟨_, fits.symm⟩
  obtain ⟨earlier, parts⟩ := (Ledger.opening (p.entries w.vectors)).notes_parts responses
  generalize (Ledger.opening (p.entries w.vectors)).notes responses = ledger at *
  obtain ⟨_, asked, -⟩ := asked tracked
  obtain ⟨_, _, took, -, -⟩ := taken tracked
  have delivered : p.results w.vectors =
      (responses.flatMap (·.returned) ++ ledger.rest.map (·.delivered)).map .ok := by
    rw [Plan.results_eq_entries w.vectors removable, ← fits]
    rfl
  refine ⟨delivered, congrArg Prod.fst asked, congrArg Prod.fst took, tracked.entries_eq, frame,
    fun returned => ?_, fun none => ?_⟩
  · obtain ⟨e, current⟩ := Option.isSome_iff_exists.mp (standing.mpr (.inl returned))
    obtain ⟨c', before, after, held, removed, tracked'⟩ := remove_some tracked distinct current
    refine ⟨e, earlier, before, after, c', ?_, held, removed, ?_⟩
    · simpa [Ledger.opening, current] using parts
    · simpa [Ledger.left, Ledger.removed] using tracked'.entries_eq
  · refine remove_none tracked (Option.not_isSome_iff_eq_none.mp fun some => ?_)
    exact (standing.mp some).elim none fun ⟨current, _⟩ => Bool.false_ne_true current

/-- The first vector's only item is removed after the tree was asked for more, which passes that
vector. -/
theorem respondAll_accounts_boundary :
    let p : Plan Nat := .map none (· + 10) (.link (.shared "a") (.link (.shared "b") .stop))
    let w : World Nat := ⟨fun name => if name = "a" then [1] else if name = "b" then [2, 3] else [],
      []⟩
    let requests : List Request := [.next, .hasNext, .remove, .next]
    p.Removable ∧ p.vectorNames.Nodup ∧ ∃ c w' c' w'', p.start.respondAll w requests =
        ([.result (.ok 11), .more true, .removed (.ok ()), .result (.ok 12)], c, w') ∧
      c.remove w' = (.ok (), c', w'') ∧ p.entries w''.vectors = [⟨"b", 3, 13⟩] := by
  intro p w requests
  have removable : p.Removable := ⟨trivial, trivial, trivial⟩
  have distinct : p.vectorNames.Nodup := by decide
  obtain ⟨responses, c, w', responded, -, -, -, -, -, removes, -⟩ :=
    respondAll_accounts p w removable distinct requests
  obtain rfl : responses = [.result (.ok 11), .more true, .removed (.ok ()), .result (.ok 12)] :=
    congrArg Prod.fst responded.symm
  have returned : Response.HasCurrent
      [.result (.ok 11), .more true, .removed (.ok ()), .result (.ok (12 : Nat))] :=
    ⟨[.result (.ok 11), .more true, .removed (.ok ())], 12, [], rfl, List.not_mem_nil⟩
  obtain ⟨_, _, _, _, c', -, -, removed, left⟩ := removes returned
  exact ⟨removable, distinct, c, w', c', _, responded, removed, left⟩

end Cursor
end RecordFilter
