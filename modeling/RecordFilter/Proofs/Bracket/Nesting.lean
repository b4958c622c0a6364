import RecordFilter.Proofs.Bracket.Reading

namespace RecordFilter

namespace BracketTree

variable {t u : BracketTree} {id p q : Nat}

def parent? (t : BracketTree) (id : Nat) : Option Nat := (t.get? id).bind (·.parent)

theorem parent?_eq : t.parent? id = (t.opening? id).bind (·.parent) := by
  rw [parent?, opening?]
  cases t.get? id <;> rfl

theorem parent?_push (kind : BracketKind) (parent : Option Nat) (start : Nat) :
    (t.push kind parent start).parent? id = if id = t.size then parent else t.parent? id := by
  rw [parent?_eq, opening?_push, parent?_eq]
  split <;> rfl

@[simp] theorem parent?_close (stop : Nat) : (t.close p stop).parent? id = t.parent? id := by
  rw [parent?_eq, opening?_close, parent?_eq]

theorem parent?_eq_none (h : t.size ≤ id) : t.parent? id = none := by
  rw [parent?, get?_eq_none_iff.mpr h, Option.bind_none]

/-- The brackets around a bracket, the innermost first. -/
def ancestors (t : BracketTree) (id : Nat) : List Nat :=
  match t.parent? id with
  | none => []
  | some p => if p < id then p :: t.ancestors p else [p]
termination_by id

theorem ancestors_of_root (h : t.parent? id = none) : t.ancestors id = [] := by
  rw [ancestors, h]

theorem ancestors_of_parent (h : t.parent? id = some p) (first : p < id) :
    t.ancestors id = p :: t.ancestors p := by
  rw [ancestors, h]
  exact if_pos first

theorem depth_eq_length (t : BracketTree) (id : Nat) : t.depth id = (t.ancestors id).length := by
  induction id using Nat.strong_induction_on with
  | h id ih =>
    rw [depth, ancestors]
    change (match t.parent? id with
      | none => 0
      | some p => if p < id then t.depth p + 1 else 1) = _
    cases t.parent? id with
    | none => rfl
    | some p =>
      by_cases first : p < id
      · simp [first, ih p first]
      · simp [first]

/-- The bracket around another one has opened before it. -/
def ParentsFirst (t : BracketTree) : Prop := ∀ id p, t.parent? id = some p → p < id

namespace ParentsFirst

/-- What passes from the bracket around to a bracket, and holds where none is around, holds. -/
theorem induct {motive : Nat → Prop} (parents : t.ParentsFirst)
    (root : ∀ id, t.parent? id = none → t.ancestors id = [] → motive id)
    (child : ∀ id p, t.parent? id = some p → p < id → t.ancestors id = p :: t.ancestors p →
      motive p → motive id) (id : Nat) : motive id := by
  induction id using Nat.strong_induction_on with
  | h id ih =>
    cases around : t.parent? id with
    | none => exact root id around (ancestors_of_root around)
    | some p =>
      have first := parents id p around
      exact child id p around first (ancestors_of_parent around first) (ih p first)

theorem lt_of_mem (parents : t.ParentsFirst) (h : q ∈ t.ancestors id) : q < id := by
  induction id using parents.induct with
  | root id _ alone =>
    rw [alone] at h
    cases h
  | child id p _ first chain ih =>
    rw [chain] at h
    rcases List.mem_cons.mp h with rfl | h
    · exact first
    · exact Nat.lt_trans (ih h) first

theorem nodup (parents : t.ParentsFirst) (id : Nat) : (t.ancestors id).Nodup := by
  induction id using parents.induct with
  | root id _ alone =>
    rw [alone]
    exact List.nodup_nil
  | child id p _ first chain ih =>
    rw [chain]
    exact List.nodup_cons.mpr ⟨fun h => Nat.lt_irrefl p (parents.lt_of_mem h), ih⟩

theorem ancestors_congr (parents : t.ParentsFirst)
    (same : ∀ j ≤ id, u.parent? j = t.parent? j) : u.ancestors id = t.ancestors id := by
  induction id using parents.induct with
  | root id around alone =>
    rw [alone]
    exact ancestors_of_root ((same id (Nat.le_refl id)).trans around)
  | child id p around first chain ih =>
    rw [chain, ancestors_of_parent ((same id (Nat.le_refl id)).trans around) first,
      ih fun j below => same j (by omega)]

end ParentsFirst

theorem lt_size_of_mem_ancestors (h : q ∈ t.ancestors id) : id < t.size := by
  by_contra outside
  rw [ancestors_of_root (parent?_eq_none (Nat.not_lt.mp outside))] at h
  cases h

/-- The tree of the tokens up to `bound`, of which some brackets are open. -/
structure Laid (t : BracketTree) (opened : List Nat) (bound : Nat) : Prop where
  parents : t.ParentsFirst
  /-- The innermost open bracket, with all brackets around it. -/
  chain : opened = [] ∨ ∃ id < t.size, opened = id :: t.ancestors id
  children : ∀ id b, t.get? id = some b →
    b.children = (List.range t.size).filter fun c => t.parent? c = some id
  open_iff : ∀ id < t.size, t.stop? id = none ↔ id ∈ opened
  starts_lt : ∀ id o, t.opening? id = some o → o.start < bound
  stops_lt : ∀ id e, t.stop? id = some e → e < bound
  spans : ∀ id o e, t.opening? id = some o → t.stop? id = some e → o.start < e
  ordered : ∀ i j a b, i < j → t.opening? i = some a → t.opening? j = some b → a.start < b.start
  inside : ∀ i j e, i ∈ t.ancestors j → t.stop? i = some e → ∃ e' < e, t.stop? j = some e'
  apart : ∀ i j b, i < j → i ∉ t.ancestors j → t.opening? j = some b →
    ∃ e < b.start, t.stop? i = some e

namespace Laid

variable {opened : List Nat} {bound : Nat}

theorem empty : Laid .empty [] 0 where
  parents := nofun
  chain := .inl rfl
  children := nofun
  open_iff := nofun
  starts_lt := nofun
  stops_lt := nofun
  spans := nofun
  ordered := nofun
  inside _ j _ h := absurd (lt_size_of_mem_ancestors h) (Nat.not_lt_zero j)
  apart := nofun

theorem mono (laid : Laid t opened bound) {bound' : Nat} (h : bound ≤ bound') :
    Laid t opened bound' :=
  { laid with
    starts_lt := fun id o found => Nat.lt_of_lt_of_le (laid.starts_lt id o found) h
    stops_lt := fun id e found => Nat.lt_of_lt_of_le (laid.stops_lt id e found) h }

theorem opened_lt (laid : Laid t opened bound) (h : id ∈ opened) : id < t.size := by
  rcases laid.chain with rfl | ⟨inner, known, rfl⟩
  · cases h
  · rcases List.mem_cons.mp h with rfl | h
    · exact known
    · exact Nat.lt_trans (laid.parents.lt_of_mem h) known

theorem exists_stop (laid : Laid t opened bound) (known : id < t.size) (closed : id ∉ opened) :
    ∃ e < bound, t.stop? id = some e := by
  cases stop : t.stop? id with
  | none => exact absurd ((laid.open_iff id known).mp stop) closed
  | some e => exact ⟨e, laid.stops_lt id e stop, rfl⟩

section

variable (kind : BracketKind) (start : Nat)

theorem ancestors_new (laid : Laid t opened bound) :
    (t.push kind opened.head? start).ancestors t.size = opened := by
  have around : (t.push kind opened.head? start).parent? t.size = opened.head? := by
    rw [parent?_push, if_pos rfl]
  rcases laid.chain with rfl | ⟨id, known, rfl⟩
  · exact ancestors_of_root around
  · rw [ancestors_of_parent around known]
    congr 1
    exact laid.parents.ancestors_congr fun j below => by
      rw [parent?_push, if_neg (by omega)]

theorem ancestors_old (laid : Laid t opened bound) {j : Nat} (known : j < t.size) :
    (t.push kind opened.head? start).ancestors j = t.ancestors j :=
  laid.parents.ancestors_congr fun i below => by
    rw [parent?_push, if_neg (by omega)]

theorem parentsFirst_push (laid : Laid t opened bound) :
    (t.push kind opened.head? start).ParentsFirst := by
  intro id p around
  rw [parent?_push] at around
  split at around
  · next new =>
    rw [new]
    exact laid.opened_lt (List.mem_of_mem_head? around)
  · exact laid.parents id p around

theorem children_push (laid : Laid t opened bound) {id : Nat} {b : Bracket}
    (h : (t.push kind opened.head? start).get? id = some b) :
    b.children = (List.range (t.push kind opened.head? start).size).filter fun c =>
      (t.push kind opened.head? start).parent? c = some id := by
  have older : (List.range t.size).filter (fun c =>
      (t.push kind opened.head? start).parent? c = some id) =
      (List.range t.size).filter fun c => t.parent? c = some id := by
    refine List.filter_congr fun c member => ?_
    rw [parent?_push, if_neg (Nat.ne_of_lt (List.mem_range.mp member))]
  rw [size_push, List.range_succ, List.filter_append, older]
  rw [get?_push] at h
  by_cases new : id = t.size
  · subst new
    have outer : opened.head? ≠ some t.size := fun around =>
      Nat.lt_irrefl _ (laid.opened_lt (List.mem_of_mem_head? around))
    have none : (List.range t.size).filter (fun c => t.parent? c = some t.size) = [] := by
      rw [List.filter_eq_nil_iff]
      intro c member around
      have first := laid.parents c t.size (by simpa using around)
      have := List.mem_range.mp member
      omega
    simp only [if_true, Option.map_some, if_neg outer, Option.some.injEq] at h
    subst h
    simp [none, parent?_push, outer]
  · rw [if_neg new] at h
    obtain ⟨b, found, rfl⟩ := Option.map_eq_some_iff.mp h
    have known := laid.children id b found
    by_cases around : opened.head? = some id
    · simp [around, known, parent?_push]
    · simp [around, known, parent?_push]

theorem push (laid : Laid t opened bound) (behind : bound ≤ start) :
    Laid (t.push kind opened.head? start) (t.size :: opened) (start + 1) where
  parents := laid.parentsFirst_push kind start
  chain := .inr ⟨t.size, by simp, by rw [laid.ancestors_new kind start]⟩
  children _ _ h := laid.children_push kind start h
  open_iff id known := by
    rw [stop?_push]
    rw [size_push] at known
    by_cases new : id = t.size
    · simp [new, stop?_eq_none (Nat.le_refl t.size)]
    · simp [new, laid.open_iff id (by omega)]
  starts_lt id o found := by
    rw [opening?_push] at found
    split at found
    · cases found
      exact Nat.lt_succ_self start
    · have := laid.starts_lt id o found
      omega
  stops_lt id e found := by
    rw [stop?_push] at found
    have := laid.stops_lt id e found
    omega
  spans id o e found stop := by
    rw [stop?_push] at stop
    rw [opening?_push] at found
    split at found
    · next new =>
      rw [new, stop?_eq_none (Nat.le_refl t.size)] at stop
      cases stop
    · exact laid.spans id o e found stop
  ordered i j a b less first second := by
    have known : j ≤ t.size := by
      by_contra outside
      rw [opening?_eq_none_iff.mpr (by rw [size_push]; omega)] at second
      cases second
    rw [opening?_push, if_neg (by omega)] at first
    rw [opening?_push] at second
    split at second
    · cases second
      exact Nat.lt_of_lt_of_le (laid.starts_lt i a first) behind
    · exact laid.ordered i j a b less first second
  inside i j e around stop := by
    rw [stop?_push] at stop ⊢
    have known := lt_size_of_mem_ancestors around
    rw [size_push] at known
    by_cases new : j = t.size
    · rw [new, laid.ancestors_new kind start] at around
      rw [(laid.open_iff i (laid.opened_lt around)).mpr around] at stop
      cases stop
    · rw [laid.ancestors_old kind start (by omega)] at around
      exact laid.inside i j e around stop
  apart i j b less away found := by
    rw [stop?_push]
    rw [opening?_push] at found
    split at found
    · next new =>
      cases found
      rw [new, laid.ancestors_new kind start] at away
      obtain ⟨e, below, stop⟩ := laid.exists_stop (by omega) away
      exact ⟨e, Nat.lt_of_lt_of_le below behind, stop⟩
    · next old =>
      have known : j < t.size := by
        by_contra outside
        rw [opening?_eq_none_iff.mpr (Nat.not_lt.mp outside)] at found
        cases found
      rw [laid.ancestors_old kind start known] at away
      exact laid.apart i j b less away found

end

theorem ancestors_close (laid : Laid t opened bound) (stop : Nat) :
    (t.close p stop).ancestors id = t.ancestors id :=
  laid.parents.ancestors_congr fun _ _ => parent?_close stop

section

variable {outer : List Nat} {stop : Nat}

theorem innermost (laid : Laid t (id :: outer) bound) : id < t.size ∧ outer = t.ancestors id := by
  rcases laid.chain with empty | ⟨inner, known, same⟩
  · cases empty
  · cases same
    exact ⟨known, rfl⟩

theorem stop?_close_iff (laid : Laid t (id :: outer) bound) {j e : Nat} :
    (t.close id stop).stop? j = some e ↔ j = id ∧ e = stop ∨ t.stop? j = some e := by
  have known := laid.innermost.1
  by_cases same : id = j
  · subst same
    have unclosed : t.stop? id = none := (laid.open_iff id known).mpr List.mem_cons_self
    simp [stop?_close_self stop known, unclosed, eq_comm]
  · simp [stop?_close_of_ne stop same, Ne.symm same]

/-- What stands in the innermost bracket has been closed: the open brackets stand around it. -/
theorem exists_stop_of_mem (laid : Laid t (id :: outer) bound) {j : Nat}
    (around : id ∈ t.ancestors j) : ∃ e < bound, t.stop? j = some e := by
  have below := laid.parents.lt_of_mem around
  refine laid.exists_stop (lt_size_of_mem_ancestors around) fun opened => ?_
  rw [laid.innermost.2] at opened
  rcases List.mem_cons.mp opened with rfl | outside
  · exact Nat.lt_irrefl j below
  · exact Nat.lt_asymm below (laid.parents.lt_of_mem outside)

theorem chain_close (laid : Laid t (id :: outer) bound) :
    outer = [] ∨ ∃ p < t.size, outer = p :: (t.close id stop).ancestors p := by
  obtain ⟨known, same⟩ := laid.innermost
  rw [same]
  cases around : t.parent? id with
  | none => exact .inl (ancestors_of_root around)
  | some p =>
    have first := laid.parents id p around
    refine .inr ⟨p, Nat.lt_trans first known, ?_⟩
    rw [ancestors_of_parent around first, laid.ancestors_close stop]

theorem open_iff_close (laid : Laid t (id :: outer) bound) {j : Nat} (known : j < t.size) :
    (t.close id stop).stop? j = none ↔ j ∈ outer := by
  obtain ⟨inside, outer_eq⟩ := laid.innermost
  by_cases same : id = j
  · subst same
    have closed : id ∉ outer := fun h =>
      Nat.lt_irrefl id (laid.parents.lt_of_mem (outer_eq ▸ h))
    simp [stop?_close_self stop inside, closed]
  · rw [stop?_close_of_ne stop same, laid.open_iff j known]
    simp [Ne.symm same]

theorem close (laid : Laid t (id :: outer) bound) (behind : bound ≤ stop) :
    Laid (t.close id stop) outer (stop + 1) where
  parents j p around := laid.parents j p (by rwa [parent?_close] at around)
  chain := by
    rw [size_close]
    exact laid.chain_close
  children j b found := by
    rw [get?_close] at found
    obtain ⟨b, before, rfl⟩ := Option.map_eq_some_iff.mp found
    have known := laid.children j b before
    simp only [size_close, parent?_close]
    split <;> exact known
  open_iff j known := laid.open_iff_close (by rwa [size_close] at known)
  starts_lt j o found := by
    rw [opening?_close] at found
    have := laid.starts_lt j o found
    omega
  stops_lt j e found := by
    rcases laid.stop?_close_iff.mp found with ⟨-, rfl⟩ | found
    · exact Nat.lt_succ_self e
    · have := laid.stops_lt j e found
      omega
  spans j o e found stopped := by
    rw [opening?_close] at found
    rcases laid.stop?_close_iff.mp stopped with ⟨-, rfl⟩ | stopped
    · exact Nat.lt_of_lt_of_le (laid.starts_lt j o found) behind
    · exact laid.spans j o e found stopped
  ordered i j a b less first second := by
    rw [opening?_close] at first second
    exact laid.ordered i j a b less first second
  inside i j e around found := by
    rw [laid.ancestors_close stop] at around
    rcases laid.stop?_close_iff.mp found with ⟨rfl, rfl⟩ | found
    · obtain ⟨e', before, stopped⟩ := laid.exists_stop_of_mem around
      exact ⟨e', Nat.lt_of_lt_of_le before behind, laid.stop?_close_iff.mpr (.inr stopped)⟩
    · obtain ⟨e', before, stopped⟩ := laid.inside i j e around found
      exact ⟨e', before, laid.stop?_close_iff.mpr (.inr stopped)⟩
  apart i j b less away found := by
    rw [laid.ancestors_close stop] at away
    rw [opening?_close] at found
    obtain ⟨e, before, stopped⟩ := laid.apart i j b less away found
    exact ⟨e, before, laid.stop?_close_iff.mpr (.inr stopped)⟩

end

end Laid
end BracketTree

namespace BracketReader

variable {m : BracketReader} {bound : Nat}

theorem next_laid (laid : m.tree.Laid m.opened bound) {l : Lexeme} (behind : bound ≤ l.start) :
    (m.next l).tree.Laid (m.next l).opened (l.start + 1) := by
  by_cases left : l.token = .leftParen
  · rw [next_leftParen left]
    exact laid.push _ l.start behind
  · by_cases right : l.token = .rightParen
    · obtain ⟨t, opened, compared⟩ := m
      cases opened with
      | nil => simpa [next, right] using laid.mono (Nat.le_succ_of_le behind)
      | cons id outer =>
        rw [next_rightParen right rfl]
        exact laid.close behind
    · rw [next_other left right]
      exact laid.mono (Nat.le_succ_of_le behind)

/-- Tokens one behind the other have their brackets laid out as they stand. -/
theorem read_laid {ls : List Lexeme} (laid : m.tree.Laid m.opened bound)
    (behind : ∀ l ∈ ls, bound ≤ l.start) (ordered : ls.Pairwise (·.start < ·.start)) :
    ∃ bound', (m.read ls).tree.Laid (m.read ls).opened bound' := by
  induction ls generalizing m bound with
  | nil => exact ⟨bound, laid⟩
  | cons l ls ih =>
    obtain ⟨first, ordered⟩ := List.pairwise_cons.mp ordered
    exact ih (next_laid laid (behind l List.mem_cons_self)) first ordered

end BracketReader
end RecordFilter
