import RecordFilter.Proofs.Cursor.Delivery

namespace RecordFilter

variable {α β S T : Type}

namespace World

/-- The hooks that have run, newest first. -/
def closings (w : World α) : List String :=
  w.history.filterMap fun
    | .closed label => label
    | _ => none

theorem closings_log_closed (w : World α) (label : Option String) :
    (w.log (.closed label)).closings = label.toList ++ w.closings := by
  cases label <;> rfl

theorem closings_logReads (w : World α) (fields : List String) :
    (w.logReads fields).closings = w.closings := by
  unfold logReads
  induction fields generalizing w with
  | nil => rfl
  | cons field fields ih => exact ih (w.log (.read field))

end World

def Plan.hooks : Plan α → List String
  | sequence label _ => label.toList
  | filter _ _ inner => inner.hooks
  | map _ _ inner => inner.hooks
  | link head tail => head.hooks ++ tail.hooks
  | _ => []

def Plan.takesMembers : Plan α → Bool
  | stop => true
  | link _ tail => tail.takesMembers
  | _ => false

namespace Cursor

/-- The hooks of the sources that are still open. -/
def openHooks : {p : Plan α} → Cursor p → List String
  | .sequence label _, .sequence _ closed => if closed then [] else label.toList
  | .filter .., .filter _ rest => rest.openHooks
  | .map .., .map rest => rest.openHooks
  | .link .., .link first _ others _ => first.openHooks ++ others.openHooks
  | .empty, .empty => []
  | .shared _, .shared .. => []
  | .stop, .stop => []

theorem openHooks_start (p : Plan α) : p.start.openHooks = p.hooks := by
  induction p with
  | filter label test inner ih => exact ih
  | map label f inner ih => exact ih
  | link head tail first others =>
    rw [Plan.start, openHooks, first, others]
    rfl
  | _ => rfl

end Cursor

def Keeps (hooks : S → List String) (op : S → World α → β × S × World α) : Prop :=
  ∀ s w, hooks (op s w).2.1 = hooks s ∧ (op s w).2.2.closings = w.closings

variable {hooks : S → List String}

theorem keeps_advanceBy {hasNext : S → World α → Bool × S × World α}
    {next : S → World α → Result α × S × World α} (asking : Keeps hooks hasNext)
    (taking : Keeps hooks next) : Keeps hooks (advanceBy hasNext next) := by
  intro s w
  obtain ⟨same, quiet⟩ := asking s w
  unfold advanceBy
  split
  · next s' w' asked =>
    rw [asked] at same quiet
    obtain ⟨same', quiet'⟩ := taking s' w'
    exact ⟨same'.trans same, quiet'.trans quiet⟩
  · next s' w' asked =>
    rw [asked] at same quiet
    exact ⟨same, quiet⟩

theorem keeps_seek {advance : S → World α → Option (Result α) × S × World α}
    (advancing : Keeps hooks advance) (label : Option String) (test : α → Outcome) (fuel : Nat) :
    Keeps hooks (seek advance label test fuel) := by
  induction fuel with
  | zero => exact fun s w => ⟨rfl, rfl⟩
  | succ fuel ih =>
    intro s w
    obtain ⟨same, quiet⟩ := advancing s w
    rw [seek]
    split
    · next x s' w' took =>
      rw [took] at same quiet
      have tested : ((w'.log (.tested label)).logReads (test x).reads).closings = w.closings :=
        (World.closings_logReads _ _).trans quiet
      dsimp only
      split
      · exact ⟨same, tested⟩
      · obtain ⟨same', quiet'⟩ := ih s' ((w'.log (.tested label)).logReads (test x).reads)
        exact ⟨same'.trans same, quiet'.trans tested⟩
      · exact ⟨same, tested⟩
    · exact ⟨same, quiet⟩

theorem keeps_choosePart {hooks' : T → List String}
    {headHasNext : S → World α → Bool × S × World α}
    {tailHasNext : T → World α → Bool × T × World α} (head : Keeps hooks headHasNext)
    (tail : Keeps hooks' tailHasNext) (passed : Bool) (s : S) (t : T) (w : World α)
    {part : Option Part} {s' : S} {t' : T} {w' : World α}
    (h : choosePart headHasNext tailHasNext passed s t w = (part, s', t', w')) :
    hooks s' = hooks s ∧ hooks' t' = hooks' t ∧ w'.closings = w.closings := by
  cases passed with
  | true =>
    obtain ⟨same, quiet⟩ := tail t w
    cases h
    exact ⟨rfl, same, quiet⟩
  | false =>
    obtain ⟨same, quiet⟩ := head s w
    simp only [choosePart, Bool.false_eq_true, if_false] at h
    split at h
    · cases h
      exact ⟨same, rfl, quiet⟩
    · obtain ⟨same', quiet'⟩ := tail t (headHasNext s w).2.2
      cases h
      exact ⟨same, same', quiet'.trans quiet⟩

namespace Cursor

/-- Neither asking nor taking closes anything. -/
structure Quiet (p : Plan α) : Prop where
  asks : Keeps openHooks fun (c : Cursor p) w => c.hasNext w
  takes : Keeps openHooks fun (c : Cursor p) w => c.next w

theorem quiet_sequence (label : Option String) (items : List α) :
    Quiet (.sequence label items) := by
  constructor
  · intro c w
    cases c with
    | sequence feed closed =>
      cases closed with
      | true => exact ⟨rfl, rfl⟩
      | false =>
        refine ⟨rfl, ?_⟩
        simp only [hasNext, Bool.false_eq_true, if_false]
        split <;> rfl
  · intro c w
    cases c with
    | sequence feed closed =>
      cases closed with
      | true => exact ⟨rfl, rfl⟩
      | false =>
        refine ⟨rfl, ?_⟩
        simp only [next, Bool.false_eq_true, if_false]
        split <;> rfl

theorem quiet_shared (name : String) : Quiet (.shared name : Plan α) := by
  constructor
  · intro c w
    cases c with
    | shared index current closed => exact ⟨rfl, rfl⟩
  · intro c w
    cases c with
    | shared index current closed =>
      simp only [next]
      split
      · exact ⟨rfl, rfl⟩
      · split <;> exact ⟨rfl, rfl⟩

theorem quiet_filter (label : Option String) (test : α → Outcome) {inner : Plan α}
    (ih : Quiet inner) : Quiet (.filter label test inner) := by
  have search := keeps_seek (keeps_advanceBy ih.asks ih.takes) label test
  constructor
  · intro c w
    cases c with
    | filter found rest =>
      cases found with
      | some r => exact ⟨rfl, rfl⟩
      | none => exact search (rest.remaining w + 1) rest w
  · intro c w
    cases c with
    | filter found rest =>
      cases found with
      | some r => exact ⟨rfl, rfl⟩
      | none => exact search (rest.remaining w + 1) rest w

theorem quiet_map (label : Option String) (f : α → α) {inner : Plan α} (ih : Quiet inner) :
    Quiet (.map label f inner) := by
  constructor
  · intro c w
    cases c with
    | map rest => exact ih.asks rest w
  · intro c w
    cases c with
    | map rest =>
      have kept := ih.takes rest w
      simp only [next]
      split
      · next took =>
        simp only [took] at kept
        exact kept
      · next took =>
        simp only [took] at kept
        exact kept

theorem quiet_link {head tail : Plan α} (ih : Quiet head) (ih' : Quiet tail) :
    Quiet (.link head tail) := by
  have chosen := keeps_choosePart ih.asks ih'.asks
  constructor
  · intro c w
    cases c with
    | link first passed others last =>
      obtain ⟨⟨part, first', others', w'⟩, choice⟩ : ∃ out, choosePart
        (fun (c : Cursor head) w => c.hasNext w) (fun (c : Cursor tail) w => c.hasNext w) passed
        first others w = out := ⟨_, rfl⟩
      obtain ⟨same, same', quiet⟩ := chosen passed first others w choice
      simp only [hasNext, choice, openHooks, same, same']
      exact ⟨trivial, quiet⟩
  · intro c w
    cases c with
    | link first passed others last =>
      simp only [next]
      split
      · next first' others' w' choice =>
        obtain ⟨same, same', quiet⟩ := chosen passed first others w choice
        obtain ⟨same'', quiet'⟩ := ih.takes first' w'
        exact ⟨by simp only [openHooks, same, same', same''], quiet'.trans quiet⟩
      · next first' others' w' choice =>
        obtain ⟨same, same', quiet⟩ := chosen passed first others w choice
        obtain ⟨same'', quiet'⟩ := ih'.takes others' w'
        exact ⟨by simp only [openHooks, same, same', same''], quiet'.trans quiet⟩
      · next choice =>
        obtain ⟨same, same', quiet⟩ := chosen passed first others w choice
        exact ⟨by simp only [openHooks, same, same'], quiet⟩

theorem quiet (p : Plan α) : Quiet p := by
  induction p with
  | empty =>
    constructor <;>
    · intro c w
      cases c
      exact ⟨rfl, rfl⟩
  | sequence label items => exact quiet_sequence label items
  | shared name => exact quiet_shared name
  | filter label test inner ih => exact quiet_filter label test ih
  | map label f inner ih => exact quiet_map label f ih
  | stop =>
    constructor <;>
    · intro c w
      cases c
      exact ⟨rfl, rfl⟩
  | link head tail first others => exact quiet_link first others

theorem keeps_remove {p : Plan α} (c : Cursor p) (w : World α) :
    (c.remove w).2.1.openHooks = c.openHooks ∧ (c.remove w).2.2.closings = w.closings := by
  induction c with
  | shared index current closed =>
    cases current with
    | none => exact ⟨rfl, rfl⟩
    | some i =>
      simp only [remove]
      split <;> exact ⟨rfl, rfl⟩
  | map rest ih => exact ih
  | link first passed others last ih ih' =>
    cases last with
    | none => exact ⟨rfl, rfl⟩
    | some part =>
      cases part with
      | head => exact ⟨congrArg (· ++ others.openHooks) ih.1, ih.2⟩
      | tail => exact ⟨congrArg (first.openHooks ++ ·) ih'.1, ih'.2⟩
  | _ => exact ⟨rfl, rfl⟩

theorem keeps_traverseFrom {σ : Type} (step : σ → α → ForInStep σ) {p : Plan α} (fuel : Nat) (s : σ)
    (c : Cursor p) (w : World α) :
    (traverseFrom step fuel s c w).2.1.openHooks = c.openHooks ∧
      (traverseFrom step fuel s c w).2.2.closings = w.closings := by
  have advancing := keeps_advanceBy (quiet p).asks (quiet p).takes
  induction fuel generalizing s c w with
  | zero => exact ⟨rfl, rfl⟩
  | succ fuel ih =>
    obtain ⟨same, quiet⟩ := advancing c w
    rw [traverseFrom, advance]
    split
    · next took =>
      rw [took] at same quiet
      exact ⟨same, quiet⟩
    · next took =>
      rw [took] at same quiet
      exact ⟨same, quiet⟩
    · next x c' w' took =>
      rw [took] at same quiet
      split
      · exact ⟨same, quiet⟩
      · next s' _ =>
        obtain ⟨same', quiet'⟩ := ih s' c' w'
        exact ⟨same'.trans same, quiet'.trans quiet⟩

/-- Closing runs the hooks of all open sources. -/
theorem closings_close {p : Plan α} (c : Cursor p) (w : World α) :
    (c.close w).2.closings.Perm (c.openHooks ++ w.closings) := by
  induction c generalizing w with
  | @sequence label items feed closed =>
    cases closed with
    | true => exact .refl _
    | false => exact .of_eq (w.closings_log_closed label)
  | shared index current closed => cases closed <;> exact .refl _
  | filter found rest ih => exact ih w
  | map rest ih => exact ih w
  | link first passed others last ih ih' =>
    have opened := (ih' (first.close w).2).trans ((ih w).append_left others.openHooks)
    rw [openHooks, List.append_assoc]
    exact opened.trans (List.perm_append_comm_assoc ..)
  | _ => exact .refl _

/-- Every source below is closed, and nothing found early is kept. -/
def Closed : {p : Plan α} → Cursor p → Prop
  | .sequence .., .sequence _ closed => closed = true
  | .shared _, .shared _ current closed => current = none ∧ closed = true
  | .filter .., .filter found rest => found = none ∧ rest.Closed
  | .map .., .map rest => rest.Closed
  | .link .., .link first _ others _ => first.Closed ∧ others.Closed
  | .empty, .empty => True
  | .stop, .stop => True

theorem closed_close {p : Plan α} (c : Cursor p) (w : World α) : (c.close w).1.Closed := by
  induction c generalizing w with
  | sequence feed closed => exact rfl
  | shared index current closed => exact ⟨rfl, rfl⟩
  | filter found rest ih => exact ⟨rfl, ih w⟩
  | map rest ih => exact ih w
  | link first passed others last ih ih' => exact ⟨ih w, ih' _⟩
  | _ => trivial

theorem openHooks_closed {p : Plan α} {c : Cursor p} (h : c.Closed) : c.openHooks = [] := by
  induction c with
  | sequence feed closed => exact if_pos h
  | shared index current closed => rfl
  | filter found rest ih => exact ih h.2
  | map rest ih => exact ih h
  | link first passed others last ih ih' =>
    rw [openHooks, ih h.1, ih' h.2]
    rfl
  | _ => rfl

theorem close_closed {p : Plan α} {c : Cursor p} (w : World α) (h : c.Closed) :
    (c.close w).2 = w := by
  induction c generalizing w with
  | sequence feed closed =>
    obtain rfl : closed = true := h
    rfl
  | shared index current closed =>
    obtain ⟨rfl, rfl⟩ := h
    rfl
  | filter found rest ih => exact ih w h.2
  | map rest ih => exact ih w h
  | link first passed others last ih ih' =>
    simp only [close, ih w h.1, ih' w h.2]
  | _ => rfl

end Cursor

/-- Where a state is closed, asking finds nothing and leaves all as it is. -/
def Rests (closed : S → Prop) (hasNext : S → World α → Bool × S × World α) : Prop :=
  ∀ s w, closed s → ∃ s', hasNext s w = (false, s', w) ∧ closed s'

theorem rests_choosePart {closed : S → Prop} {closed' : T → Prop}
    {headHasNext : S → World α → Bool × S × World α}
    {tailHasNext : T → World α → Bool × T × World α} (head : Rests closed headHasNext)
    (tail : Rests closed' tailHasNext) (passed : Bool) {s : S} {t : T} (w : World α) (hs : closed s)
    (ht : closed' t) :
    ∃ s' t', choosePart headHasNext tailHasNext passed s t w = (none, s', t', w) ∧
      closed s' ∧ closed' t' := by
  obtain ⟨s', asked, hs'⟩ := head s w hs
  obtain ⟨t', asked', ht'⟩ := tail t w ht
  cases passed with
  | true => exact ⟨s, t', by simp [choosePart, asked'], hs, ht'⟩
  | false => exact ⟨s', t', by simp [choosePart, asked, asked'], hs', ht'⟩

namespace Cursor

theorem rests (p : Plan α) : Rests Closed fun (c : Cursor p) w => c.hasNext w := by
  induction p with
  | empty =>
    intro c w _
    cases c
    exact ⟨.empty, rfl, trivial⟩
  | sequence label items =>
    intro c w h
    cases c with
    | sequence feed closed =>
      obtain rfl : closed = true := h
      exact ⟨.sequence feed true, rfl, rfl⟩
  | shared name =>
    intro c w h
    cases c with
    | shared index current closed =>
      obtain ⟨rfl, rfl⟩ := h
      exact ⟨.shared index none true, rfl, rfl, rfl⟩
  | filter label test inner ih =>
    intro c w h
    cases c with
    | filter found rest =>
      obtain ⟨rfl, closed⟩ := h
      obtain ⟨rest', asked, closed'⟩ := ih rest w closed
      exact ⟨.filter none rest', by simp [hasNext, seek, advanceBy, asked], rfl, closed'⟩
  | map label f inner ih =>
    intro c w h
    cases c with
    | map rest =>
      obtain ⟨rest', asked, closed'⟩ := ih rest w h
      exact ⟨.map rest', by simp [hasNext, asked], closed'⟩
  | stop =>
    intro c w _
    cases c
    exact ⟨.stop, rfl, trivial⟩
  | link head tail ih ih' =>
    intro c w h
    cases c with
    | link first passed others last =>
      obtain ⟨first', others', choice, closed⟩ := rests_choosePart ih ih' passed w h.1 h.2
      exact ⟨.link first' true others' last, by simp [hasNext, choice], closed⟩

theorem next_closed {p : Plan α} {c : Cursor p} (w : World α) (h : c.Closed) :
    ∃ c', c.next w = (.error .exhausted, c', w) ∧ c'.Closed := by
  induction c with
  | empty => exact ⟨.empty, rfl, trivial⟩
  | sequence feed closed =>
    obtain rfl : closed = true := h
    exact ⟨.sequence feed true, rfl, rfl⟩
  | shared index current closed =>
    obtain ⟨rfl, rfl⟩ := h
    exact ⟨.shared index none true, rfl, rfl, rfl⟩
  | filter found rest ih =>
    obtain ⟨rfl, closed⟩ := h
    obtain ⟨rest', asked, closed'⟩ := rests _ rest w closed
    exact ⟨.filter none rest', by simp [next, seek, advanceBy, asked], rfl, closed'⟩
  | map rest ih =>
    obtain ⟨rest', took, closed'⟩ := ih h
    exact ⟨.map rest', by simp [next, took], closed'⟩
  | stop => exact ⟨.stop, rfl, trivial⟩
  | link first passed others last ih ih' =>
    obtain ⟨first', others', choice, closed⟩ :=
      rests_choosePart (rests _) (rests _) passed w h.1 h.2
    exact ⟨.link first' true others' last, by simp [next, choice], closed⟩

theorem remove_closed {p : Plan α} {c : Cursor p} (w : World α) (h : c.Closed) :
    ∃ e c', c.remove w = (.error e, c', w) ∧ c'.Closed := by
  induction c with
  | empty => exact ⟨_, .empty, rfl, trivial⟩
  | sequence feed closed => exact ⟨_, .sequence feed closed, rfl, h⟩
  | shared index current closed =>
    obtain ⟨rfl, rfl⟩ := h
    exact ⟨_, .shared index none true, rfl, rfl, rfl⟩
  | filter found rest ih => exact ⟨_, .filter found rest, rfl, h⟩
  | map rest ih =>
    obtain ⟨e, rest', removed, closed⟩ := ih h
    exact ⟨e, .map rest', by simp [remove, removed], closed⟩
  | stop => exact ⟨_, .stop, rfl, trivial⟩
  | link first passed others last ih ih' =>
    cases last with
    | none => exact ⟨_, .link first passed others none, rfl, h⟩
    | some part =>
      cases part with
      | head =>
        obtain ⟨e, first', removed, closed⟩ := ih h.1
        exact ⟨e, .link first' passed others (some .head), by simp [remove, removed], closed, h.2⟩
      | tail =>
        obtain ⟨e, others', removed, closed⟩ := ih' h.2
        exact ⟨e, .link first passed others' (some .tail), by simp [remove, removed], h.1, closed⟩

theorem answer_closed {p : Plan α} {c : Cursor p} (w : World α) (call : Call α) (h : c.Closed) :
    ∃ a c', c.answer w call = (a, c', w) ∧ a.delivered = [] ∧ c'.Closed := by
  obtain ⟨c', asked, closed⟩ := rests p c w h
  cases call with
  | hasNext => exact ⟨.more false, c', by simp [answer, asked], rfl, closed⟩
  | next =>
    obtain ⟨c'', took, closed'⟩ := next_closed w h
    exact ⟨.result (.error .exhausted), c'', by simp [answer, took], rfl, closed'⟩
  | traverse go =>
    refine ⟨.visited [] none, c', ?_, rfl, closed⟩
    simp [answer, traverse, traverseFrom, advance, advanceBy, asked]

end Cursor
end RecordFilter
