import RecordFilter.Cursor.Plan

namespace RecordFilter

inductive CursorError where
  | exhausted
  | notRemovable
  | noCurrent
  | notNumeric (kind : ValueKind)
  | notFinite
  | overflow
  | test (e : EvalError)
  deriving DecidableEq

def CursorError.message : CursorError → String
  | exhausted => "cursor has no more elements"
  | notRemovable => "remove is not supported by this cursor"
  | noCurrent => "no current element to remove"
  | notNumeric kind => s!"can not sum a {kind.name} value"
  | notFinite => "can not sum a non-finite float value"
  | overflow => "sum overflowed"
  | test e => e.message

variable {α S T : Type}

abbrev Result (α : Type) := Except CursorError α

def Result.ofOption : Option α → Result α
  | some x => .ok x
  | none => .error .exhausted

def advanceBy (hasNext : S → World α → Bool × S × World α)
    (next : S → World α → Result α × S × World α) (s : S) (w : World α) :
    Option (Result α) × S × World α :=
  match hasNext s w with
  | (true, s, w) =>
    let (r, s, w) := next s w
    (some r, s, w)
  | (false, s, w) => (none, s, w)

/-- Looks for an item that passes the test. A test that fails, or a result that is no item, is
found as well. -/
def seek (advance : S → World α → Option (Result α) × S × World α) (label : Option String)
    (test : α → Outcome) : Nat → S → World α → Option (Result α) × S × World α
  | 0, s, w => (none, s, w)
  | fuel + 1, s, w => match advance s w with
    | (some (.ok x), s, w) =>
      let w := (w.log (.tested label)).logReads (test x).reads
      match (test x).result with
      | .ok true => (some (.ok x), s, w)
      | .ok false => seek advance label test fuel s w
      | .error e => (some (.error (.test e)), s, w)
    | found => found

/-- One of the two parts of a concatenation: its first member, or all others. -/
inductive Part where
  | head
  | tail
  deriving DecidableEq

/-- The part that has the next result. A head that has run out is passed for good. -/
def choosePart (headHasNext : S → World α → Bool × S × World α)
    (tailHasNext : T → World α → Bool × T × World α) (passed : Bool) (s : S) (t : T) (w : World α) :
    Option Part × S × T × World α :=
  let (more, s, w) := if passed then (false, s, w) else headHasNext s w
  if more then (some .head, s, t, w)
  else
    let (more, t, w) := tailHasNext t w
    (if more then some .tail else none, s, t, w)

/-- The part that an item came from; a result that is no item came from none. -/
def Part.ofResult (part : Part) : Result α → Option Part
  | .ok _ => some part
  | .error _ => none

/-- What a list of items still holds. An item, or the end, may have been pulled early. -/
inductive Feed (α : Type) where
  | unread (items : List α)
  | ahead (item : α) (items : List α)
  | atEnd

namespace Feed

/-- Pulls an item unless one has been pulled early, and tells whether it had to. -/
def take : Feed α → Option α × Feed α × Bool
  | unread [] => (none, unread [], true)
  | unread (x :: xs) => (some x, unread xs, true)
  | ahead x xs => (some x, unread xs, false)
  | atEnd => (none, unread [], false)

def peek : Feed α → Option α × Feed α × Bool
  | unread [] => (none, atEnd, true)
  | unread (x :: xs) => (some x, ahead x xs, true)
  | ahead x xs => (some x, ahead x xs, false)
  | atEnd => (none, atEnd, false)

def toList : Feed α → List α
  | unread xs => xs
  | ahead x xs => x :: xs
  | atEnd => []

end Feed

/-- A place in a plan. Asking whether there is a next result can pull an item early; it is then kept
for the next call. -/
inductive Cursor : Plan α → Type where
  | empty : Cursor .empty
  | sequence {label : Option String} {items : List α} (feed : Feed α) (closed : Bool) :
      Cursor (.sequence label items)
  /-- `current` is the place of the item that was delivered last, while it can be removed. -/
  | shared {name : String} (index : Nat) (current : Option Nat) (closed : Bool) :
      Cursor (.shared name)
  | filter {label : Option String} {test : α → Outcome} {inner : Plan α}
      (found : Option (Result α)) (rest : Cursor inner) : Cursor (.filter label test inner)
  | map {label : Option String} {f : α → α} {inner : Plan α} (rest : Cursor inner) :
      Cursor (.map label f inner)
  | stop : Cursor .stop
  /-- `last` is the part that delivered the last item. -/
  | link {head tail : Plan α} (first : Cursor head) (passed : Bool) (others : Cursor tail)
      (last : Option Part) : Cursor (.link head tail)

def Plan.start : (p : Plan α) → Cursor p
  | .empty => .empty
  | .sequence _ items => .sequence (.unread items) false
  | .shared _ => .shared 0 none false
  | .filter _ _ inner => .filter none inner.start
  | .map _ _ inner => .map inner.start
  | .stop => .stop
  | .link head tail => .link head.start false tail.start none

namespace Cursor

/-- A bound on the results still to come. -/
def remaining (w : World α) : {p : Plan α} → Cursor p → Nat
  | _, .empty => 0
  | _, .sequence feed closed => if closed then 0 else feed.toList.length
  | .shared name, .shared index _ closed => if closed then 0 else (w.vectors name).length - index
  | _, .filter found rest => rest.remaining w + (if found.isSome then 1 else 0)
  | _, .map rest => rest.remaining w
  | _, .stop => 0
  | _, .link first passed others _ =>
    (if passed then 0 else first.remaining w) + others.remaining w

mutual

/-- Whether there is a next result. A sequence pulls ahead to know it, and a filter tests items
until it has found one. -/
def hasNext : {p : Plan α} → Cursor p → World α → Bool × Cursor p × World α
  | _, .empty, w => (false, .empty, w)
  | .sequence label _, .sequence feed closed, w =>
    if closed then (false, .sequence feed closed, w)
    else
      let (x, feed, pulled) := feed.peek
      (x.isSome, .sequence feed closed, if pulled then w.log (.pulled label) else w)
  | .shared name, .shared index current closed, w =>
    (!closed && index < (w.vectors name).length, .shared index current closed, w)
  | .filter .., .filter (some r) rest, w => (true, .filter (some r) rest, w)
  | .filter label test inner, .filter none rest, w =>
    let (found, rest, w) :=
      seek (advanceBy (fun (c : Cursor inner) w => c.hasNext w) (fun c w => c.next w)) label test
        (rest.remaining w + 1) rest w
    (found.isSome, .filter found rest, w)
  | .map .., .map rest, w =>
    let (more, rest, w) := rest.hasNext w
    (more, .map rest, w)
  | _, .stop, w => (false, .stop, w)
  | .link head tail, .link first passed others last, w =>
    let (part, first, others, w) :=
      choosePart (fun (c : Cursor head) w => c.hasNext w) (fun (c : Cursor tail) w => c.hasNext w)
        passed first others w
    (part.isSome, .link first (part ≠ some .head) others last, w)
termination_by structural p => p

/-- The next result. -/
def next : {p : Plan α} → Cursor p → World α → Result α × Cursor p × World α
  | _, .empty, w => (.error .exhausted, .empty, w)
  | .sequence label _, .sequence feed closed, w =>
    if closed then (.error .exhausted, .sequence feed closed, w)
    else
      let (x, feed, pulled) := feed.take
      (Result.ofOption x, .sequence feed closed, if pulled then w.log (.pulled label) else w)
  | .shared name, .shared index current closed, w =>
    if closed then (.error .exhausted, .shared index current closed, w)
    else match (w.vectors name)[index]? with
      | some x => (.ok x, .shared (index + 1) (some index) closed, w.log (.pulled none))
      | none => (.error .exhausted, .shared index current closed, w)
  | .filter .., .filter (some r) rest, w => (r, .filter none rest, w)
  | .filter label test inner, .filter none rest, w =>
    let (found, rest, w) :=
      seek (advanceBy (fun (c : Cursor inner) w => c.hasNext w) (fun c w => c.next w)) label test
        (rest.remaining w + 1) rest w
    (found.getD (.error .exhausted), .filter none rest, w)
  | .map label f _, .map rest, w => match rest.next w with
    | (.ok x, rest, w) => (.ok (f x), .map rest, w.log (.mapped label))
    | (.error e, rest, w) => (.error e, .map rest, w)
  | _, .stop, w => (.error .exhausted, .stop, w)
  | .link head tail, .link first passed others last, w =>
    match choosePart (fun (c : Cursor head) w => c.hasNext w)
        (fun (c : Cursor tail) w => c.hasNext w) passed first others w with
    | (some .head, first, others, w) =>
      let (r, first, w) := first.next w
      (r, .link first false others (Part.head.ofResult r), w)
    | (some .tail, first, others, w) =>
      let (r, others, w) := others.next w
      (r, .link first true others (Part.tail.ofResult r), w)
    | (none, first, others, w) => (.error .exhausted, .link first true others last, w)
termination_by structural p => p

end

/-- Removes the item that was delivered last from the shared vector it came from. The place of the
cursor moves back, so no item is skipped. -/
def remove : {p : Plan α} → Cursor p → World α → Result Unit × Cursor p × World α
  | .shared name, .shared index current closed, w => match current with
    | none => (.error .noCurrent, .shared index none closed, w)
    | some i =>
      if i < (w.vectors name).length then
        (.ok (), .shared i none closed, w.setVector name ((w.vectors name).eraseIdx i))
      else (.error .noCurrent, .shared index none closed, w)
  | .map .., .map rest, w =>
    let (r, rest, w) := rest.remove w
    (r, .map rest, w)
  | _, .stop, w => (.error .noCurrent, .stop, w)
  | .link .., .link first passed others last, w => match last with
    | some .head =>
      let (r, first, w) := first.remove w
      (r, .link first passed others last, w)
    | some .tail =>
      let (r, others, w) := others.remove w
      (r, .link first passed others last, w)
    | none => (.error .noCurrent, .link first passed others last, w)
  | _, c, w => (.error .notRemovable, c, w)
termination_by structural p => p

/-- Closes all sources below, in order. A source that is closed again leaves no second trace. -/
def close : {p : Plan α} → Cursor p → World α → Cursor p × World α
  | .sequence label _, .sequence feed closed, w =>
    (.sequence feed true, if closed then w else w.log (.closed label))
  | .shared _, .shared index _ closed, w =>
    (.shared index none true, if closed then w else w.log (.closed none))
  | .filter .., .filter _ rest, w =>
    let (rest, w) := rest.close w
    (.filter none rest, w)
  | .map .., .map rest, w =>
    let (rest, w) := rest.close w
    (.map rest, w)
  | .link .., .link first passed others last, w =>
    let (first, w) := first.close w
    let (others, w) := others.close w
    (.link first passed others last, w)
  | .empty, c, w => (c, w)
  | .stop, c, w => (c, w)
termination_by structural p => p

/-- Adds a member at the end of a concatenation, behind all that was passed. -/
def push {member : Plan α} : {p : Plan α} → Cursor p → Cursor member → Cursor (p.push member)
  | .stop, .stop, new => .link new false .stop none
  | .link .., .link first passed others last, new => .link first passed (others.push new) last
  | .empty, c, _ => c
  | .sequence .., c, _ => c
  | .shared _, c, _ => c
  | .filter .., c, _ => c
  | .map .., c, _ => c
termination_by structural p => p

def isClosed {label : Option String} {items : List α} : Cursor (.sequence label items) → Bool
  | .sequence _ closed => closed

end Cursor
end RecordFilter
