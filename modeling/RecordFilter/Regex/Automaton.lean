import RecordFilter.Regex.Encoding
import RecordFilter.Regex.Normal
import Std.Data.HashMap

namespace RecordFilter.Automaton

inductive Direction where
  | forward
  | backward
  deriving DecidableEq

/-- How many states an automaton has and how many bytes their edges take. -/
structure Size where
  states : Nat
  edges : Nat

def Size.bytes (s : Size) : Nat := 32 * s.states + s.edges

def sizeLimit : Nat := 10 * 1024 * 1024

abbrev Build := StateT Size Option

def allocate (states edges : Nat) : Build Nat := fun s =>
  let t : Size := ⟨s.states + states, s.edges + edges⟩
  if t.bytes ≤ sizeLimit then some (s.states, t) else none

def addStates (states edges : Nat) : Build Unit := do
  let _ ← allocate states edges

def copies (body : Build Unit) : Nat → Build Unit
  | 0 => pure ()
  | n + 1 => do
    body
    copies body n

/-- States by the place that their key has in the table. A new key drives out the old one. -/
abbrev Memory := Std.HashMap Nat (List Nat × Nat)

def place (capacity : Nat) (key : List Nat) : Nat :=
  let mix (h : UInt64) (n : Nat) : UInt64 := (h ^^^ n.toUInt64) * 1099511628211
  (key.foldl mix 14695981039346656037).toNat % capacity

/-- The number of the state with this key, which is made unless it is remembered. -/
def share (capacity edges : Nat) (key : List Nat) : StateT Memory Build Nat := do
  let slot := place capacity key
  match (← get)[slot]? with
  | some (k, number) => if k = key then return number else make slot
  | none => make slot
where
  make (slot : Nat) : StateT Memory Build Nat := do
    let number ← allocate 1 edges
    modify fun memory => memory.insert slot (key, number)
    return number

/-- Neighbouring sequences with the same first range, as that range and what comes after it. -/
def groupByHead : List (List (Nat × Nat)) → List ((Nat × Nat) × List (List (Nat × Nat)))
  | [] => []
  | [] :: rest => groupByHead rest
  | (r :: tail) :: rest =>
    match groupByHead rest with
    | (s, tails) :: groups =>
      if r = s then (r, tail :: tails) :: groups else (r, [tail]) :: (s, tails) :: groups
    | [] => [(r, [tail])]

/-- The state from which the sequences lead to `target`; none is longer than `depth`. -/
def tree (target : Nat) : Nat → List (List (Nat × Nat)) → StateT Memory Build Nat
  | 0, _ => return target
  | depth + 1, sequences =>
    if sequences.all (·.isEmpty) then return target
    else do
      let edges ← (groupByHead sequences).mapM fun (range, tails) => do
        return [range.1, range.2, ← tree target depth tails]
      share 10000 (8 * edges.length) edges.flatten

def chain (target : Nat) : List (Nat × Nat) → StateT Memory Build Unit
  | [] => return
  | r :: rest => do
    let next ← share 1000 0 [target, r.1, r.2]
    chain next rest

def character (d : Direction) (s : CharSet) : Build Unit :=
  if s.isAscii then addStates 2 (8 * s.runs.length)
  else
    let sequences := Encoding.sequences s
    match d with
    | .forward => do
      let target ← allocate 1 0
      let _ ← (tree target 4 sequences).run {}
    | .backward => do
      let _ ← allocate 1 (4 * sequences.length)
      let target ← allocate 1 0
      let _ ← (sequences.forM (chain target)).run {}

def cutAtEmpty (lists : List (List Nat)) : List (List (List Nat)) :=
  match lists with
  | [] => [[]]
  | [] :: rest => [] :: cutAtEmpty rest
  | list :: rest =>
    match cutAtEmpty rest with
    | chunk :: chunks => (list :: chunk) :: chunks
    | [] => [[list]]

/-- Lists by their first member, in order of its first appearance, with what comes after it. -/
def groupByFirst (lists : List (List Nat)) : List (Nat × List (List Nat)) :=
  let firsts := (lists.filterMap List.head?).eraseDups
  firsts.map fun n => (n, lists.filterMap fun list =>
    if list.head? = some n then some list.tail else none)

/-- States that read one of several texts, none longer than `depth`. Where a text ends, those that
come later in the list start afresh, since earlier texts are preferred. -/
def texts : Nat → List (List Nat) → Build Unit
  | 0, _ => pure ()
  | depth + 1, lists =>
    if lists.all (·.isEmpty) then pure ()
    else do
      let lists := if lists.head? = some [] then [] :: lists.dropWhile (·.isEmpty) else lists
      let chunks := cutAtEmpty lists
      let full := chunks.filter (· ≠ [])
      full.forM fun chunk => do
        let groups := groupByFirst chunk
        groups.forM fun group => texts depth group.2
        addStates 1 (if groups.length = 1 then 0 else 8 * groups.length)
      addStates 1 (4 * (full.length + (chunks.length - 1)))

def literals (d : Direction) (lists : List (List Nat)) : Build Unit := do
  addStates 1 0
  let lists := if d = .forward then lists else lists.map List.reverse
  texts (lists.foldl (fun n list => max n list.length) 0) lists

def alternatives : List (Build Unit) → Build Unit
  | a :: b :: rest => do
    a
    b
    addStates 2 (4 * (rest.length + 2))
    rest.forM id
  | parts => parts.forM id

/-- Repetition of a part, which is `positive` if it never matches the empty text. -/
def rounds (positive : Bool) (body : Build Unit) : Nat → Option Nat → Build Unit
  | 0, none =>
    if positive then do
      addStates 1 8
      body
    else do
      body
      addStates 3 16
  | least, none => do
    copies body least
    addStates 1 8
  | 0, some 1 => do
    addStates 1 8
    body
    addStates 1 0
  | least, some most => do
    if least = 0 then addStates 1 0 else copies body least
    if least < most then
      addStates 1 0
      copies (do addStates 1 8; body) (most - least)

def literalBytes (cs : List Char) : List Nat := cs.flatMap fun c => Encoding.bytes c.toNat

/-- An alternative: the part of an automaton for it, and its bytes if it is a literal. -/
structure Branch where
  part : Build Unit
  bytes? : Option (List Nat)

/-- Several alternatives. If all are literals, those that begin alike share states. -/
def choice (d : Direction) : List Branch → Build Unit
  | [b] => b.part
  | bs => fun s => match bs.mapM (·.bytes?) with
    | some lists => literals d lists s
    | none => alternatives (bs.map (·.part)) s

def branches (d : Direction) : Regex → List Branch
  | .empty | .anchor _ => [⟨addStates 1 0, none⟩]
  | .literal cs => [⟨addStates (literalBytes cs).length 0, some (literalBytes cs)⟩]
  | .set s => [⟨character d s, none⟩]
  | .seq a b =>
    let a := choice d (branches d a)
    let b := choice d (branches d b)
    [⟨if d = .forward then do a; b else do b; a, none⟩]
  | .alt a b => branches d a ++ branches d b
  | .times a least limit _ =>
    let body := choice d (branches d a)
    [⟨rounds (a.shortest?.any (0 < ·)) body least limit, none⟩]
  | .group _ a =>
    let a := choice d (branches d a)
    [⟨if d = .forward then do addStates 1 0; a; addStates 1 0 else a, none⟩]

/-- Whether every match begins where the text does. -/
def startsText : Regex → Bool
  | .anchor a => a = .textStart
  | .seq a b => startsText a || (startsText b && a.longest? = some 0)
  | .alt a b => startsText a && startsText b
  | .times a least _ _ => 0 < least && startsText a
  | .group _ a => startsText a
  | _ => false

def stopsText : Regex → Bool
  | .anchor a => a = .textStop
  | .seq a b => stopsText b || (stopsText a && b.longest? = some 0)
  | .alt a b => stopsText a && stopsText b
  | .times a least _ _ => 0 < least && stopsText a
  | .group _ a => stopsText a
  | _ => false

/-- A whole automaton. One that may start anywhere skips bytes first; forward it notes where the
match starts and stops. -/
def automaton (d : Direction) (r : Regex) : Build Unit := do
  let bound := match d with
    | .forward => startsText r
    | .backward => stopsText r
  if bound then addStates 1 0 else addStates 3 16
  choice d (branches d (.group 0 r))
  addStates 1 0

def size? (d : Direction) (r : Regex) : Option Size := ((automaton d r).run ⟨0, 0⟩).map (·.2)

end RecordFilter.Automaton

namespace RecordFilter.Regex

/-- Whether neither automaton of the expression is too large. A count in a pattern multiplies what
it stands after. -/
def fits (r : Regex) : Bool :=
  (Automaton.size? .forward r).isSome && (Automaton.size? .backward r).isSome

end RecordFilter.Regex
