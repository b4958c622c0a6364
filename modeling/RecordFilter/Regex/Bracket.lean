import RecordFilter.Regex.Atom

namespace RecordFilter.Regex

structure NestedSet where
  set : CharSet
  height : Nat

inductive SetOperator where
  | inter
  | diff
  | symmetricDiff
  deriving DecidableEq

def NestedSet.ofMembers : List NestedSet → NestedSet
  | [] => ⟨.empty, 0⟩
  | [m] => m
  | ms => ⟨.unions (ms.map (·.set)), ms.foldl (fun h m => max h m.height) 0 + 1⟩

/-- Puts an operator that is waiting for its right side to work. -/
def NestedSet.combine (flags : Flags) (waiting : Option (SetOperator × NestedSet))
    (right : NestedSet) : NestedSet :=
  match waiting with
  | none => right
  | some (op, left) =>
    let a := flags.fold left.set
    let b := flags.fold right.set
    let set := match op with
      | .inter => CharSet.inter a b
      | .diff => CharSet.diff a b
      | .symmetricDiff => CharSet.symmetricDiff a b
    ⟨set, max left.height right.height + 1⟩

/-- A name such as `[:alpha:]`, after its first bracket. -/
def asciiName? (flags : Flags) : List Char → Option (Option CharSet × List Char)
  | ':' :: cs =>
    let (negated, body) := match cs with
      | '^' :: r => (true, r)
      | r => (false, r)
    let name := body.takeWhile (· != ':')
    match body.drop name.length, CharSet.asciiNamed? (String.ofList name) with
    | ':' :: ']' :: rest, some members =>
      some (flags.complement? negated (flags.fold members), rest)
    | _, _ => none
  | _ => none

def setAtom (flags : Flags) : List Char → Option (Atom × List Char)
  | [] => none
  | '\\' :: cs => escape flags cs
  | c :: cs => some (.literal c false, cs)

/-- The first character that is no blank, or the one after a mark that opens a comment. -/
def peekPastGap (marked : Bool) : List Char → Option Char
  | [] => none
  | c :: cs =>
    if Unicode.isBlank c then peekPastGap marked cs
    else if c = '#' && !marked then peekPastGap true cs
    else some c

/-- What decides whether a hyphen makes a range. A comment after the hyphen is not passed over here:
its first character decides, and where there is nothing to look at, what stands at the hyphen. -/
def peek (flags : Flags) (cs : List Char) : Option Char :=
  if flags.verbose then peekPastGap false cs <|> cs.head? else cs.head?

/-- One member: an atom, or a range of two literals around a hyphen. A hyphen before the closing
bracket or before another hyphen makes no range. -/
def setMember (flags : Flags) (cs : List Char) : Option (CharSet × List Char) := do
  let (first, rest) ← setAtom flags cs
  let alone : Option (CharSet × List Char) := match first with
    | .literal c _ => (literalInSet? flags c).map fun c => (.single c, rest)
    | .set s => some (s, rest)
    | .anchor _ => none
  match flags.skip rest with
  | [] => none
  | '-' :: after =>
    let next := peek flags after
    if next = some ']' || next = some '-' then alone
    else
      let (last, rest) ← setAtom flags (flags.skip after)
      match first, last with
      | .literal a _, .literal b _ =>
        let a ← literalInSet? flags a
        let b ← literalInSet? flags b
        if a ≤ b then return (.range a b, rest) else none
      | _, _ => none
  | _ => alone

/-- A set that is being read. -/
structure OpenSet where
  negated : Bool
  /-- Whether nothing but hyphens has been read: hyphens stand for themselves there, and so does a
  closing bracket that comes first. -/
  fresh : Bool
  waiting : Option (SetOperator × NestedSet)
  members : List NestedSet

namespace OpenSet

def start (flags : Flags) (cs : List Char) : OpenSet × List Char :=
  match flags.skip cs with
  | '^' :: rest => (⟨true, true, none, []⟩, rest)
  | rest => (⟨false, true, none, []⟩, rest)

def add (s : OpenSet) (m : NestedSet) : OpenSet := { s with members := m :: s.members }

def operate (flags : Flags) (s : OpenSet) (op : SetOperator) : OpenSet :=
  { s with waiting := some (op, .combine flags s.waiting (.ofMembers s.members)), members := [] }

def close? (flags : Flags) (s : OpenSet) : Option NestedSet :=
  let inner := NestedSet.combine flags s.waiting (.ofMembers s.members)
  (flags.complement? s.negated (flags.fold inner.set)).map fun set => ⟨set, inner.height + 1⟩

end OpenSet

/-- Reads a set to its closing bracket; `outer` holds the sets around it, the nearest first. Every
round takes a character, so the length of the pattern bounds the rounds. -/
def readSet (flags : Flags) : Nat → OpenSet → List OpenSet → List Char →
    Option (NestedSet × List Char)
  | 0, _, _, _ => none
  | n + 1, s, outer, cs =>
    match flags.skip cs with
    | [] => none
    | c :: rest =>
      if s.fresh && c = '-' then readSet flags n (s.add ⟨.single '-', 0⟩) outer rest
      else if s.fresh && c = ']' && s.members.isEmpty then
        readSet flags n { s.add ⟨.single ']', 0⟩ with fresh := false } outer rest
      else
        let s := { s with fresh := false }
        match c, rest with
        | '[', _ => match asciiName? flags rest with
          | some (none, _) => none
          | some (some members, rest) => readSet flags n (s.add ⟨members, 0⟩) outer rest
          | none =>
            let (inner, rest) := OpenSet.start flags rest
            readSet flags n inner (s :: outer) rest
        | ']', _ => match s.close? flags, outer with
          | none, _ => none
          | some closed, [] => some (closed, rest)
          | some closed, o :: outer => readSet flags n (o.add closed) outer rest
        | '&', '&' :: rest => readSet flags n (s.operate flags .inter) outer rest
        | '-', '-' :: rest => readSet flags n (s.operate flags .diff) outer rest
        | '~', '~' :: rest => readSet flags n (s.operate flags .symmetricDiff) outer rest
        | _, _ => match setMember flags (c :: rest) with
          | none => none
          | some (members, rest) => readSet flags n (s.add ⟨members, 0⟩) outer rest

end RecordFilter.Regex
