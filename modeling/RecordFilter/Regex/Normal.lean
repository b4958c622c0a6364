import RecordFilter.Regex.Basic

namespace RecordFilter.Regex

def fail : Regex := set .empty

def ofSet (s : CharSet) : Regex :=
  match s.only? with
  | some c => literal [c]
  | none => set s

/-- The length of the shortest match, if the expression has parts that can match. -/
def shortest? : Regex → Option Nat
  | empty | anchor _ => some 0
  | literal cs => some cs.length
  | set s => if s = .empty then none else some 1
  | seq a b => do return (← shortest? a) + (← shortest? b)
  | alt a b => do return min (← shortest? a) (← shortest? b)
  | times a least _ _ => (shortest? a).map (least * ·)
  | group _ a => shortest? a

def longest? : Regex → Option Nat
  | empty | anchor _ => some 0
  | literal cs => some cs.length
  | set s => if s = .empty then none else some 1
  | seq a b => do return (← longest? a) + (← longest? b)
  | alt a b => do return max (← longest? a) (← longest? b)
  | times a _ limit _ => do return (← limit) * (← longest? a)
  | group _ a => longest? a

def factors : Regex → List Regex
  | empty => []
  | seq a b => factors a ++ factors b
  | r => [r]

def branches : Regex → List Regex
  | alt a b => branches a ++ branches b
  | r => [r]

def joinLiterals : List Regex → List Regex
  | [] => []
  | r :: rs =>
    match r, joinLiterals rs with
    | literal a, literal b :: rest => literal (a ++ b) :: rest
    | r, rest => r :: rest

def seqAll : List Regex → Regex
  | [] => empty
  | [r] => r
  | r :: rs => seq r (seqAll rs)

def altAll : List Regex → Regex
  | [] => fail
  | [r] => r
  | r :: rs => alt r (altAll rs)

/-- Expressions one after the other, in one flat sequence where neighbouring literals are one. -/
def sequence (rs : List Regex) : Regex := seqAll (joinLiterals (rs.flatMap factors))

def char? : Regex → Option Char
  | literal [c] => some c
  | _ => none

def set? : Regex → Option CharSet
  | set s => some s
  | _ => none

def isSeq : Regex → Bool
  | seq .. => true
  | _ => false

/-- Alternatives, none of them an alternation. Single characters make a set, and so do sets. -/
def choice (rs : List Regex) : Regex :=
  match rs, rs.mapM char?, rs.mapM set? with
  | [r], _, _ => r
  | _, some cs, _ => ofSet (.ofCodes (cs.map Char.toNat))
  | _, _, some sets => ofSet (.unions sets)
  | rs, _, _ => altAll rs

def common : List Regex → List Regex → List Regex
  | a :: as, b :: bs => if a = b then a :: common as bs else []
  | _, _ => []

def commonStart : List (List Regex) → List Regex
  | [] => []
  | first :: rest => rest.foldl common first

/-- Alternatives; what all of them start with is taken out if they are sequences. -/
def alternation (rs : List Regex) : Regex :=
  let rs := rs.flatMap branches
  let start := if rs.all isSeq then commonStart (rs.map factors) else []
  if start = [] then choice rs
  else
    let rest := rs.map fun r => sequence (r.factors.drop start.length)
    sequence (start ++ [choice (rest.flatMap branches)])

/-- Repetition. More than one round of something that only matches between characters is as good as
one. -/
def repetition (a : Regex) (least : Nat) (limit : Option Nat) (lazy : Bool) : Regex :=
  let (least, limit) :=
    if a.longest? = some 0 then (min least 1, some (min (limit.getD 1) 1)) else (least, limit)
  if limit = some 0 then empty
  else if least = 1 ∧ limit = some 1 then a
  else times a least limit lazy

end RecordFilter.Regex
