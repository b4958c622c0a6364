import RecordFilter.CharSet.Ascii
import RecordFilter.Unicode.Derived

namespace RecordFilter

inductive WordEdge where
  | either
  | neither
  | start
  | stop
  | startHalf
  | stopHalf
  deriving DecidableEq

inductive Anchor where
  | textStart
  | textStop
  | lineStart
  | lineStop
  /-- Lines that end in `\r`, `\n` or both together. -/
  | anyLineStart
  | anyLineStop
  | word (edge : WordEdge) (ascii : Bool)
  deriving DecidableEq

namespace Anchor

def isWordChar (ascii : Bool) (c : Char) : Bool :=
  if ascii then CharSet.asciiWord.contains c else Unicode.word.contains c

def holds (before after : Option Char) : Anchor → Bool
  | textStart => before.isNone
  | textStop => after.isNone
  | lineStart => before.isNone || before = some '\n'
  | lineStop => after.isNone || after = some '\n'
  | anyLineStart =>
    before.isNone || before = some '\n' || (before = some '\r' && after != some '\n')
  | anyLineStop =>
    after.isNone || after = some '\r' || (after = some '\n' && before != some '\r')
  | word edge ascii =>
    let a := before.any (isWordChar ascii)
    let b := after.any (isWordChar ascii)
    match edge with
    | .either => a != b
    | .neither => a == b
    | .start => !a && b
    | .stop => a && !b
    | .startHalf => !a
    | .stopHalf => !b

end Anchor

inductive Regex where
  | empty
  | literal (cs : List Char)
  | set (s : CharSet)
  | anchor (a : Anchor)
  | seq (a b : Regex)
  | alt (a b : Regex)
  /-- At least `least` times and, if there is a limit, at most `limit` times. A lazy repetition
  prefers few rounds, which has no part in what can match. -/
  | times (a : Regex) (least : Nat) (limit : Option Nat) (lazy : Bool)
  | group (number : Nat) (a : Regex)
  deriving DecidableEq

namespace Regex

def neighbours (text : Array Char) (i : Nat) : Option Char × Option Char :=
  (if i = 0 then none else text[i - 1]?, text[i]?)

/-- `r.Spans text i j`: the expression matches the text from place `i` to place `j`. -/
inductive Spans (text : Array Char) : Regex → Nat → Nat → Prop where
  | empty (i : Nat) : Spans text empty i i
  | literal (cs : List Char) (i : Nat) :
      cs <+: text.toList.drop i → Spans text (literal cs) i (i + cs.length)
  | set (s : CharSet) (i : Nat) (c : Char) :
      text[i]? = some c → s.contains c = true → Spans text (set s) i (i + 1)
  | anchor (a : Anchor) (i : Nat) :
      a.holds (neighbours text i).1 (neighbours text i).2 = true → Spans text (anchor a) i i
  | seq (a b : Regex) (i j k : Nat) :
      Spans text a i j → Spans text b j k → Spans text (seq a b) i k
  | altLeft (a b : Regex) (i j : Nat) : Spans text a i j → Spans text (alt a b) i j
  | altRight (a b : Regex) (i j : Nat) : Spans text b i j → Spans text (alt a b) i j
  | stop (a : Regex) (limit : Option Nat) (lazy : Bool) (i : Nat) :
      Spans text (times a 0 limit lazy) i i
  | more (a : Regex) (least : Nat) (limit : Option Nat) (lazy : Bool) (i j k : Nat) :
      limit ≠ some 0 → Spans text a i j →
      Spans text (times a (least - 1) (limit.map (· - 1)) lazy) j k →
      Spans text (times a least limit lazy) i k
  | group (number : Nat) (a : Regex) (i j : Nat) :
      Spans text a i j → Spans text (group number a) i j

/-- Both lists increase; so does the result, which has each place once. -/
def merge : List Nat → List Nat → List Nat
  | [], js => js
  | is, [] => is
  | i :: is, j :: js =>
    if i < j then i :: merge is (j :: js)
    else if j < i then j :: merge (i :: is) js
    else i :: merge is js
termination_by is js => is.length + js.length

/-- The places reached by up to `rounds` further rounds: only places not seen before go on. -/
def spread (round : List Nat → List Nat) : Nat → List Nat → List Nat → List Nat
  | 0, _, seen => seen
  | n + 1, fresh, seen =>
    match (round fresh).filter (!seen.contains ·) with
    | [] => seen
    | next => spread round n next (merge seen next)

def advance (text : Array Char) (p : Char → Bool) (is : List Nat) : List Nat :=
  is.filterMap fun i => if (text[i]?).any p then some (i + 1) else none

/-- The places where a match from one of the given places can end. Places only move forward, so of
more rounds than the text has places some are empty and can be left out: counts are capped there. -/
def step (text : Array Char) : Regex → List Nat → List Nat
  | empty, is => is
  | literal cs, is => cs.foldl (fun is c => advance text (· = c) is) is
  | set s, is => advance text s.contains is
  | anchor a, is => is.filter fun i =>
      let (before, after) := neighbours text i
      a.holds before after
  | seq a b, is => step text b (step text a is)
  | alt a b, is => merge (step text a is) (step text b is)
  | group _ a, is => step text a is
  | times a least limit _, is =>
    let cap := text.size + 1
    let start := Nat.repeat (step text a) (min least cap) is
    let rounds := match limit with
      | none => cap
      | some m => min (m - least) cap
    spread (step text a) rounds start start

def isMatch (r : Regex) (text : String) : Bool :=
  let chars := text.toList.toArray
  !(step chars r (List.range (chars.size + 1))).isEmpty

end Regex
end RecordFilter
