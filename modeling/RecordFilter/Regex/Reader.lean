import RecordFilter.Regex.Automaton
import RecordFilter.Regex.Bracket

namespace RecordFilter.Regex

/-- Patterns that nest deeper than this are refused. -/
def nestLimit : Nat := 250

/-- A part of a pattern with its depth of nesting. Flags are a part too, but can not be repeated. -/
structure Piece where
  regex : Regex
  height : Nat
  repeatable : Bool

/-- A group that is being read: its number if it has one, the flags to restore when it closes, and
its finished alternatives and the parts of the current one, the last first. -/
structure OpenGroup where
  number : Option Nat
  restored : Flags
  alternatives : List Piece
  parts : List Piece

def tallest (ps : List Piece) : Nat := ps.foldl (fun h p => max h p.height) 0

namespace OpenGroup

def start (number : Option Nat) (restored : Flags) : OpenGroup := ⟨number, restored, [], []⟩

def add (g : OpenGroup) (p : Piece) : OpenGroup := { g with parts := p :: g.parts }

def last (g : OpenGroup) : Piece :=
  match g.parts with
  | [p] => p
  | ps => ⟨sequence (ps.reverse.map (·.regex)), if ps = [] then 0 else tallest ps + 1, true⟩

def alternate (g : OpenGroup) : OpenGroup :=
  { g with alternatives := g.last :: g.alternatives, parts := [] }

def close (g : OpenGroup) : Piece :=
  match g.alternatives with
  | [] => g.last
  | ps =>
    let ps := g.last :: ps
    ⟨alternation (ps.reverse.map (·.regex)), tallest ps + 1, true⟩

def repeatLast (g : OpenGroup) (least : Nat) (limit : Option Nat) (lazy : Bool) :
    Option OpenGroup :=
  match g.parts with
  | p :: ps =>
    if p.repeatable then
      some { g with parts := ⟨repetition p.regex least limit lazy, p.height + 1, true⟩ :: ps }
    else none
  | [] => none

end OpenGroup

def OpenGroup.canRepeat (g : OpenGroup) : Bool := g.parts.head?.any (·.repeatable)

def lazyMark : List Char → Bool × List Char
  | '?' :: cs => (true, cs)
  | cs => (false, cs)

/-- A number in braces, among blanks; it fits in 32 bits. -/
def countText (flags : Flags) (cs : List Char) : Option Nat × List Char :=
  let (digits, rest) := flags.gather Numeral.isDigit (cs.dropWhile Unicode.isBlank)
  let n := Numeral.value digits
  (if digits ≠ [] ∧ n < UInt32.size then some n else none, rest.dropWhile Unicode.isBlank)

def bounds (flags : Flags) (cs : List Char) : Option ((Nat × Option Nat) × List Char) := do
  let (least, rest) := countText flags (flags.skip cs)
  let least ← least
  match rest with
  | '\x7d' :: rest => return ((least, some least), rest)
  | ',' :: rest =>
    match flags.skip rest with
    | '\x7d' :: rest => return ((least, none), rest)
    | rest =>
      let (most, rest) := countText flags rest
      let most ← most
      match rest with
      | '\x7d' :: rest => if least ≤ most then return ((least, some most), rest) else none
      | _ => none
  | _ => none

def Flags.set? (flags : Flags) (value : Bool) : Char → Option Flags
  | 'i' => some { flags with insensitive := value }
  | 'm' => some { flags with multiLine := value }
  | 's' => some { flags with dotAll := value }
  | 'U' => some { flags with ungreedy := value }
  | 'u' => some { flags with unicode := value }
  | 'R' => some { flags with anyLine := value }
  | 'x' => some { flags with verbose := value }
  | _ => none

/-- Reads flags up to a colon or a closing parenthesis. No letter and no minus comes twice, and a
minus is followed by a letter. -/
def readFlags (flags : Flags) (value : Bool) (seen : List Char) :
    List Char → Option (Flags × List Char × List Char)
  | [] => none
  | c :: cs =>
    if c = ':' || c = ')' then
      if seen.head? = some '-' then none else some (flags, seen, c :: cs)
    else if seen.contains c then none
    else if c = '-' then readFlags flags false ('-' :: seen) cs
    else match flags.set? value c with
      | some flags => readFlags flags value (c :: seen) cs
      | none => none

def isGroupNameStart (c : Char) : Bool := c = '_' || Unicode.alphabetic.contains c

def isGroupNamePart (c : Char) : Bool :=
  isGroupNameStart c || c = '.' || c = '[' || c = ']' || Unicode.numeric.contains c

def groupName (cs : List Char) : Option (List Char × List Char) :=
  let name := cs.takeWhile (· != '>')
  match name, cs.drop name.length with
  | c :: part, '>' :: rest =>
    if isGroupNameStart c && part.all isGroupNamePart then some (name, rest) else none
  | _, _ => none

structure PatternState where
  flags : Flags
  names : List (List Char)
  /-- How many groups have numbers. -/
  numbered : Nat
  group : OpenGroup
  outer : List OpenGroup

namespace PatternState

def start : PatternState := ⟨{}, [], 0, .start none {}, []⟩

def add (p : PatternState) (r : Regex) (height : Nat) : PatternState :=
  { p with group := p.group.add ⟨r, height, true⟩ }

/-- Opens a group inside which other flags may hold. -/
def openGroup (p : PatternState) (number : Option Nat) (flags : Flags) : PatternState :=
  { p with flags := flags, group := .start number p.flags, outer := p.group :: p.outer }

def openNumbered (p : PatternState) : PatternState :=
  { p.openGroup (some (p.numbered + 1)) p.flags with numbered := p.numbered + 1 }

/-- Reads what follows an opening parenthesis: a group, or flags for the rest of this one. -/
def parenthesis (p : PatternState) (cs : List Char) : Option (PatternState × List Char) :=
  match p.flags.skip cs with
  | '?' :: 'P' :: '<' :: rest | '?' :: '<' :: rest => do
    let (name, rest) ← groupName rest
    if p.names.contains name then none
    else return ({ p.openNumbered with names := name :: p.names }, rest)
  | '?' :: rest => do
    let (flags, seen, rest) ← readFlags p.flags true [] rest
    match rest with
    | ':' :: rest => return (p.openGroup none flags, rest)
    | _ :: rest =>
      if seen.isEmpty then none
      else return ({ p with flags := flags, group := p.group.add ⟨.empty, 0, false⟩ }, rest)
    | [] => none
  | rest => some (p.openNumbered, rest)

def closeGroup (p : PatternState) : Option PatternState :=
  match p.outer with
  | [] => none
  | o :: outer =>
    let inner := p.group.close
    let regex := match p.group.number with
      | some number => .group number inner.regex
      | none => inner.regex
    some { p with
      flags := p.group.restored
      group := o.add ⟨regex, inner.height + 1, true⟩
      outer := outer }

/-- Repeats the last part, lazily if a mark says so or the flags swap the two. -/
def repeatLast (p : PatternState) (least : Nat) (limit : Option Nat) (cs : List Char) :
    Option (PatternState × List Char) :=
  let (marked, rest) := lazyMark cs
  (p.group.repeatLast least limit (marked != p.flags.ungreedy)).map fun g =>
    ({ p with group := g }, rest)

def read (p : PatternState) (c : Char) (cs : List Char) : Option (PatternState × List Char) :=
  match c with
  | '(' => p.parenthesis cs
  | ')' => p.closeGroup.map fun p => (p, cs)
  | '|' => some ({ p with group := p.group.alternate }, cs)
  | '?' => p.repeatLast 0 (some 1) cs
  | '*' => p.repeatLast 0 none cs
  | '+' => p.repeatLast 1 none cs
  | '\x7b' =>
    if p.group.canRepeat then do
      let ((least, limit), rest) ← bounds p.flags cs
      p.repeatLast least limit (p.flags.skip rest)
    else none
  | '[' => do
    let (s, rest) := OpenSet.start p.flags cs
    let (closed, rest) ← readSet p.flags (cs.length + 1) s [] rest
    return (p.add (ofSet closed.set) closed.height, rest)
  | '.' => (dot? p.flags).map fun r => (p.add r 0, cs)
  | '^' => some (p.add (.anchor (lineStart p.flags)) 0, cs)
  | '$' => some (p.add (.anchor (lineStop p.flags)) 0, cs)
  | '\\' => do
    let (atom, rest) ← escape p.flags cs
    return (p.add (← atom.regex? p.flags) 0, rest)
  | c => (literal? p.flags c false).map fun r => (p.add r 0, cs)

/-- Reads on to the end of the pattern. Every round takes a character, so the length of the pattern
bounds the rounds. -/
def finish? (p : PatternState) : Nat → List Char → Option Piece
  | 0, _ => none
  | n + 1, cs => match p.flags.skip cs with
    | [] => if p.outer.isEmpty then some p.group.close else none
    | c :: cs => match p.read c cs with
      | some (p, rest) => p.finish? n rest
      | none => none

end PatternState

def ofPattern? (pattern : String) : Option Regex :=
  let cs := pattern.toList
  match PatternState.start.finish? (cs.length + 1) cs with
  | some p => if p.height ≤ nestLimit && p.regex.fits then some p.regex else none
  | none => none

end RecordFilter.Regex
