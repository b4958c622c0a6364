import RecordFilter.Bracket
import RecordFilter.Parse.Region
import RecordFilter.Token.Lexer

namespace RecordFilter

/-- A list that is being read, its elements last first. -/
structure OpenList where
  bracket : Nat
  start : Nat
  elements : List Operand
  elementExpected : Bool
  deriving DecidableEq

structure OpenRegion where
  bracket : Nat
  start : Nat
  around : Region
  deriving DecidableEq

structure ParseState where
  region : Region
  outer : List OpenRegion
  list : Option OpenList
  brackets : BracketTree
  deriving DecidableEq

namespace ParseState

def start : ParseState := ⟨.start 0, [], none, .empty⟩

def parent (s : ParseState) : Option Nat := s.outer.head?.map (·.bracket)

/-- Opens a list where a comparison waits for its right side, and a group elsewhere. -/
def leftParen (options : ParseOptions) (s : ParseState) (offset : Nat) :
    Except ParseError ParseState :=
  let id := s.brackets.size
  let isList := s.region.expectsOperand
  let depth := if isList then s.region.nesting + 1 else s.region.groupNesting
  if options.maxDepth < depth then .error ⟨offset, .nestedTooDeep options.maxDepth⟩
  else if isList then
    .ok { s with
      list := some ⟨id, offset, [], true⟩
      brackets := s.brackets.push .list s.parent offset }
  else
    .ok { s with
      region := .start depth
      outer := ⟨id, offset, s.region⟩ :: s.outer
      brackets := s.brackets.push .group s.parent offset }

def rightParen (options : ParseOptions) (s : ParseState) (offset : Nat) :
    Except ParseError ParseState :=
  match s.outer with
  | [] => .error ⟨offset, .unmatched⟩
  | group :: outer => do
    let region ← match ← s.region.finish options offset with
      | .condition c => group.around.pushCondition options c group.start
      | .operand x => group.around.pushValue options x group.start
    return { s with region, outer, brackets := s.brackets.close group.bracket offset }

/-- A token of a list. Elements are literals or placeholders with commas between them. -/
def inList (options : ParseOptions) (s : ParseState) (l : OpenList) (token : Token)
    (offset : Nat) : Except ParseError ParseState :=
  let go (l : OpenList) : Except ParseError ParseState := .ok { s with list := some l }
  match token with
  | .key name => .error ⟨offset, .illegal (.keyInList name)⟩
  | .leftParen => .error ⟨offset, .illegal .nestedList⟩
  | token =>
    if token = .rightParen ∧ (l.elements = [] ∨ ¬l.elementExpected) then do
      let region ← s.region.pushValue options (.list l.elements.reverse) l.start
      return { s with region, list := none, brackets := s.brackets.close l.bracket offset }
    else if l.elementExpected then
      match token.operand? with
      | some x => go { l with elements := x :: l.elements, elementExpected := false }
      | none => .error ⟨offset, .listElementExpected⟩
    else if token = .comma then go { l with elementExpected := true }
    else .error ⟨offset, .listSeparatorExpected⟩

def inRegion (options : ParseOptions) (s : ParseState) (token : Token) (offset : Nat) :
    Except ParseError ParseState :=
  let go (region : Except ParseError Region) : Except ParseError ParseState :=
    region.map fun region => { s with region }
  match token with
  | .comparator op => go (s.region.pushComparator options op offset)
  | .connective op => go (s.region.pushConnective options op offset)
  | .not => go (s.region.pushNot options offset)
  | .leftParen => s.leftParen options offset
  | .rightParen => s.rightParen options offset
  | .comma => .error ⟨offset, .strayComma⟩
  | .null => go (s.region.pushValue options .null offset)
  | .boolean b => go (s.region.pushValue options (.boolean b) offset)
  | .number n => go (s.region.pushValue options (.number n) offset)
  | .string t => go (s.region.pushValue options (.string t) offset)
  | .key name => go (s.region.pushValue options (.key name) offset)
  | .placeholder => go (s.region.pushValue options .placeholder offset)

def step (options : ParseOptions) (s : ParseState) (l : Lexeme) : Except ParseError ParseState :=
  match s.list with
  | some list => s.inList options list l.token l.start
  | none => s.inRegion options l.token l.start

def finish (options : ParseOptions) (s : ParseState) (stop : Nat) :
    Except ParseError Expression :=
  match s.list, s.outer with
  | some list, _ => .error ⟨list.start, .unclosed⟩
  | none, group :: _ => .error ⟨group.start, .unclosed⟩
  | none, [] => s.region.finish options stop

end ParseState

structure Parsed where
  expression : Expression
  brackets : BracketTree
  deriving DecidableEq

/-- Reads tokens up to the end of their text. -/
def parseLexemes (options : ParseOptions) (lexemes : List Lexeme) (stop : Nat) :
    Except ParseError Parsed := do
  let s ← lexemes.foldlM (ParseState.step options) .start
  return ⟨← s.finish options stop, s.brackets⟩

/-- Reads a text. A token is taken only after the one behind it has been found, so a text with an
error among its tokens is read up to two tokens before it. -/
def parse (text : String) (options : ParseOptions := {}) : Except ParseError Parsed :=
  match (Reader.ofText text).lexemes with
  | (lexemes, .ok stop) => parseLexemes options lexemes stop
  | (lexemes, .error e) => do
    let _ ← lexemes.dropLast.foldlM (ParseState.step options) .start
    throw (.lexical e)

def Expression.parse (text : String) (options : ParseOptions := {}) :
    Except ParseError Expression :=
  (RecordFilter.parse text options).map (·.expression)

/-- Reads a text that is more than a bare value. -/
def Condition.parse (text : String) (options : ParseOptions := {}) :
    Except ParseError Condition := do
  match ← Expression.parse text options with
  | .condition c => return c
  | .operand x => throw ⟨0, .bareValue x⟩

end RecordFilter
