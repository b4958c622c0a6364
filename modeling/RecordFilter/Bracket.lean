namespace RecordFilter

inductive BracketKind where
  | group
  | list
  deriving DecidableEq

structure Bracket where
  kind : BracketKind
  start : Nat
  /-- The place of the closing bracket, once it has been read. -/
  stop : Option Nat
  parent : Option Nat
  children : List Nat
  deriving DecidableEq

/-- Brackets by number, in the order in which they open; they refer to each other by number. -/
structure BracketTree where
  brackets : Array Bracket
  deriving DecidableEq

namespace BracketTree

def empty : BracketTree := ⟨#[]⟩

def size (t : BracketTree) : Nat := t.brackets.size

def get? (t : BracketTree) (id : Nat) : Option Bracket := t.brackets[id]?

def push (t : BracketTree) (kind : BracketKind) (parent : Option Nat) (start : Nat) : BracketTree :=
  let brackets := t.brackets.push ⟨kind, start, none, parent, []⟩
  match parent with
  | none => ⟨brackets⟩
  | some p => ⟨brackets.modify p fun b => { b with children := b.children ++ [t.size] }⟩

def close (t : BracketTree) (id : Nat) (stop : Nat) : BracketTree :=
  ⟨t.brackets.modify id fun b => { b with stop := some stop }⟩

def roots (t : BracketTree) : List Nat :=
  (List.range t.size).filter fun id => (t.get? id).any (·.parent.isNone)

/-- How many brackets stand around this one; those have smaller numbers. -/
def depth (t : BracketTree) (id : Nat) : Nat :=
  match (t.get? id).bind (·.parent) with
  | none => 0
  | some p => if p < id then t.depth p + 1 else 1
termination_by id

end BracketTree
end RecordFilter
