import RecordFilter.Condition.Comparison

namespace RecordFilter

inductive Condition where
  | comparison (c : Comparison)
  | negation (inner : Condition)
  | join (left : Condition) (op : Connective) (right : Condition)
  deriving DecidableEq

namespace Condition

/-- The height of the tree; a comparison has height one. -/
def depth : Condition → Nat
  | comparison _ => 1
  | negation inner => inner.depth + 1
  | join left _ right => max left.depth right.depth + 1

def placeholders : Condition → Nat
  | comparison c => c.placeholders
  | negation inner => inner.placeholders
  | join left _ right => left.placeholders + right.placeholders

/-- Whether a condition needs brackets on the right of a connective: joins group to the left. -/
def isJoin : Condition → Bool
  | join .. => true
  | _ => false

def bracketed (cs : List Char) : List Char := '(' :: cs ++ [')']

def chars : Condition → List Char
  | comparison c => c.chars
  | negation inner => "NOT ".toList ++ bracketed inner.chars
  | join left op right =>
    left.chars ++ ' ' :: op.symbol.toList ++
      ' ' :: if right.isJoin then bracketed right.chars else right.chars

def text (c : Condition) : String := String.ofList c.chars

end Condition

inductive Expression where
  | operand (x : Operand)
  | condition (c : Condition)
  deriving DecidableEq

namespace Expression

def placeholders : Expression → Nat
  | operand x => x.placeholders
  | condition c => c.placeholders

def chars : Expression → List Char
  | operand x => x.chars
  | condition c => c.chars

def text (e : Expression) : String := String.ofList e.chars

end Expression
end RecordFilter
