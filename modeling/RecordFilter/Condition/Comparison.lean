import RecordFilter.Operand.Legality
import RecordFilter.Operand.Printer
import RecordFilter.Regex.Reader
import RecordFilter.Wildcard

namespace RecordFilter

/-- The matcher of a pattern. A regular expression must also stay within the size limit of
`Regex.fits`; for wildcard patterns that limit is left out, so that each of them has a matcher. -/
def Comparator.compile? (op : Comparator) (pattern : String) : Option Regex :=
  match op with
  | .like => some (Wildcard.regex pattern)
  | _ => Regex.ofPattern? pattern

namespace Comparison

/-- Whether the operands are legal, and the matcher if the right one is a pattern. Two literals
must be of one family; a key or a placeholder may turn out to be of any. -/
def assess (left : Operand) (op : Comparator) (right : Operand) :
    Except Illegality (Option Regex) :=
  match left.leftFault op, right.rightFault op with
  | some fault, _ => .error fault
  | none, some fault => .error fault
  | none, none =>
    if !left.isKey && op != .member && right.placeholders = 0 &&
        !left.kind.sameFamily right.kind then
      .error (.differentFamilies left.kind right.kind)
    else match right, op.isPattern with
      | .string pattern, true => match op.compile? pattern with
        | some matcher => .ok (some matcher)
        | none => .error (.invalidPattern pattern)
      | _, _ => .ok none

end Comparison

structure Comparison where
  left : Operand
  op : Comparator
  right : Operand
  matcher : Option Regex
  legal : Comparison.assess left op right = .ok matcher

namespace Comparison

def make (left : Operand) (op : Comparator) (right : Operand) : Except Illegality Comparison :=
  match h : assess left op right with
  | .ok matcher => .ok ⟨left, op, right, matcher, h⟩
  | .error fault => .error fault

theorem eq_iff (a b : Comparison) : a = b ↔ a.left = b.left ∧ a.op = b.op ∧ a.right = b.right := by
  refine ⟨fun h => by simp [h], fun ⟨hl, ho, hr⟩ => ?_⟩
  obtain ⟨left, op, right, matcher, legal⟩ := a
  obtain ⟨left', op', right', matcher', legal'⟩ := b
  dsimp only at hl ho hr
  subst hl ho hr
  obtain rfl : matcher = matcher' := by simpa [legal] using legal'
  rfl

instance : DecidableEq Comparison := fun a b => decidable_of_iff _ (eq_iff a b).symm

def placeholders (c : Comparison) : Nat := c.right.placeholders

def chars (c : Comparison) : List Char :=
  c.left.chars ++ ' ' :: c.op.symbol.toList ++ ' ' :: c.right.chars

def text (c : Comparison) : String := String.ofList c.chars

end Comparison
end RecordFilter
