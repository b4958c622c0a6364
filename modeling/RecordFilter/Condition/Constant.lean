import RecordFilter.Evaluation

namespace RecordFilter

def Comparison.constant? (c : Comparison) : Option Bool :=
  if c.left.isKey ∨ c.placeholders ≠ 0 then none
  else match (c.evaluate .empty).result with
    | .ok b => some b
    | .error _ => none

namespace Condition

/-- Whether comparisons of literals alone settle the condition to be `b`: the condition is `b` for
every record if so. -/
def settled : Condition → Bool → Bool
  | comparison c, b => c.constant? = some b
  | negation inner, b => inner.settled !b
  | join left op right, b =>
    if b = op.decisive then left.settled b || right.settled b else left.settled b && right.settled b

def alwaysTrue (c : Condition) : Bool := c.settled true

def alwaysFalse (c : Condition) : Bool := c.settled false

end Condition
end RecordFilter
