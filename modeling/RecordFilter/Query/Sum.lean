import RecordFilter.Decimal.Double
import RecordFilter.Query.Aggregate

namespace RecordFilter

structure Total where
  /-- `none` once something was no decimal. -/
  exact : Option Decimal
  approximate : Double

namespace Total

def zero : Total := ⟨some .zero, .zero false⟩

def add (t : Total) (addend : Option Decimal) (x : Double) : Total where
  exact := t.exact.bind fun d => addend.bind d.add?
  approximate := t.approximate + x

/-- Adds a value; null counts as nothing, and all else must be a finite number. -/
def addValue (t : Total) : Value → Result Total
  | .integer n => .ok (t.add (some (.ofInt64 n)) (Double.ofInt n.toInt))
  | .float x =>
    if x.isFinite then .ok (t.add (Decimal.ofDoubleExactly? x) x) else .error .notFinite
  | .null => .ok t
  | v => .error (.notNumeric v.kind)

/-- An integer if the total is whole and fits, and a float otherwise. -/
def value (t : Total) : Result Value :=
  match t.exact with
  | some d => match d.toInt? with
    | some n =>
      if -0x8000000000000000 ≤ n ∧ n < 0x8000000000000000 then .ok (.integer (Int64.ofInt n))
      else .ok (.float d.toDouble)
    | none => .ok (.float d.toDouble)
  | none => if t.approximate.isFinite then .ok (.float t.approximate) else .error .overflow

end Total

def Query.sum (q : Query Value) (w : World Value) : Result Value × World Value :=
  let step (t : Result Total) (v : Value) : ForInStep (Result Total) :=
    match t.bind (·.addValue v) with
    | .ok t => .yield (.ok t)
    | .error e => .done (.error e)
  let (r, w) := q.aggregate step (.ok .zero) w
  (r.bind fun t => t.bind Total.value, w)

end RecordFilter
