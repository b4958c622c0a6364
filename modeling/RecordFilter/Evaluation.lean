import RecordFilter.Condition.Basic
import RecordFilter.Value.Basic

namespace RecordFilter

/-- A record is only asked for fields by name; `none` is a field that is absent. -/
abbrev Record := String → Option Value

def Value.record (v : Value) : Record := fun name => v.field? name

def Record.empty : Record := fun _ => none

inductive EvalError where
  | unboundPlaceholder (c : Comparison)
  /-- The left side is a value of a kind, or absent. -/
  | typeMismatch (op : Comparator) (left : Option ValueKind) (right : Kind)
  deriving DecidableEq

def EvalError.message : EvalError → String
  | unboundPlaceholder c => s!"placeholder in '{c.text}' must be bound before evaluation"
  | typeMismatch op left right =>
    let name := (left.map ValueKind.name).getD "absent"
    s!"can not apply {op.symbol} to {name} and {right.name}"

/-- The result of a test and the names of the fields it read. -/
structure Outcome where
  result : Except EvalError Bool
  reads : List String

def Number.value : Number → Value
  | int32 n => .integer n.toInt64
  | int64 n => .integer n
  | double x => .float x

namespace Operand

mutual

/-- The value that a literal stands for; keys and placeholders stand for none. -/
def value? : Operand → Option Value
  | null => some .null
  | boolean b => some (.boolean b)
  | number n => some n.value
  | string s => some (.string s)
  | list items => (valuesOf? items).map .array
  | key _ => none
  | placeholder => none

def valuesOf? : List Operand → Option (List Value)
  | [] => some []
  | x :: xs => match x.value?, valuesOf? xs with
    | some v, some vs => some (v :: vs)
    | _, _ => none

end

/-- Whether a value equals a literal; values of different families do not. -/
def equals (v : Value) (literal : Operand) : Bool :=
  match v, literal with
  | .null, .null => true
  | .boolean a, .boolean b => a = b
  | .string a, .string b => a = b
  | v, .number n => v.isNumber && v.compareNumbers n.value == some .eq
  | _, _ => false

end Operand

namespace Comparison

def mismatch (c : Comparison) (left : Option Value) : EvalError :=
  .typeMismatch c.op (left.map Value.kind) c.right.kind

/-- How a value stands to the right operand. There is no order with an absent or null value, nor
where a NaN is involved. -/
def order (c : Comparison) (left : Option Value) : Except EvalError (Option Ordering) :=
  match left, c.right with
  | none, _ => .ok none
  | some .null, _ => .ok none
  | some (.string a), .string b => .ok (some (Ord.compare a b))
  | some v, .number n =>
    if v.isNumber then .ok (v.compareNumbers n.value) else .error (c.mismatch left)
  | _, _ => .error (c.mismatch left)

def compare (c : Comparison) (left : Option Value) : Except EvalError Bool :=
  match c.op with
  | .equal => .ok <| match left with
    | none => c.right = .null
    | some v => c.right.equals v
  | .notEqual => .ok <| match left with
    | none => false
    | some v => !c.right.equals v
  | .member => match c.right with
    | .list items => .ok <| match left with
      | none => items.contains .null
      | some v => items.any fun item => item.equals v
    | _ => .error (c.mismatch left)
  | .like | .regex => match left with
    | none | some .null => .ok false
    | some (.string text) => match c.matcher with
      | some matcher => .ok (matcher.isMatch text)
      | none => .error (c.mismatch left)
    | some _ => .error (c.mismatch left)
  | op => (c.order left).map fun o => o.any op.admits

/-- A placeholder is found before anything is read; a key on the left is read once. -/
def evaluate (c : Comparison) (record : Record) : Outcome :=
  if c.placeholders ≠ 0 then ⟨.error (.unboundPlaceholder c), []⟩
  else match c.left with
    | .key name => ⟨c.compare (record name), [name]⟩
    | literal => ⟨c.compare literal.value?, []⟩

end Comparison

namespace Condition

/-- Two negations in a row are passed over. A connective tests its left side first and its right
side only if the left one leaves the result open; the first error ends the test. -/
def evaluate (record : Record) : Condition → Outcome
  | comparison c => c.evaluate record
  | negation (negation inner) => inner.evaluate record
  | negation inner =>
    let o := inner.evaluate record
    ⟨o.result.map (!·), o.reads⟩
  | join left op right =>
    let l := left.evaluate record
    match l.result with
    | .error e => ⟨.error e, l.reads⟩
    | .ok a =>
      if a = op.decisive then ⟨.ok a, l.reads⟩
      else
        let r := right.evaluate record
        ⟨r.result.map (op.apply a), l.reads ++ r.reads⟩

/-- Whether a record meets the condition. -/
def fit (c : Condition) (record : Record) : Except EvalError Bool := (c.evaluate record).result

end Condition
end RecordFilter
