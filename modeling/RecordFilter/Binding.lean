import RecordFilter.Condition.Basic
import RecordFilter.Value.Basic

namespace RecordFilter

inductive BindError where
  | arity (expected got : Nat)
  | nonFiniteFloat
  | object
  | outOfParameters
  | illegal (fault : Illegality)
  deriving DecidableEq

def BindError.message : BindError → String
  | arity expected got => s!"expected {expected} parameters, got {got}"
  | nonFiniteFloat => "non-finite float values can not be bound to a placeholder"
  | object => "object values can not be bound to a placeholder"
  | outOfParameters => "illegal parameter: ran out of parameters"
  | illegal fault => s!"illegal parameter: {fault.message}"

namespace Operand

mutual

/-- The literal for a value; objects and floats that are not finite have none. -/
def ofValue : Value → Except BindError Operand
  | .null => .ok .null
  | .boolean b => .ok (.boolean b)
  | .integer n => .ok (.number (.ofInt64 n))
  | .float x => if x.isFinite then .ok (.number (.double x)) else .error .nonFiniteFloat
  | .string s => .ok (.string s)
  | .array items => (ofValues items).map .list
  | .object _ => .error .object

def ofValues : List Value → Except BindError (List Operand)
  | [] => .ok []
  | v :: vs => do
    let x ← ofValue v
    let xs ← ofValues vs
    return x :: xs

end

mutual

/-- Binds the placeholders of an operand, and gives the values that are left over. -/
def bind (params : List Value) : Operand → Except BindError (Operand × List Value)
  | placeholder => match params with
    | [] => .error .outOfParameters
    | v :: params => (ofValue v).map (·, params)
  | list items => (bindItems params items).map fun (items, params) => (.list items, params)
  | x => .ok (x, params)

def bindItems (params : List Value) : List Operand → Except BindError (List Operand × List Value)
  | [] => .ok ([], params)
  | x :: xs => do
    let (x, params) ← x.bind params
    let (xs, params) ← bindItems params xs
    return (x :: xs, params)

end

end Operand

/-- Binds the placeholders of a comparison, which must then be legal again. -/
def Comparison.bind (params : List Value) (c : Comparison) :
    Except BindError (Comparison × List Value) :=
  if c.placeholders = 0 then .ok (c, params)
  else do
    let (right, params) ← c.right.bind params
    match Comparison.make c.left c.op right with
    | .ok c => return (c, params)
    | .error fault => throw (.illegal fault)

def Condition.bindFrom (params : List Value) :
    Condition → Except BindError (Condition × List Value)
  | comparison c => (c.bind params).map fun (c, params) => (comparison c, params)
  | negation inner => (inner.bindFrom params).map fun (inner, params) => (negation inner, params)
  | join left op right => do
    let (left, params) ← left.bindFrom params
    let (right, params) ← right.bindFrom params
    return (join left op right, params)

/-- Binds all placeholders; there must be as many values. -/
def Condition.bind (c : Condition) (params : List Value) : Except BindError Condition :=
  if c.placeholders ≠ params.length then .error (.arity c.placeholders params.length)
  else (c.bindFrom params).map (·.1)

def Expression.bind (e : Expression) (params : List Value) : Except BindError Expression :=
  match e with
  | .condition c => (c.bind params).map .condition
  | .operand x =>
    if x.placeholders ≠ params.length then .error (.arity x.placeholders params.length)
    else (x.bind params).map fun (x, _) => .operand x

end RecordFilter
