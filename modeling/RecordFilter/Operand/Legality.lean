import RecordFilter.Operand.Basic
import RecordFilter.Operator

namespace RecordFilter

/-- Why two operands can not stand around a comparator. -/
inductive Illegality where
  | listOnLeft (op : Comparator)
  | placeholderOnLeft (op : Comparator)
  | keyOnRight (name : String) (op : Comparator)
  | keyInList (name : String)
  | nestedList
  | listRequired (op : Comparator) (got : Kind)
  | listRefused (op : Comparator)
  | inapplicable (op : Comparator) (kind : Kind)
  | differentFamilies (left right : Kind)
  | invalidPattern (pattern : String)
  deriving DecidableEq

def Illegality.message : Illegality → String
  | listOnLeft op => s!"a list can not be the left operand of {op.symbol}"
  | placeholderOnLeft op => s!"a placeholder can not be the left operand of {op.symbol}"
  | keyOnRight name op => s!"key '{name}' can not be the right operand of {op.symbol}"
  | keyInList name => s!"key '{name}' can not be a list element"
  | nestedList => "lists can not be nested"
  | listRequired op got => s!"{op.symbol} requires a list operand, got {got.name}"
  | listRefused op => s!"a list operand is only legal with IN, got {op.symbol}"
  | inapplicable op kind => s!"operator {op.symbol} can not be applied to {kind.name}"
  | differentFamilies left right => s!"can not compare {left.name} with {right.name}"
  | invalidPattern pattern => s!"invalid pattern '{pattern}'"

namespace Operand

/-- Nulls and booleans only have equality, numbers are ordered too, and strings take everything. -/
def scalarFault (x : Operand) (op : Comparator) : Option Illegality :=
  let legal := match x.kind with
    | .null | .boolean => op.isEquality
    | .int32 | .int64 | .double => op.isEquality || op.isOrdering
    | .string | .key | .placeholder => true
    | .list => false
  if legal then none else some (.inapplicable op x.kind)

def leftFault (x : Operand) (op : Comparator) : Option Illegality :=
  match x with
  | key _ => none
  | list _ => some (.listOnLeft op)
  | placeholder => some (.placeholderOnLeft op)
  | x => if op = .member then none else x.scalarFault op

/-- The fault in an element of a list, if any: elements are literals or placeholders. -/
def elementFault : Operand → Option Illegality
  | key name => some (.keyInList name)
  | list _ => some .nestedList
  | _ => none

def rightFault (x : Operand) (op : Comparator) : Option Illegality :=
  match x with
  | key name => some (.keyOnRight name op)
  | placeholder => none
  | list items => if op = .member then items.findSome? elementFault else some (.listRefused op)
  | x => if op = .member then some (.listRequired op x.kind) else x.scalarFault op

end Operand
end RecordFilter
