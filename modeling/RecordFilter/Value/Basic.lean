import RecordFilter.Double.Basic
import RecordFilter.Fields

namespace RecordFilter

inductive Value where
  | null
  | boolean (b : Bool)
  | integer (n : Int64)
  | float (x : Double)
  | string (s : String)
  | array (items : List Value)
  | object (fields : List (String × Value))

instance : Inhabited Value := ⟨.null⟩

inductive ValueKind where
  | null
  | boolean
  | integer
  | float
  | string
  | array
  | object
  deriving DecidableEq

def ValueKind.name : ValueKind → String
  | null => "null"
  | boolean => "boolean"
  | integer => "integer"
  | float => "float"
  | string => "string"
  | array => "array"
  | object => "object"

namespace Value

def kind : Value → ValueKind
  | null => .null
  | boolean _ => .boolean
  | integer _ => .integer
  | float _ => .float
  | string _ => .string
  | array _ => .array
  | object _ => .object

def isNumber : Value → Bool
  | integer _ | float _ => true
  | _ => false

def toDouble? : Value → Option Double
  | integer n => some (Double.ofInt n.toInt)
  | float x => some x
  | _ => none

def toInt64? : Value → Option Int64
  | integer n => some n
  | _ => none

def toString? : Value → Option String
  | string s => some s
  | _ => none

/-- The order of two numbers. Two integers are compared exactly, and all else as floats. -/
def compareNumbers : Value → Value → Option Ordering
  | integer a, integer b => some (Ord.compare a.toInt b.toInt)
  | a, b => match a.toDouble?, b.toDouble? with
    | some x, some y => x.compare y
    | _, _ => none

/-- The order of two values: strings go by their characters, and numbers by size. -/
def order : Value → Value → Option Ordering
  | string a, string b => some (Ord.compare a b)
  | a, b => a.compareNumbers b

mutual

/-- Equality with floats equal as numbers: a NaN makes whatever holds it differ from itself. -/
def equals : Value → Value → Bool
  | null, null => true
  | boolean a, boolean b => a = b
  | integer a, integer b => a = b
  | float a, float b => a.equals b
  | string a, string b => a = b
  | array xs, array ys => equalItems xs ys
  | object fs, object gs => equalFields fs gs
  | _, _ => false

def equalItems : List Value → List Value → Bool
  | [], [] => true
  | x :: xs, y :: ys => x.equals y && equalItems xs ys
  | _, _ => false

def equalFields : List (String × Value) → List (String × Value) → Bool
  | [], [] => true
  | (k, x) :: fs, (l, y) :: gs => k = l && x.equals y && equalFields fs gs
  | _, _ => false

end

def field? (name : String) : Value → Option Value
  | object fields => Fields.get? name fields
  | _ => none

end Value
end RecordFilter
