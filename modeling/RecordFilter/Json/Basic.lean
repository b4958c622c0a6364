import RecordFilter.Evaluation

namespace RecordFilter

/-- A number without fraction and exponent is an integer if it fits 64 bits, signed or not. -/
inductive Json where
  | null
  | boolean (b : Bool)
  | integer (n : Int64)
  /-- An integer that is too large for a signed one. -/
  | large (n : UInt64) (above : 0x8000000000000000 ≤ n.toNat)
  | float (x : Double) (finite : x.isFinite = true)
  | string (s : String)
  | array (items : List Json)
  | object (fields : List (String × Json))

instance : Inhabited Json := ⟨.null⟩

namespace Json

mutual

/-- Integers that are too large become floats. -/
def toValue : Json → Value
  | null => .null
  | boolean b => .boolean b
  | integer n => .integer n
  | large n _ => .float (Double.ofInt n.toNat)
  | float x _ => .float x
  | string s => .string s
  | array items => .array (valuesOfItems items)
  | object fields => .object (valuesOfFields fields)

def valuesOfItems : List Json → List Value
  | [] => []
  | j :: js => j.toValue :: valuesOfItems js

def valuesOfFields : List (String × Json) → List (String × Value)
  | [] => []
  | (k, j) :: fs => (k, j.toValue) :: valuesOfFields fs

end

def ofDouble? (x : Double) : Option Json :=
  if h : x.isFinite = true then some (float x h) else none

mutual

/-- Floats that are not finite become null. -/
def ofValue : Value → Json
  | .null => null
  | .boolean b => boolean b
  | .integer n => integer n
  | .float x => (ofDouble? x).getD null
  | .string s => string s
  | .array items => array (ofItems items)
  | .object fields => object (ofFields fields)

def ofItems : List Value → List Json
  | [] => []
  | v :: vs => ofValue v :: ofItems vs

def ofFields : List (String × Value) → List (String × Json)
  | [] => []
  | (k, v) :: fs => (k, ofValue v) :: ofFields fs

end

def kind : Json → ValueKind
  | null => .null
  | boolean _ => .boolean
  | integer _ => .integer
  | large .. => .float
  | float .. => .float
  | string _ => .string
  | array _ => .array
  | object _ => .object

def field? (name : String) : Json → Option Value
  | object fields => (Fields.get? name fields).map toValue
  | _ => none

def record (j : Json) : Record := fun name => j.field? name

end Json
end RecordFilter
