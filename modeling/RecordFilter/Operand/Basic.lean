import RecordFilter.Double.Basic

namespace RecordFilter

/-- Numbers keep the width they were written with: `1` and `1.0` differ as operands and compare as
equal. -/
inductive Number where
  | int32 (n : Int32)
  | int64 (n : Int64)
  | double (x : Double)
  deriving DecidableEq

namespace Number

/-- The narrowest width that holds `n`. -/
def ofInt64 (n : Int64) : Number :=
  if -0x80000000 ≤ n.toInt ∧ n.toInt < 0x80000000 then .int32 n.toInt32 else .int64 n

def toInt64? : Number → Option Int64
  | int32 n => some n.toInt64
  | int64 n => some n
  | double _ => none

def toDouble : Number → Double
  | int32 n => Double.ofInt n.toInt
  | int64 n => Double.ofInt n.toInt
  | double x => x

end Number

inductive Kind where
  | key
  | null
  | boolean
  | int32
  | int64
  | double
  | string
  | list
  | placeholder
  deriving DecidableEq

namespace Kind

def name : Kind → String
  | key => "key"
  | null => "null"
  | boolean => "boolean"
  | int32 => "int32"
  | int64 => "int64"
  | double => "double"
  | string => "string"
  | list => "list"
  | placeholder => "placeholder"

def isNumber : Kind → Bool
  | int32 | int64 | double => true
  | _ => false

/-- Literals of one family may be compared; all numbers are one family. -/
def sameFamily (a b : Kind) : Bool := a = b || (a.isNumber && b.isNumber)

end Kind

def Number.kind : Number → Kind
  | int32 _ => .int32
  | int64 _ => .int64
  | double _ => .double

inductive Operand where
  | key (name : String)
  | null
  | boolean (b : Bool)
  | number (n : Number)
  | string (s : String)
  | list (items : List Operand)
  | placeholder

instance : Inhabited Operand := ⟨.null⟩

namespace Operand

def isKey : Operand → Bool
  | key _ => true
  | _ => false

def kind : Operand → Kind
  | key _ => .key
  | null => .null
  | boolean _ => .boolean
  | number n => n.kind
  | string _ => .string
  | list _ => .list
  | placeholder => .placeholder

mutual

/-- How many placeholders there are, inside lists too. -/
def placeholders : Operand → Nat
  | placeholder => 1
  | list items => placeholdersIn items
  | _ => 0

def placeholdersIn : List Operand → Nat
  | [] => 0
  | x :: xs => x.placeholders + placeholdersIn xs

end

mutual

def same : Operand → Operand → Bool
  | key a, key b => a = b
  | null, null => true
  | boolean a, boolean b => a = b
  | number a, number b => a = b
  | string a, string b => a = b
  | list xs, list ys => sameItems xs ys
  | placeholder, placeholder => true
  | _, _ => false

def sameItems : List Operand → List Operand → Bool
  | [], [] => true
  | x :: xs, y :: ys => x.same y && sameItems xs ys
  | _, _ => false

end

mutual

theorem same_iff : (a b : Operand) → (a.same b = true ↔ a = b)
  | key _, b => by cases b <;> simp [same]
  | null, b => by cases b <;> simp [same]
  | boolean _, b => by cases b <;> simp [same]
  | number _, b => by cases b <;> simp [same]
  | string _, b => by cases b <;> simp [same]
  | list xs, b => by cases b <;> simp [same, sameItems_iff xs]
  | placeholder, b => by cases b <;> simp [same]

theorem sameItems_iff : (xs ys : List Operand) → (sameItems xs ys = true ↔ xs = ys)
  | [], ys => by cases ys <;> simp [sameItems]
  | x :: xs, ys => by cases ys <;> simp [sameItems, same_iff x, sameItems_iff xs]

end

instance : DecidableEq Operand := fun a b => decidable_of_iff _ (same_iff a b)

end Operand
end RecordFilter
