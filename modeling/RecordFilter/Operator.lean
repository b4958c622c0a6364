namespace RecordFilter

inductive Comparator where
  | equal
  | notEqual
  | less
  | lessEqual
  | greater
  | greaterEqual
  | member
  | like
  | regex
  deriving DecidableEq

namespace Comparator

def all : List Comparator :=
  [equal, notEqual, less, lessEqual, greater, greaterEqual, member, like, regex]

/-- The spelling in printed filters; the lexer knows further ones. -/
def symbol : Comparator → String
  | equal => "="
  | notEqual => "!="
  | less => "<"
  | lessEqual => "<="
  | greater => ">"
  | greaterEqual => ">="
  | member => "IN"
  | like => "LIKE"
  | regex => "MATCHES"

def isEquality : Comparator → Bool
  | equal | notEqual => true
  | _ => false

def isOrdering : Comparator → Bool
  | less | lessEqual | greater | greaterEqual => true
  | _ => false

def isPattern : Comparator → Bool
  | like | regex => true
  | _ => false

/-- Whether an ordering comparator accepts a left side that stands so to the right side. -/
def admits : Comparator → Ordering → Bool
  | less, o => o == .lt
  | lessEqual, o => o != .gt
  | greater, o => o == .gt
  | greaterEqual, o => o != .lt
  | _, _ => false

end Comparator

inductive Connective where
  | and
  | or
  deriving DecidableEq

namespace Connective

def all : List Connective := [and, or]

def symbol : Connective → String
  | and => "AND"
  | or => "OR"

def apply : Connective → Bool → Bool → Bool
  | and, a, b => a && b
  | or, a, b => a || b

/-- The left side that settles the result without the right one. -/
def decisive : Connective → Bool
  | and => false
  | or => true

end Connective
end RecordFilter
