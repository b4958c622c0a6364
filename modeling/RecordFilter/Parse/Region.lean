import RecordFilter.Parse.Error

namespace RecordFilter

/-- Limits on what is read: on brackets and negations inside each other, and on the tree. -/
structure ParseOptions where
  maxDepth : Nat := 64
  maxExpressionDepth : Nat := 256

/-- What has been folded, with the depth of its tree, and the connective that waits after it. -/
inductive Pending where
  | nothing
  | folded (c : Condition) (depth : Nat)
  | joining (c : Condition) (depth : Nat) (op : Connective) (offset : Nat)
  deriving DecidableEq

/-- The comparison in progress. -/
inductive Progress where
  | nothing
  | left (x : Operand) (offset : Nat)
  | compared (x : Operand) (op : Comparator) (offset : Nat)
  deriving DecidableEq

/-- The text between two brackets, or the whole text. What is folded and the comparison in progress
are separate slots. A value is held back until the next token shows whether it is the left side of a
comparison, its right side, or all there is. -/
structure Region where
  depth : Nat
  pending : Pending
  progress : Progress
  /-- The places of the negations that wait to be applied, the first one first. -/
  negations : List Nat
  held : Option (Operand × Nat)
  deriving DecidableEq

namespace Region

def start (depth : Nat) : Region := ⟨depth, .nothing, .nothing, [], none⟩

/-- How deep a negation or a list that comes next is nested, less one. -/
def nesting (r : Region) : Nat := r.depth + r.negations.length

/-- How deep a group that comes next is nested. It shares the level of a negation before it. -/
def groupNesting (r : Region) : Nat := r.depth + max r.negations.length 1

def expectsOperand (r : Region) : Bool :=
  r.held.isNone && match r.progress with
    | .compared .. => true
    | _ => false

def negate (c : Condition) : Nat → Condition
  | 0 => c
  | n + 1 => .negation (negate c n)

/-- Applies the waiting negations to a condition and folds it, from the left whatever the connective
is. No tree is built that is too deep. -/
def fold (options : ParseOptions) (r : Region) (c : Condition) (depth offset : Nat) :
    Except ParseError Region :=
  let limit := options.maxExpressionDepth
  let depth := depth + r.negations.length
  if limit < depth then .error ⟨offset, .expressionTooDeep limit⟩
  else
    let c := negate c r.negations.length
    match r.pending with
    | .nothing => .ok { r with pending := .folded c depth, negations := [] }
    | .folded left _ => .error ⟨offset, .connectiveExpectedBetween left c⟩
    | .joining left leftDepth op opOffset =>
      let depth := max leftDepth depth + 1
      if limit < depth then .error ⟨opOffset, .expressionTooDeep limit⟩
      else .ok { r with pending := .folded (.join left op c) depth, negations := [] }

/-- Gives a value its part: the left side of a new comparison or the right side of the one in
progress. -/
def commit (options : ParseOptions) (r : Region) (x : Operand) (offset : Nat) :
    Except ParseError Region :=
  match r.progress with
  | .nothing => match r.pending with
    | .folded .. => .error ⟨offset, .connectiveExpectedBefore x⟩
    | _ => .ok { r with progress := .left x offset }
  | .left left _ => .error ⟨offset, .comparatorExpectedBetween left x⟩
  | .compared left op _ => match Comparison.make left op x with
    | .error fault => .error ⟨offset, .illegal fault⟩
    | .ok c => { r with progress := .nothing }.fold options (.comparison c) 1 offset

def flush (options : ParseOptions) (r : Region) : Except ParseError Region :=
  match r.held with
  | none => .ok r
  | some (x, offset) => { r with held := none }.commit options x offset

def pushValue (options : ParseOptions) (r : Region) (x : Operand) (offset : Nat) :
    Except ParseError Region := do
  let r ← r.flush options
  return { r with held := some (x, offset) }

def pushComparator (options : ParseOptions) (r : Region) (op : Comparator) (offset : Nat) :
    Except ParseError Region := do
  let r ← r.flush options
  match r.progress with
  | .left x _ => match x.leftFault op with
    | some fault => throw ⟨offset, .illegal fault⟩
    | none => return { r with progress := .compared x op offset }
  | .nothing => throw ⟨offset, .noLeftOperand op⟩
  | .compared _ earlier _ => throw ⟨offset, .comparatorAfter op earlier⟩

def pushConnective (options : ParseOptions) (r : Region) (op : Connective) (offset : Nat) :
    Except ParseError Region := do
  let r ← r.flush options
  match r.progress, r.negations, r.pending with
  | .left x _, _, _ => throw ⟨offset, .incompleteBefore x op⟩
  | .compared _ op opOffset, _, _ => throw ⟨opOffset, .noRightOperand op⟩
  | .nothing, negation :: _, _ => throw ⟨negation, .negationMisplaced⟩
  | .nothing, [], .folded c depth => return { r with pending := .joining c depth op offset }
  | .nothing, [], .nothing => throw ⟨offset, .noLeftExpression op⟩
  | .nothing, [], .joining _ _ earlier _ => throw ⟨offset, .connectiveAfter op earlier⟩

/-- A value that is held back is settled only if it completes a comparison, so that `a NOT IN (1)`
negates the comparison that follows. -/
def pushNot (options : ParseOptions) (r : Region) (offset : Nat) : Except ParseError Region := do
  let r ← match r.progress, r.held with
    | .compared .., some _ => r.flush options
    | .compared _ op _, none => throw ⟨offset, .negationAfter op⟩
    | _, _ => pure r
  if options.maxDepth < r.nesting + 1 then throw ⟨offset, .negationsTooDeep options.maxDepth⟩
  else return { r with negations := r.negations ++ [offset] }

/-- Takes the condition of a group as one unit. -/
def pushCondition (options : ParseOptions) (r : Region) (c : Condition) (offset : Nat) :
    Except ParseError Region := do
  let r ← r.flush options
  match r.progress with
  | .nothing => r.fold options c c.depth offset
  | .left x _ => throw ⟨offset, .comparatorExpectedAfter x⟩
  | .compared _ op _ => throw ⟨offset, .valueExpected op⟩

def finish (options : ParseOptions) (r : Region) (stop : Nat) : Except ParseError Expression := do
  let r ← r.flush options
  match r.progress, r.pending, r.negations with
  | .compared _ op offset, _, _ => throw ⟨offset, .noRightOperand op⟩
  | .left x _, .nothing, negation :: _ => throw ⟨negation, .negationOfValue x⟩
  | .left x _, .nothing, [] => return .operand x
  | .left x offset, _, _ => throw ⟨offset, .incomplete x⟩
  | .nothing, .joining _ _ op offset, _ => throw ⟨offset, .noRightExpression op⟩
  | .nothing, _, negation :: _ => throw ⟨negation, .negationUnapplied⟩
  | .nothing, .folded c _, [] => return .condition c
  | .nothing, .nothing, [] => throw ⟨stop, .emptyExpression⟩

end Region
end RecordFilter
