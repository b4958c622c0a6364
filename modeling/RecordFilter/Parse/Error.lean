import RecordFilter.Condition.Basic
import RecordFilter.Token.Basic

namespace RecordFilter

inductive ParseFault where
  | lexical (e : LexError)
  | illegal (fault : Illegality)
  | emptyExpression
  | bareValue (x : Operand)
  | unclosed
  | unmatched
  | strayComma
  | listElementExpected
  | listSeparatorExpected
  | nestedTooDeep (limit : Nat)
  | negationsTooDeep (limit : Nat)
  | expressionTooDeep (limit : Nat)
  | noLeftOperand (op : Comparator)
  | noLeftExpression (op : Connective)
  | comparatorAfter (op earlier : Comparator)
  | connectiveAfter (op earlier : Connective)
  | negationAfter (op : Comparator)
  | noRightOperand (op : Comparator)
  | noRightExpression (op : Connective)
  | valueExpected (op : Comparator)
  | incomplete (left : Operand)
  | incompleteBefore (left : Operand) (op : Connective)
  | comparatorExpectedAfter (left : Operand)
  | comparatorExpectedBetween (left right : Operand)
  | connectiveExpectedBefore (x : Operand)
  | connectiveExpectedBetween (left right : Condition)
  | negationMisplaced
  | negationUnapplied
  | negationOfValue (x : Operand)
  deriving DecidableEq

def ParseFault.message : ParseFault → String
  | lexical e => e.message
  | illegal fault => fault.message
  | emptyExpression => "empty expression"
  | bareValue x => s!"expected a logical expression, got the bare value '{x.text}'"
  | unclosed => "unclosed '('"
  | unmatched => "unmatched ')'"
  | strayComma => "unexpected ',' outside of a list"
  | listElementExpected => "expected a list element"
  | listSeparatorExpected => "expected ',' or ')' in list"
  | nestedTooDeep limit => s!"brackets and negations nested deeper than {limit}"
  | negationsTooDeep limit => s!"negations nested deeper than {limit}"
  | expressionTooDeep limit => s!"expression nests deeper than {limit} levels"
  | noLeftOperand op => s!"{op.symbol} has no left operand"
  | noLeftExpression op => s!"{op.symbol} has no left expression"
  | comparatorAfter op earlier => s!"{op.symbol} can not follow {earlier.symbol}"
  | connectiveAfter op earlier => s!"{op.symbol} can not follow {earlier.symbol}"
  | negationAfter op => s!"negation can not follow {op.symbol}"
  | noRightOperand op => s!"{op.symbol} is missing its right operand"
  | noRightExpression op => s!"{op.symbol} is missing its right operand"
  | valueExpected op => s!"{op.symbol} expects a value, not a logical expression"
  | incomplete left => s!"incomplete comparison: '{left.text}' needs a compare operator"
  | incompleteBefore left op =>
    s!"incomplete comparison: '{left.text}' needs a compare operator before {op.symbol}"
  | comparatorExpectedAfter left => s!"expected a compare operator after '{left.text}'"
  | comparatorExpectedBetween left right =>
    s!"expected a compare operator between '{left.text}' and '{right.text}'"
  | connectiveExpectedBefore x => s!"expected a logical operator before '{x.text}'"
  | connectiveExpectedBetween left right =>
    s!"expected a logical operator between '{left.text}' and '{right.text}'"
  | negationMisplaced => "negation must precede a comparison or a group"
  | negationUnapplied => "negation is not applied to any comparison"
  | negationOfValue x => s!"negation needs a comparison, got the bare value '{x.text}'"

structure ParseError where
  offset : Nat
  fault : ParseFault
  deriving DecidableEq

namespace ParseError

def lexical (e : LexError) : ParseError := ⟨e.offset, .lexical e⟩

def message (e : ParseError) : String := e.fault.message

def lexError? (e : ParseError) : Option LexError :=
  match e.fault with
  | .lexical l => some l
  | _ => none

def summary (e : ParseError) (text : String) : String :=
  s!"{e.message} at offset {e.offset} in '{text}'"

/-- The error above the text, with a mark below the place it was found at. -/
def report (e : ParseError) (text : String) : String :=
  let mark := String.ofList (List.replicate e.offset ' ' ++ ['^'])
  s!"{e.message}\n{text}\n{mark}"

end ParseError
end RecordFilter
