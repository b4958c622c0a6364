import RecordFilter.Binding
import RecordFilter.Json.Reader
import RecordFilter.Parse.Basic
import RecordFilter.Query.Aggregate

namespace RecordFilter

structure Check where
  expression : String
  input : Option String
  params : List String
  /-- Only the text of the filter is asked for. -/
  textOnly : Bool
  countOnly : Bool

inductive CheckError where
  | parse (text : String) (e : ParseError)
  | bind (e : BindError)
  | evaluate (e : CursorError)
  | invalidJson
  | noInput
  | unsupportedInput (kind : ValueKind)
  deriving DecidableEq

def CheckError.message : CheckError → String
  | parse text e => "Parse error: " ++ e.summary text
  | bind e => "Binding error: " ++ e.message
  | evaluate e => "Evaluation error: " ++ e.message
  | invalidJson => "Invalid JSON: the text is no JSON document"
  | noInput => "No input provided. Use --input or pipe JSON to stdin."
  | unsupportedInput kind => s!"Expected a JSON object or an array of objects, got {kind.name}"

inductive CheckResult where
  /-- The filter, or the bare value that was given for one, as it is written back. -/
  | text (expression : String)
  | fit (b : Bool)
  | found (records : List Json)
  | count (n : Nat)

namespace Check

def document (text : String) : Except CheckError Json :=
  match Json.parse? text with
  | some j => .ok j
  | none => .error .invalidJson

def bound (check : Check) : Except CheckError Expression := do
  let e ← (Expression.parse check.expression).mapError (.parse check.expression)
  let params ← check.params.mapM fun text => (document text).map Json.toValue
  if params.isEmpty ∧ e.placeholders = 0 then return e
  else (e.bind params).mapError .bind

/-- Puts a condition to a document. The records of an array are tested in order. -/
def apply (countOnly : Bool) (c : Condition) : Json → Except CheckError CheckResult
  | .array records =>
    let q := (Query.ofSource (.items none records)).filterBy Json.record c
    if countOnly then ((q.count .empty).1.map .count).mapError .evaluate
    else ((q.toList .empty).1.map .found).mapError .evaluate
  | .object fields =>
    ((c.fit (Json.object fields).record).map .fit).mapError (.evaluate <| .test ·)
  | other => .error (.unsupportedInput other.kind)

/-- A bare value is written back without a look at the input. -/
def run (check : Check) : Except CheckError CheckResult := do
  match ← check.bound with
  | .operand x => return .text x.text
  | .condition c =>
    if check.textOnly then return .text c.text
    else match check.input with
      | none => throw .noInput
      | some text => apply check.countOnly c (← document text)

end Check
end RecordFilter
