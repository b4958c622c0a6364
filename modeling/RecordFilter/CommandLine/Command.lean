import RecordFilter.Check
import RecordFilter.CommandLine.Arguments
import RecordFilter.Guide
import RecordFilter.Json.Printer

namespace RecordFilter.CommandLine

inductive Command where
  | check (check : Check) (pretty : Bool)
  | overview
  | topic (name : String)

namespace Command

def forCheck (args : List String) : Except Stop Command := do
  let g ← Given.none.read [.verbose, .help, .input, .param, .pretty, .textOnly, .count] 1 args
  match g.free with
  | [expression] => return .check {
      expression
      input := (g.valuesOf .input).head?
      params := g.valuesOf .param
      textOnly := g.has .textOnly
      countOnly := g.has .count } (g.has .pretty)
  | _ => throw .usage

def forOverview (args : List String) : Except Stop Command := do
  let _ ← Given.none.read [.verbose, .help] 0 args
  return .overview

def forTopic (args : List String) : Except Stop Command := do
  let g ← Given.none.read [.verbose, .help] 1 args
  match g.free with
  | [name] => return .topic name
  | _ => throw .usage

def forHelp : List String → Except Stop Command
  | [] => .error .help
  | [name] => if ["check", "docs", "doc", "help"].contains name then .error .help else .error .usage
  | _ => .error .usage

/-- The command is the first free argument; before it only general switches have a place. -/
def read : List String → Except Stop Command
  | [] => .error .usage
  | text :: rest => match Argument.read [.verbose, .help, .version] text with
    | .free "check" => forCheck rest
    | .free "docs" => forOverview rest
    | .free "doc" => forTopic rest
    | .free "help" => forHelp rest
    | .switches flags .plain => do
      let _ ← flags.foldlM Given.addFlag Given.none
      read rest
    | .switches flags _ => do
      let _ ← flags.foldlM Given.addFlag Given.none
      throw .usage
    | _ => .error .usage

end Command

/-- What a run writes to its two outputs, and its exit code. -/
structure Reply where
  code : Nat
  output : String
  diagnostics : String

namespace Reply

def success (text : String) : Reply := ⟨0, text, ""⟩

def failure (message : String) : Reply := ⟨1, "", message ++ "\n"⟩

def usage : String :=
  "Test SQL-style filter expressions against JSON records\n\n" ++
  "Usage: clove-filter [-v]... check [-i JSON] [-p JSON]... [--pretty] [--syntax-only] [-c] " ++
    "EXPRESSION\n" ++
  "       clove-filter [-v]... docs\n" ++
  "       clove-filter [-v]... doc CATEGORY\n"

def version : String := "clove-filter 0.1.0\n"

def ofStop : Stop → Reply
  | .usage => ⟨2, "", usage⟩
  | .help => .success usage
  | .version => .success version

def ofResult (pretty : Bool) : CheckResult → Reply
  | .text expression => .success (expression ++ "\n")
  | .fit b => .success ((if b then "true" else "false") ++ "\n")
  | .count n => .success (String.ofList (Numeral.ofNat n) ++ "\n")
  | .found records =>
    let document := Json.array records
    .success ((if pretty then document.indentedText else document.text) ++ "\n")

end Reply

namespace Command

/-- Whether standard input is read: only for a check that has no other input and needs one. -/
def readsInput : Command → Bool
  | check c _ => c.input.isNone && !c.textOnly
  | _ => false

def run (standardInput : Option String) : Command → Reply
  | check c pretty => match { c with input := c.input.or standardInput }.run with
    | .ok result => .ofResult pretty result
    | .error e => .failure e.message
  | overview => .success Guide.overview
  | topic name => match Guide.Topic.ofName? name with
    | some t => .success t.text
    | none => .failure (Guide.unknownTopic name)

end Command
end RecordFilter.CommandLine
