namespace RecordFilter.CommandLine

inductive Switch where
  | verbose
  | help
  | version
  | input
  | param
  | pretty
  | textOnly
  | count
  deriving DecidableEq

namespace Switch

def all : List Switch := [verbose, help, version, input, param, pretty, textOnly, count]

def word : Switch → String
  | verbose => "verbose"
  | help => "help"
  | version => "version"
  | input => "input"
  | param => "param"
  | pretty => "pretty"
  | textOnly => "syntax-only"
  | count => "count"

def letter? : Switch → Option Char
  | verbose => some 'v'
  | help => some 'h'
  | version => some 'V'
  | input => some 'i'
  | param => some 'p'
  | count => some 'c'
  | pretty | textOnly => none

def takesValue : Switch → Bool
  | input | param => true
  | _ => false

def repeats : Switch → Bool
  | verbose | param => true
  | _ => false

end Switch

/-- How an argument with dashes ends: with nothing more, with a switch that takes a value, which may
be attached, or with something that is no switch here. -/
inductive Ending where
  | plain
  | value (s : Switch) (attached : Option String)
  | unknown

inductive Argument where
  | free (text : String)
  /-- Two dashes alone: all that follows is free. -/
  | separator
  | switches (flags : List Switch) (ending : Ending)

namespace Argument

/-- Switches by their letters. What follows the letter of one that takes a value is that value,
with or without an equals sign before it. -/
def ofLetters (accepted : List Switch) : List Char → List Switch × Ending
  | [] => ([], .plain)
  | c :: cs => match accepted.find? fun s => s.letter? == some c with
    | none => ([], .unknown)
    | some s =>
      if s.takesValue then
        let attached := match cs with
          | [] => none
          | '=' :: text => some (String.ofList text)
          | text => some (String.ofList text)
        ([], .value s attached)
      else
        let (flags, ending) := ofLetters accepted cs
        (s :: flags, ending)

def ofWord (accepted : List Switch) (cs : List Char) : List Switch × Ending :=
  let word := String.ofList (cs.takeWhile (· ≠ '='))
  let attached := match cs.dropWhile (· ≠ '=') with
    | _ :: text => some (String.ofList text)
    | [] => none
  match accepted.find? fun s => s.word == word with
  | none => ([], .unknown)
  | some s =>
    if s.takesValue then ([], .value s attached)
    else if attached.isSome then ([], .unknown)
    else ([s], .plain)

/-- A dash alone is free. -/
def read (accepted : List Switch) (text : String) : Argument :=
  match text.toList with
  | ['-', '-'] => .separator
  | '-' :: '-' :: cs =>
    let (flags, ending) := ofWord accepted cs
    .switches flags ending
  | '-' :: c :: cs =>
    let (flags, ending) := ofLetters accepted (c :: cs)
    .switches flags ending
  | _ => .free text

end Argument

inductive Stop where
  | usage
  | help
  | version
  deriving DecidableEq

/-- What the arguments have given so far. -/
structure Given where
  free : List String
  flags : List Switch
  values : List (Switch × String)

namespace Given

def none : Given := ⟨[], [], []⟩

def has (g : Given) (s : Switch) : Bool := g.flags.contains s

def valuesOf (g : Given) (s : Switch) : List String :=
  (g.values.filter (·.1 = s)).map (·.2)

def addFlag (g : Given) (s : Switch) : Except Stop Given :=
  match s with
  | .help => .error .help
  | .version => .error .version
  | s => if g.has s ∧ !s.repeats then .error .usage else .ok { g with flags := g.flags ++ [s] }

def addValue (g : Given) (s : Switch) (text : String) : Except Stop Given :=
  if !(g.valuesOf s).isEmpty ∧ !s.repeats then .error .usage
  else .ok { g with values := g.values ++ [(s, text)] }

def addFree (limit : Nat) (g : Given) (text : String) : Except Stop Given :=
  if g.free.length < limit then .ok { g with free := g.free ++ [text] } else .error .usage

/-- Reads arguments from the left; the first that is out of place ends the reading. -/
def read (accepted : List Switch) (limit : Nat) (g : Given) :
    List String → Except Stop Given
  | [] => .ok g
  | text :: rest => match Argument.read accepted text with
    | .free text => do (← g.addFree limit text).read accepted limit rest
    | .separator => rest.foldlM (addFree limit) g
    | .switches flags ending => do
      let g ← flags.foldlM addFlag g
      match ending with
      | .plain => g.read accepted limit rest
      | .unknown => throw .usage
      | .value s (some text) => (← g.addValue s text).read accepted limit rest
      | .value s Option.none => match rest with
        | [] => throw .usage
        | text :: rest => match Argument.read accepted text with
          | .free text => (← g.addValue s text).read accepted limit rest
          | _ => throw .usage

end Given
end RecordFilter.CommandLine
