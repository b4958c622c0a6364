import RecordFilter.Json.Number

namespace RecordFilter.Json

/-- How many arrays and objects can not stand inside each other any more. -/
def depthLimit : Nat := 128

def isSpace (c : Char) : Bool := c = ' ' || c = '\n' || c = '\t' || c = '\r'

def codeUnit? : List Char → Option (Nat × List Char)
  | a :: b :: c :: d :: rest =>
    let digits := [a, b, c, d]
    if digits.all Numeral.isHexDigit then some (Numeral.hexValue digits, rest) else none
  | _ => none

/-- The character of one code unit, or of two that are surrogates. -/
def escapedChar? (cs : List Char) : Option (Char × List Char) := do
  let (high, rest) ← codeUnit? cs
  if 0xD800 ≤ high ∧ high < 0xDC00 then
    match rest with
    | '\\' :: 'u' :: rest =>
      let (low, rest) ← codeUnit? rest
      if 0xDC00 ≤ low ∧ low < 0xE000 then
        return (Char.ofNat (0x10000 + (high - 0xD800) * 0x400 + (low - 0xDC00)), rest)
      else none
    | _ => none
  else if 0xDC00 ≤ high ∧ high < 0xE000 then none
  else return (Char.ofNat high, rest)

def simpleEscape? : Char → Option Char
  | '"' => some '"'
  | '\\' => some '\\'
  | '/' => some '/'
  | 'b' => some '\x08'
  | 'f' => some '\x0c'
  | 'n' => some '\n'
  | 'r' => some '\r'
  | 't' => some '\t'
  | _ => none

/-- Reads a string up to its closing quote; `content` is what has been read, in reverse. -/
def string? : Nat → List Char → List Char → Option (String × List Char)
  | 0, _, _ => none
  | n + 1, content, cs => match cs with
    | [] => none
    | '"' :: rest => some (String.ofList content.reverse, rest)
    | '\\' :: 'u' :: rest => match escapedChar? rest with
      | some (c, rest) => string? n (c :: content) rest
      | none => none
    | '\\' :: e :: rest => match simpleEscape? e with
      | some c => string? n (c :: content) rest
      | none => none
    | c :: rest => if c = '\\' || c.toNat < 0x20 then none else string? n (c :: content) rest

mutual

/-- Reads a value; the first number bounds the steps, the second the depth that is left. -/
def value? : Nat → Nat → List Char → Option (Json × List Char)
  | 0, _, _ => none
  | n + 1, depth, cs => match cs.dropWhile isSpace with
    | 'n' :: 'u' :: 'l' :: 'l' :: rest => some (null, rest)
    | 't' :: 'r' :: 'u' :: 'e' :: rest => some (boolean true, rest)
    | 'f' :: 'a' :: 'l' :: 's' :: 'e' :: rest => some (boolean false, rest)
    | '"' :: rest => (string? (rest.length + 1) [] rest).map fun (s, rest) => (string s, rest)
    | '[' :: rest =>
      if depth ≤ 1 then none
      else match rest.dropWhile isSpace with
        | ']' :: rest => some (array [], rest)
        | rest => items? n (depth - 1) [] rest
    | '\x7b' :: rest =>
      if depth ≤ 1 then none
      else match rest.dropWhile isSpace with
        | '\x7d' :: rest => some (object [], rest)
        | rest => fields? n (depth - 1) [] rest
    | rest => number? rest

def items? : Nat → Nat → List Json → List Char → Option (Json × List Char)
  | 0, _, _, _ => none
  | n + 1, depth, read, cs => match value? n depth cs with
    | none => none
    | some (j, rest) => match rest.dropWhile isSpace with
      | ',' :: rest => items? n depth (j :: read) rest
      | ']' :: rest => some (array (j :: read).reverse, rest)
      | _ => none

def fields? : Nat → Nat → List (String × Json) → List Char → Option (Json × List Char)
  | 0, _, _, _ => none
  | n + 1, depth, read, cs => match cs.dropWhile isSpace with
    | '"' :: rest => match string? (rest.length + 1) [] rest with
      | none => none
      | some (name, rest) => match rest.dropWhile isSpace with
        | ':' :: rest => match value? n depth rest with
          | none => none
          | some (j, rest) => match rest.dropWhile isSpace with
            | ',' :: rest => fields? n depth ((name, j) :: read) rest
            | '\x7d' :: rest => some (object (Fields.ofList ((name, j) :: read).reverse), rest)
            | _ => none
        | _ => none
    | _ => none

end

/-- The document of a text. Every two steps of reading take a character. -/
def parse? (text : String) : Option Json :=
  let cs := text.toList
  match value? (2 * cs.length + 1) depthLimit cs with
  | some (j, rest) => if rest.all isSpace then some j else none
  | none => none

end RecordFilter.Json
