import RecordFilter.Double.Shortest
import RecordFilter.Json.Basic

namespace RecordFilter.Json

def layout : Double.Layout where
  tie := .even
  leastPlain := -5
  pastPlain := 16
  plus := true

/-- Only finite floats have a text; others are written as null. -/
def floatChars : Double → List Char
  | .finite s r => (if s then ['-'] else []) ++ layout.magnitude r
  | _ => "null".toList

def hexChar (n : Nat) : Char :=
  if n < 10 then Numeral.digitChar n else Char.ofNat ('a'.toNat + (n - 10))

def escapeChar (c : Char) : List Char :=
  match c with
  | '"' => ['\\', '"']
  | '\\' => ['\\', '\\']
  | '\n' => ['\\', 'n']
  | '\r' => ['\\', 'r']
  | '\t' => ['\\', 't']
  | '\x08' => ['\\', 'b']
  | '\x0c' => ['\\', 'f']
  | c =>
    if c.toNat < 0x20 then ['\\', 'u', '0', '0', hexChar (c.toNat / 16), hexChar (c.toNat % 16)]
    else [c]

def quote (s : String) : List Char := '"' :: s.toList.flatMap escapeChar ++ ['"']

/-- What stands between the parts of a document at a depth of nesting. -/
structure Spacing where
  /-- Before each item, and before a closing bracket at the depth outside. -/
  line : Nat → List Char
  colon : List Char

def compact : Spacing := ⟨fun _ => [], [':']⟩

def indented : Spacing := ⟨fun depth => '\n' :: List.replicate (2 * depth) ' ', [':', ' ']⟩

mutual

def chars (sp : Spacing) (depth : Nat) : Json → List Char
  | null => "null".toList
  | boolean b => (if b then "true" else "false").toList
  | integer n => Numeral.ofInt n.toInt
  | large n _ => Numeral.ofNat n.toNat
  | float x _ => floatChars x
  | string s => quote s
  | array [] => ['[', ']']
  | array (j :: js) =>
    '[' :: sp.line (depth + 1) ++ j.chars sp (depth + 1) ++ itemChars sp (depth + 1) js ++
      sp.line depth ++ [']']
  | object [] => ['\x7b', '\x7d']
  | object ((k, j) :: fs) =>
    '\x7b' :: sp.line (depth + 1) ++ quote k ++ sp.colon ++ j.chars sp (depth + 1) ++
      fieldChars sp (depth + 1) fs ++ sp.line depth ++ ['\x7d']

def itemChars (sp : Spacing) (depth : Nat) : List Json → List Char
  | [] => []
  | j :: js => ',' :: sp.line depth ++ j.chars sp depth ++ itemChars sp depth js

def fieldChars (sp : Spacing) (depth : Nat) : List (String × Json) → List Char
  | [] => []
  | (k, j) :: fs =>
    ',' :: sp.line depth ++ quote k ++ sp.colon ++ j.chars sp depth ++ fieldChars sp depth fs

end

def text (j : Json) : String := String.ofList (j.chars compact 0)

def indentedText (j : Json) : String := String.ofList (j.chars indented 0)

end RecordFilter.Json
