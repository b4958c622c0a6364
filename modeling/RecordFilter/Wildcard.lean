import RecordFilter.Regex.Basic

namespace RecordFilter.Wildcard

def isMeta (c : Char) : Bool :=
  ['\\', '.', '+', '*', '?', '(', ')', '|', '[', ']', '\x7b', '\x7d', '^', '$', '#', '&', '-',
    '~'].contains c

def escaped (cs : List Char) : List Char := cs.flatMap fun c => if isMeta c then ['\\', c] else [c]

/-- The text for the rest of a pattern, behind a run of characters that stand for themselves. -/
def spell (literal : List Char) : List Char → List Char
  | [] => escaped literal ++ ['$']
  | '%' :: cs => escaped literal ++ '.' :: '*' :: spell [] cs
  | '_' :: cs => escaped literal ++ '.' :: spell [] cs
  | c :: cs => spell (literal ++ [c]) cs

def source (pattern : String) : String :=
  String.ofList ('(' :: '?' :: 's' :: ')' :: '^' :: spell [] pattern.toList)

def charRegex : Char → Regex
  | '%' => .times (.set .all) 0 none false
  | '_' => .set .all
  | c => .literal [c]

def tail : List Char → Regex
  | [] => .anchor .textStop
  | c :: cs => .seq (charRegex c) (tail cs)

/-- An expression that matches where the pattern takes the whole text: `%` any run of characters,
`_` any one, and every other character itself. -/
def regex (pattern : String) : Regex := .seq (.anchor .textStart) (tail pattern.toList)

end RecordFilter.Wildcard
