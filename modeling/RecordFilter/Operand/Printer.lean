import RecordFilter.Operand.Basic
import RecordFilter.Double.Shortest

namespace RecordFilter

def Number.chars : Number → List Char
  | int32 n => Numeral.ofInt n.toInt
  | int64 n => Numeral.ofInt n.toInt
  | double x => x.chars

def Number.text (n : Number) : String := String.ofList n.chars

namespace Operand

def quoteChar : Char → List Char
  | '\'' => ['\\', '\'']
  | '\\' => ['\\', '\\']
  | '\n' => ['\\', 'n']
  | '\t' => ['\\', 't']
  | '\r' => ['\\', 'r']
  | c => [c]

def quote (s : List Char) : List Char := '\'' :: s.flatMap quoteChar ++ ['\'']

mutual

def chars : Operand → List Char
  | key name => name.toList
  | null => "null".toList
  | boolean b => (if b then "true" else "false").toList
  | number n => n.chars
  | string s => quote s.toList
  | list items => '(' :: charsOfItems items ++ [')']
  | placeholder => ['?']

def charsOfItems : List Operand → List Char
  | [] => []
  | [x] => x.chars
  | x :: xs => x.chars ++ ',' :: ' ' :: charsOfItems xs

end

def text (x : Operand) : String := String.ofList x.chars

end Operand
end RecordFilter
