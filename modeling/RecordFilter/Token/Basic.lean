import RecordFilter.Operand.Basic
import RecordFilter.Operator

namespace RecordFilter

inductive Token where
  | null
  | boolean (b : Bool)
  | number (n : Number)
  | string (s : String)
  | key (name : String)
  | placeholder
  | comparator (op : Comparator)
  | connective (op : Connective)
  | not
  | leftParen
  | rightParen
  | comma
  deriving DecidableEq

def Token.operand? : Token → Option Operand
  | null => some .null
  | boolean b => some (.boolean b)
  | number n => some (.number n)
  | string s => some (.string s)
  | key name => some (.key name)
  | placeholder => some .placeholder
  | _ => none

/-- A token with the places where it starts and where it has ended, counted in characters. -/
structure Lexeme where
  token : Token
  start : Nat
  stop : Nat
  deriving DecidableEq

inductive LexError where
  | unexpectedChar (c : Char) (offset : Nat)
  | unterminatedString (offset : Nat)
  | invalidEscape (c : Char) (offset : Nat)
  | digitLedName (offset : Nat)
  | malformedNumber (text : String) (offset : Nat)
  | numberOutOfRange (text : String) (offset : Nat)
  | literalCase (text : String) (offset : Nat)
  deriving DecidableEq

namespace LexError

def offset : LexError → Nat
  | unexpectedChar _ n => n
  | unterminatedString n => n
  | invalidEscape _ n => n
  | digitLedName n => n
  | malformedNumber _ n => n
  | numberOutOfRange _ n => n
  | literalCase _ n => n

def message : LexError → String
  | unexpectedChar c n => s!"unexpected character '{c}' at offset {n}"
  | unterminatedString n => s!"unterminated string starting at offset {n}"
  | invalidEscape c n => s!"invalid escape sequence '\\{c}' at offset {n}"
  | digitLedName n => s!"identifier can not start with a digit at offset {n}"
  | malformedNumber text n => s!"malformed number '{text}' at offset {n}"
  | numberOutOfRange text n => s!"number '{text}' at offset {n} is out of range"
  | literalCase text n => s!"literal '{text}' at offset {n} must be written in lowercase"

end LexError
end RecordFilter
