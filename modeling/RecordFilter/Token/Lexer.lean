import RecordFilter.Double.Decimal
import RecordFilter.Token.Basic
import RecordFilter.Unicode.Blank

namespace RecordFilter

/-- What stands at the front of a text: a token that takes `more` characters after its first, or
an error and the number of characters passed before it was found. -/
inductive Scan where
  | token (t : Token) (more : Nat)
  | error (e : LexError) (passed : Nat)
  deriving DecidableEq

namespace Scan

def isNameStart (c : Char) : Bool := c.isAlpha || c = '_'

def isNamePart (c : Char) : Bool := c.isAlphanum || c = '_'

def unescape : Char → Option Char
  | 'n' => some '\n'
  | 't' => some '\t'
  | 'r' => some '\r'
  | '"' => some '"'
  | '\'' => some '\''
  | '\\' => some '\\'
  | _ => none

/-- Reads a string up to its closing quote, after `passed` characters that gave `content` in
reverse. A bad escape is placed at its backslash and passed up to the character that is refused. -/
def string (start : Nat) (quote : Char) (passed : Nat) (content : List Char) : List Char → Scan
  | [] => .error (.unterminatedString start) passed
  | '\\' :: rest => match rest with
    | [] => .error (.unterminatedString start) (passed + 1)
    | c :: rest => match unescape c with
      | some e => string start quote (passed + 2) (e :: content) rest
      | none => .error (.invalidEscape c (start + passed)) (passed + 1)
  | c :: rest =>
    if c = quote then .token (.string (String.ofList content.reverse)) passed
    else string start quote (passed + 1) (c :: content) rest

def fraction : List Char → Option (List Char) × List Char
  | '.' :: r => (some (r.takeWhile Numeral.isDigit), r.dropWhile Numeral.isDigit)
  | r => (none, r)

/-- The marker and sign of an exponent, then its digits. A marker counts only if a digit or a sign
follows it; otherwise it would start a name. -/
def exponent : List Char → Option (List Char × List Char) × List Char
  | [] => (none, [])
  | e :: r =>
    if e = 'e' ∨ e = 'E' then
      match r with
      | [] => (none, [e])
      | c :: s =>
        if c = '+' ∨ c = '-' then
          (some ([e, c], s.takeWhile Numeral.isDigit), s.dropWhile Numeral.isDigit)
        else if Numeral.isDigit c then
          (some ([e], r.takeWhile Numeral.isDigit), r.dropWhile Numeral.isDigit)
        else (none, e :: r)
    else (none, e :: r)

/-- A whole number, kept at its narrowest width. -/
def integer (start : Nat) (negative : Bool) (digits text : List Char) : Scan :=
  let n := Double.signed negative (Numeral.value digits)
  if -0x8000000000000000 ≤ n ∧ n < 0x8000000000000000 then
    .token (.number (.ofInt64 (Int64.ofInt n))) (text.length - 1)
  else .error (.numberOutOfRange (String.ofList text) start) text.length

/-- A number with a fraction or an exponent, which must not round to an infinity. -/
def double (start : Nat) (negative : Bool) (whole fraction mark digits text : List Char) : Scan :=
  let power := Double.signed (mark.contains '-') (Numeral.value digits)
  let x := Double.ofDecimal negative (Numeral.value (whole ++ fraction)) (power - fraction.length)
  if x.isFinite then .token (.number (.double x)) (text.length - 1)
  else .error (.numberOutOfRange (String.ofList text) start) text.length

/-- Reads a number; `text` starts with a digit, or with a minus before a digit. -/
def number (start : Nat) (text : List Char) : Scan :=
  let negative := text.head? = some '-'
  let sign := if negative then ['-'] else []
  let body := text.drop sign.length
  let whole := body.takeWhile Numeral.isDigit
  let (fraction, rest) := fraction (body.dropWhile Numeral.isDigit)
  let read := sign ++ whole ++ (fraction.map ('.' :: ·)).getD []
  if fraction = some [] then .error (.malformedNumber (String.ofList read) start) read.length
  else
    let (exponent, rest) := exponent rest
    let (mark, digits) := exponent.getD ([], [])
    let read := read ++ mark ++ digits
    if exponent.isSome ∧ digits = [] then
      .error (.malformedNumber (String.ofList read) start) read.length
    else if rest.head?.any isNameStart then .error (.digitLedName start) read.length
    else if fraction.isSome ∨ exponent.isSome then
      double start negative whole (fraction.getD []) mark digits read
    else integer start negative whole read

/-- Literals are lowercase, operators are words in any case, and any other word is a key. -/
def word (start : Nat) (name : List Char) : Scan :=
  let text := String.ofList name
  let more := name.length - 1
  match text with
  | "true" => .token (.boolean true) more
  | "false" => .token (.boolean false) more
  | "null" => .token .null more
  | _ => match String.ofList (name.map Char.toUpper) with
    | "TRUE" | "FALSE" | "NULL" => .error (.literalCase text start) name.length
    | "AND" => .token (.connective .and) more
    | "OR" => .token (.connective .or) more
    | "NOT" => .token .not more
    | "IN" => .token (.comparator .member) more
    | "LIKE" => .token (.comparator .like) more
    | "MATCHES" => .token (.comparator .regex) more
    | _ => .token (.key text) more

def read (start : Nat) (c : Char) (rest : List Char) : Scan :=
  match c, rest.head? with
  | '(', _ => .token .leftParen 0
  | ')', _ => .token .rightParen 0
  | ',', _ => .token .comma 0
  | '?', _ => .token .placeholder 0
  | '=', some '=' => .token (.comparator .equal) 1
  | '=', some '~' => .token (.comparator .regex) 1
  | '=', _ => .token (.comparator .equal) 0
  | '!', some '=' => .token (.comparator .notEqual) 1
  | '!', _ => .token .not 0
  | '<', some '=' => .token (.comparator .lessEqual) 1
  | '<', some '>' => .token (.comparator .notEqual) 1
  | '<', _ => .token (.comparator .less) 0
  | '>', some '=' => .token (.comparator .greaterEqual) 1
  | '>', _ => .token (.comparator .greater) 0
  | '&', some '&' => .token (.connective .and) 1
  | '|', some '|' => .token (.connective .or) 1
  | '"', _ => string start '"' 1 [] rest
  | '\'', _ => string start '\'' 1 [] rest
  | c, next =>
    if Numeral.isDigit c ∨ (c = '-' ∧ next.any Numeral.isDigit) then number start (c :: rest)
    else if isNameStart c then word start (c :: rest.takeWhile isNamePart)
    else .error (.unexpectedChar c start) 0

end Scan

structure Reader where
  rest : List Char
  offset : Nat

inductive Reading where
  | lexeme (l : Lexeme)
  | finish (offset : Nat)
  | error (e : LexError)

namespace Reader

def ofText (text : String) : Reader := ⟨text.toList, 0⟩

def advance (r : Reader) (n : Nat) : Reader := ⟨r.rest.drop n, r.offset + n⟩

def skipBlanks (r : Reader) : Reader := r.advance (r.rest.takeWhile Unicode.isBlank).length

/-- The next token, and the reader after it. After an error reading goes on where it stopped. -/
def next (r : Reader) : Reading × Reader :=
  let r := r.skipBlanks
  match r.rest with
  | [] => (.finish r.offset, r)
  | c :: rest => match Scan.read r.offset c rest with
    | .token t more => (.lexeme ⟨t, r.offset, r.offset + (more + 1)⟩, r.advance (more + 1))
    | .error e passed => (.error e, r.advance passed)

theorem next_lexeme_rest_length (r : Reader) (l : Lexeme) (r' : Reader)
    (h : r.next = (.lexeme l, r')) : r'.rest.length < r.rest.length := by
  have blanks : r.skipBlanks.rest.length ≤ r.rest.length := by
    simp [skipBlanks, advance]
  unfold next at h
  dsimp only at h
  split at h
  · simp at h
  · next c rest hrest =>
    split at h
    · simp only [Prod.mk.injEq] at h
      rw [hrest] at blanks
      rw [← h.2]
      simp only [advance, hrest, List.length_drop, List.length_cons] at blanks ⊢
      omega
    · simp at h

/-- All tokens from here on, and the end of the text or the error that comes first. -/
def lexemes (r : Reader) : List Lexeme × Except LexError Nat :=
  match h : r.next with
  | (.lexeme l, r') =>
    have := next_lexeme_rest_length r l r' h
    let (ls, ending) := r'.lexemes
    (l :: ls, ending)
  | (.finish n, _) => ([], .ok n)
  | (.error e, _) => ([], .error e)
termination_by r.rest.length

end Reader

def tokenize (text : String) : Except LexError (List Lexeme × Nat) :=
  match (Reader.ofText text).lexemes with
  | (ls, .ok n) => .ok (ls, n)
  | (_, .error e) => .error e

end RecordFilter
