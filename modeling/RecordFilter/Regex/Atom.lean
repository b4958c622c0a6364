import RecordFilter.Numeral
import RecordFilter.Regex.Normal
import RecordFilter.Unicode.Property

namespace RecordFilter.Regex

structure Flags where
  insensitive : Bool := false
  multiLine : Bool := false
  dotAll : Bool := false
  /-- Swaps lazy and greedy; nothing matches differently for it. -/
  ungreedy : Bool := false
  unicode : Bool := true
  /-- `\r`, `\n` and both together end a line. -/
  anyLine : Bool := false
  /-- Blanks and comments in the pattern stand for nothing. -/
  verbose : Bool := false

/-- Takes the characters that satisfy `p` up to the first that does not, and drops gaps on the way
if the pattern is `verbose`; `inside` tells whether a comment is open. -/
def gather (p : Char → Bool) (verbose inside : Bool) : List Char → List Char × List Char
  | [] => ([], [])
  | c :: cs =>
    if inside then gather p verbose (c != '\n') cs
    else if verbose && Unicode.isBlank c then gather p verbose false cs
    else if verbose && c = '#' then gather p verbose true cs
    else if p c then
      let (taken, rest) := gather p verbose false cs
      (c :: taken, rest)
    else ([], c :: cs)

def Flags.gather (flags : Flags) (p : Char → Bool) (cs : List Char) : List Char × List Char :=
  Regex.gather p flags.verbose false cs

def Flags.skip (flags : Flags) (cs : List Char) : List Char :=
  (flags.gather (fun _ => false) cs).2

inductive Atom where
  /-- A character; `byte` if it was written as two hexadecimal digits. -/
  | literal (c : Char) (byte : Bool)
  | set (s : CharSet)
  | anchor (a : Anchor)

/-- The variants up to case, within ASCII when the flags exclude Unicode. -/
def Flags.fold (flags : Flags) (s : CharSet) : CharSet :=
  if !flags.insensitive then s
  else if flags.unicode then s.folded
  else s.folded ∩ .ascii

/-- A set complemented if asked for. Without Unicode a complement would match bytes that are no
characters. -/
def Flags.complement? (flags : Flags) (negated : Bool) (s : CharSet) : Option CharSet :=
  if !negated then some s else if flags.unicode then some (.complement s) else none

def shorthand? (flags : Flags) (c : Char) : Option CharSet :=
  let pick (wide narrow : CharSet) := if flags.unicode then wide else narrow
  let set := match c.toLower with
    | 'd' => pick (Unicode.Category.set [.nd]) .asciiDigits
    | 's' => pick Unicode.whiteSpace .asciiBlanks
    | _ => pick Unicode.word .asciiWord
  flags.complement? c.isUpper set

def charOf? (n : Nat) : Option Char := if n.isValidChar then some (Char.ofNat n) else none

def hexFixed (flags : Flags) : Nat → List Char → List Char → Option (List Char × List Char)
  | 0, digits, cs => some (digits.reverse, cs)
  | n + 1, digits, cs => match flags.skip cs with
    | [] => none
    | c :: cs => if Numeral.isHexDigit c then hexFixed flags n (c :: digits) cs else none

/-- The character of `\x`, `\u` or `\U`, whose fixed form has `width` digits. -/
def hexEscape (flags : Flags) (width : Nat) (cs : List Char) : Option (Atom × List Char) :=
  match flags.skip cs with
  | [] => none
  | c :: cs => do
    if c = '\x7b' then
      let (digits, rest) := flags.gather Numeral.isHexDigit cs
      match digits, rest with
      | _ :: _, '\x7d' :: rest =>
        return (.literal (← charOf? (Numeral.hexValue digits)) false, flags.skip rest)
      | _, _ => none
    else
      let (digits, rest) ← hexFixed flags width [] (c :: cs)
      return (.literal (← charOf? (Numeral.hexValue digits)) (width = 2), flags.skip rest)

def splitAtMark (mark : List Char) : List Char → Option (List Char × List Char)
  | [] => none
  | c :: cs =>
    if mark.isPrefixOf (c :: cs) then some ([], (c :: cs).drop mark.length)
    else (splitAtMark mark cs).map fun (a, b) => (c :: a, b)

/-- The set that the text in the braces of `\p` names, and whether it is to be complemented. -/
def propertySet? (text : List Char) : Option (CharSet × Bool) :=
  let plain := Unicode.Property.plainName
  let valued (parts : List Char × List Char) :=
    Unicode.Property.valued? (plain parts.1) (plain parts.2)
  match splitAtMark ['!', '='] text, splitAtMark [':'] text, splitAtMark ['='] text with
  | some parts, _, _ => (valued parts).map (·, true)
  | none, some parts, _ => (valued parts).map (·, false)
  | none, none, some parts => (valued parts).map (·, false)
  | none, none, none => (Unicode.Property.named? (plain text)).map (·, false)

def propertyText (flags : Flags) (cs : List Char) : Option (List Char × List Char) :=
  match flags.skip cs with
  | [] | '\\' :: _ => none
  | '\x7b' :: cs =>
    let (text, rest) := flags.gather (· != '\x7d') cs
    if rest = [] then none else some (text, rest.tail)
  | c :: cs => some ([c], flags.skip cs)

def propertyEscape (flags : Flags) (negated : Bool) (cs : List Char) :
    Option (Atom × List Char) := do
  let (text, rest) ← propertyText flags cs
  let (members, opposite) ← propertySet? text
  if flags.unicode then
    return (.set (← flags.complement? (negated != opposite) (flags.fold members)), rest)
  else none

def isBoundaryNamePart (c : Char) : Bool := c.isAlpha || c = '-'

def boundaryEscape (flags : Flags) (cs : List Char) : Option (Atom × List Char) :=
  let edge (e : WordEdge) := Atom.anchor (.word e !flags.unicode)
  match cs with
  | '\x7b' :: body =>
    match flags.gather isBoundaryNamePart body with
    | (_, []) => none
    | ([], _) => some (edge .either, cs)
    | (name, c :: rest) =>
      if c != '\x7d' then none
      else match String.ofList name with
        | "start" => some (edge .start, rest)
        | "end" => some (edge .stop, rest)
        | "start-half" => some (edge .startHalf, rest)
        | "end-half" => some (edge .stopHalf, rest)
        | _ => none
  | _ => some (edge .either, cs)

/-- ASCII characters other than letters, digits and angle brackets stand for themselves. -/
def isPunctuation (c : Char) : Bool := c.toNat < 0x80 && !c.isAlphanum && c != '<' && c != '>'

/-- Reads what follows a backslash; `none` is an invalid pattern. A digit would refer back to a
group, which is not supported. -/
def escape (flags : Flags) : List Char → Option (Atom × List Char)
  | [] => none
  | c :: cs =>
    let char (n : Nat) := some (Atom.literal (Char.ofNat n) false, cs)
    let edge (e : WordEdge) := some (Atom.anchor (.word e !flags.unicode), cs)
    match c with
    | 'x' => hexEscape flags 2 cs
    | 'u' => hexEscape flags 4 cs
    | 'U' => hexEscape flags 8 cs
    | 'p' => propertyEscape flags false cs
    | 'P' => propertyEscape flags true cs
    | 'd' | 's' | 'w' | 'D' | 'S' | 'W' => (shorthand? flags c).map fun set => (.set set, cs)
    | 'a' => char 0x07
    | 'f' => char 0x0C
    | 't' => char 0x09
    | 'n' => char 0x0A
    | 'r' => char 0x0D
    | 'v' => char 0x0B
    | 'A' => some (.anchor .textStart, cs)
    | 'z' => some (.anchor .textStop, cs)
    | 'b' => boundaryEscape flags cs
    | 'B' => edge .neither
    | '<' => edge .start
    | '>' => edge .stop
    | c => if isPunctuation c then some (.literal c false, cs) else none

/-- A literal as a set; without Unicode it must be ASCII. -/
def literalInSet? (flags : Flags) (c : Char) : Option Char :=
  if flags.unicode || c.toNat < 0x80 then some c else none

/-- A literal by itself. Only as a byte is a character refused without Unicode. -/
def literal? (flags : Flags) (c : Char) (byte : Bool) : Option Regex :=
  if flags.unicode || c.toNat < 0x80 then some (ofSet (flags.fold (.single c)))
  else if byte then none
  else some (.literal [c])

def Atom.regex? (flags : Flags) : Atom → Option Regex
  | literal c byte => literal? flags c byte
  | set s => some (ofSet s)
  | anchor a => some (.anchor a)

/-- Any character but the ends of lines, or any at all; without Unicode it would match bytes. -/
def dot? (flags : Flags) : Option Regex :=
  if !flags.unicode then none
  else if flags.dotAll then some (.set .all)
  else if flags.anyLine then some (.set (.allBut ['\r', '\n']))
  else some (.set (.allBut ['\n']))

def lineStart (flags : Flags) : Anchor :=
  if !flags.multiLine then .textStart else if flags.anyLine then .anyLineStart else .lineStart

def lineStop (flags : Flags) : Anchor :=
  if !flags.multiLine then .textStop else if flags.anyLine then .anyLineStop else .lineStop

end RecordFilter.Regex
