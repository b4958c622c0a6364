import RecordFilter.CharSet.Basic

namespace RecordFilter.CharSet

def ofRanges (ranges : List (Char × Char)) : CharSet :=
  .ofRuns (ranges.map fun r => (r.1.toNat, r.2.toNat))

def ascii : CharSet := .ofRuns [(0, 0x7F)]

def asciiDigits : CharSet := .range '0' '9'

def asciiBlanks : CharSet := .ofRanges [('\t', '\r'), (' ', ' ')]

def asciiWord : CharSet := .ofRanges [('0', '9'), ('A', 'Z'), ('_', '_'), ('a', 'z')]

def asciiNamed? : String → Option CharSet
  | "alnum" => some (.ofRanges [('0', '9'), ('A', 'Z'), ('a', 'z')])
  | "alpha" => some (.ofRanges [('A', 'Z'), ('a', 'z')])
  | "ascii" => some ascii
  | "blank" => some (.ofRanges [('\t', '\t'), (' ', ' ')])
  | "cntrl" => some (.ofRuns [(0, 0x1F), (0x7F, 0x7F)])
  | "digit" => some asciiDigits
  | "graph" => some (.range '!' '~')
  | "lower" => some (.range 'a' 'z')
  | "print" => some (.range ' ' '~')
  | "punct" => some (.ofRanges [('!', '/'), (':', '@'), ('[', Char.ofNat 0x60), ('\x7b', '~')])
  | "space" => some asciiBlanks
  | "upper" => some (.range 'A' 'Z')
  | "word" => some asciiWord
  | "xdigit" => some (.ofRanges [('0', '9'), ('A', 'F'), ('a', 'f')])
  | _ => none

def isAscii (s : CharSet) : Bool := s.runs.all fun r => r.2 ≤ 0x7F

def allBut (cs : List Char) : CharSet := .complement (.ofCodes (cs.map Char.toNat))

end RecordFilter.CharSet
