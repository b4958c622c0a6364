namespace RecordFilter.Guide

inductive Topic where
  | grammar
  | operators
  | types
  | cursors
  deriving DecidableEq

def Topic.ofName? (name : String) : Option Topic :=
  match name.toLower with
  | "syntax" => some .grammar
  | "operators" | "ops" => some .operators
  | "types" | "type" => some .types
  | "cursors" | "cursor" | "linq" => some .cursors
  | _ => none

def unknownTopic (name : String) : String :=
  s!"Unknown category: '{name}'\nRun 'clove-filter docs' to see available categories."

def overview : String := "CLOVE-FILTER DOCUMENTATION

clove-filter tests SQL-style WHERE expressions against key/value records.
An expression compares record fields with literals and joins comparisons
with AND, OR and NOT.

DOCUMENTATION CATEGORIES

  syntax            Literals, keys, placeholders, lists and grouping
  operators         Comparison and logical operators, and where they apply
  types             Value types, numeric widths and missing fields
  cursors           Lazy cursors and the from/where/select pipeline

QUICK REFERENCE

  age < 18                          Compare a field with a literal
  name LIKE 'L%'                    Wildcard match
  tag IN ('a', 'b')                 List membership
  (a = 1 OR b = 2) AND NOT c = 3    Grouping and negation
  age >= ?                          Placeholder, bound with --param

Run 'clove-filter doc <category>' for detailed documentation.
"

namespace Topic

def grammarText : String := "SYNTAX - Expressions and Literals

KEYS
  name, _id, address2
    Bare identifiers name record fields. They start with a letter or an
    underscore, followed by letters, digits or underscores.

    Constraints:
      - Keys are case-sensitive
      - A key may only appear on the left of a comparison

LITERALS
  null                Null (lowercase only)
  true, false         Booleans (lowercase only; TRUE is an error)
  42, -7              Integers, stored in 32 bits when they fit, else 64
  1.5, 2e10, -0.25    Doubles
  'text', \"text\"      Strings; escapes \\n \\t \\r \\\\ \\' \\\" are recognized,
                      so a regex backslash is written \\\\
  (1, 2, 3)           Lists, only on the right of IN

PLACEHOLDERS
  ?
    Stands for a value supplied later. Placeholders are numbered in the
    order they appear and must all be bound before evaluation.

    Example:
      clove-filter check \"age >= ? AND city = ?\" -p 18 -p '\"Oslo\"'

GROUPING
  ( expression )
    Parenthesized expressions are evaluated as a unit.

    Example:
      (age < 18 OR age > 65) AND member = true

    Constraints:
      - Brackets must balance; errors point at the unmatched bracket
      - Nesting deeper than 64 levels is rejected; every bracket and
        every stacked NOT counts as a level
      - Chains longer than 256 comparisons are rejected; use IN for
        long lists of alternatives

ERRORS
  Every parse error reports the character offset where it was detected:

    Parse error: IN requires a list operand, got int32 at offset 7 in 'tag IN 5'
"

def operatorsText : String := "OPERATORS - Comparison and Logical

COMPARISON OPERATORS
  =  ==       Equal
  != <>       Not equal
  <  <=       Less than, less than or equal
  >  >=       Greater than, greater than or equal
  IN          Membership in a list
  LIKE        Wildcard match: % any run, _ any single character
  MATCHES =~  Regular expression search

  Examples:
    age >= 18
    status = 'active'
    tag IN ('new', 'hot')
    name LIKE 'Li%'
    email MATCHES '@example\\\\.(com|org)$'

  Constraints:
    - Ordering needs a number or string on the right
    - LIKE and MATCHES need a string on the right
    - IN needs a list on the right
    - Keys and placeholders are never legal as a right operand of the
      wrong kind; these mistakes are parse errors, not runtime errors

LOGICAL OPERATORS
  AND &&      Both sides hold
  OR  ||      Either side holds
  NOT !       Negates the comparison or group that follows

  Keywords are case-insensitive. AND and OR have equal precedence and
  fold left to right; use brackets to group.

    a = 1 OR b = 2 AND c = 3      means  (a = 1 OR b = 2) AND c = 3

  Negation may also sit between a key and its operator:

    name NOT LIKE 'Hu%'
    tag NOT IN (1, 2)

SHORT-CIRCUIT
  AND stops at the first false side and OR at the first true one. The
  right side is not evaluated at all in that case.
"

def typesText : String := "TYPES - Values and Comparison Rules

RECORD VALUES
  null, boolean, integer, float, string, array, object

NUMBERS
  Integers of any width compare as 64-bit integers. When either side is
  a float both sides compare as floats.

    n = 2.0     matches \x7b\"n\": 2\x7d
    n < 5       matches \x7b\"n\": -4000000000\x7d

MISSING FIELDS
  A field that is absent from the record is not an error:

    x = null        true when x is absent or null
    x != 1          false when x is absent
    x < 1           false when x is absent or null
    x IN (null, 1)  true when x is absent

TYPE MISMATCHES
  Equality between different types is simply false:

    age = 'ten'     false for \x7b\"age\": 3\x7d

  Ordering or pattern matching across types is an evaluation error:

    age < 'ten'     error for \x7b\"age\": 3\x7d
    age LIKE '1%'   error for \x7b\"age\": 10\x7d
"

def cursorsText : String := "CURSORS - Lazy Traversal

CURSOR
  A cursor yields elements one at a time through has_next/next and is
  closed exactly once when the traversal ends, however it ends.

    EmptyCursor         No elements
    PredicateCursor     Elements passing a test
    ConvertCursor       Elements mapped when pulled
    MultiCursor         Several cursors one after another; close closes all
    SuperCursor         Elements widened to a supertype
    IterCursor          Any iterator, with an optional close hook
    SharedVecCursor     A shared vector that may grow between traversals

CURSORABLE
  Anything that can open a fresh cursor on demand. Vectors, shared
  vectors and pipelines are cursorable.

PIPELINES
  Linq::from(records)
      .where_expr(Parser::parse_logical_str(\"age < 18\")?)
      .where_(|r| ...)
      .select(|r| ...)

  Building a pipeline runs nothing. Each aggregate opens one cursor,
  reads what it needs and closes it before returning:

    count, sum, min, max, any, all, first, to_vec

  Predicates run in the order they were added. The selector runs last.
"

def text : Topic → String
  | grammar => grammarText
  | operators => operatorsText
  | types => typesText
  | cursors => cursorsText

end Topic
end RecordFilter.Guide
