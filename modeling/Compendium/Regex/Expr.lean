/-!
# Regular expressions as written

`Expr` is a regular expression as it is written: flags stand where they were set, classes hold
their items, and nothing has been looked up.  `Fault` lists what can be wrong with one, from a
parenthesis too many to a set of characters that nobody knows.
-/

namespace Compendium.Regex

/-- What can be wrong with a regular expression. -/
inductive Fault where
  | classEscapeInvalid
  | classRangeInvalid
  | classRangeLiteral
  | classUnclosed
  | decimalInvalid
  | hexEmpty
  | hexInvalid
  | hexInvalidDigit
  | escapeUnfinished
  | escapeUnrecognized
  | flagDanglingNegation
  | flagDuplicate
  | flagRepeatedNegation
  | flagUnfinished
  | flagUnrecognized
  | groupNameDuplicate
  | groupNameEmpty
  | groupNameInvalid
  | groupNameUnfinished
  | groupUnclosed
  | groupUnopened
  | nestedTooDeep (limit : Nat)
  | countInvalid
  | countEmpty
  | countUnclosed
  | repetitionMissing
  | boundaryUnclosed
  | boundaryUnrecognized
  | boundaryUnfinished
  | propertyInvalid
  | backreference
  | lookAround
  | unicodeNotAllowed
  | invalidUtf8
  | propertyNotFound
  | propertyValueNotFound
  /-- The program that would do the matching is larger than allowed. -/
  | tooLarge (limit : Nat)
deriving DecidableEq

/-- The wording of a fault. -/
def Fault.message : Fault → String
  | .classEscapeInvalid => "invalid escape sequence found in character class"
  | .classRangeInvalid => "invalid character class range, the start must be <= the end"
  | .classRangeLiteral => "invalid range boundary, must be a literal"
  | .classUnclosed => "unclosed character class"
  | .decimalInvalid => "decimal literal invalid"
  | .hexEmpty => "hexadecimal literal empty"
  | .hexInvalid => "hexadecimal literal is not a Unicode scalar value"
  | .hexInvalidDigit => "invalid hexadecimal digit"
  | .escapeUnfinished => "incomplete escape sequence, reached end of pattern prematurely"
  | .escapeUnrecognized => "unrecognized escape sequence"
  | .flagDanglingNegation => "dangling flag negation operator"
  | .flagDuplicate => "duplicate flag"
  | .flagRepeatedNegation => "flag negation operator repeated"
  | .flagUnfinished => "expected flag but got end of regex"
  | .flagUnrecognized => "unrecognized flag"
  | .groupNameDuplicate => "duplicate capture group name"
  | .groupNameEmpty => "empty capture group name"
  | .groupNameInvalid => "invalid capture group character"
  | .groupNameUnfinished => "unclosed capture group name"
  | .groupUnclosed => "unclosed group"
  | .groupUnopened => "unopened group"
  | .nestedTooDeep limit =>
    s!"exceed the maximum number of nested parentheses/brackets ({limit})"
  | .countInvalid => "invalid repetition count range, the start must be <= the end"
  | .countEmpty => "repetition quantifier expects a valid decimal"
  | .countUnclosed => "unclosed counted repetition"
  | .repetitionMissing => "repetition operator missing expression"
  | .boundaryUnclosed =>
    "special word boundary assertion is either unclosed or contains an invalid character"
  | .boundaryUnrecognized =>
    "unrecognized special word boundary assertion, valid choices are: start, end, start-half " ++
      "or end-half"
  | .boundaryUnfinished =>
    "found either the beginning of a special word boundary or a bounded repetition on a \\b " ++
      "with an opening brace, but no closing brace"
  | .propertyInvalid => "invalid Unicode character class"
  | .backreference => "backreferences are not supported"
  | .lookAround => "look-around, including look-ahead and look-behind, is not supported"
  | .unicodeNotAllowed => "Unicode not allowed here"
  | .invalidUtf8 => "pattern can match invalid UTF-8"
  | .propertyNotFound => "Unicode property not found"
  | .propertyValueNotFound => "Unicode property value not found"
  | .tooLarge limit => s!"Compiled regex exceeds size limit of {limit} bytes."

/-- A flag. -/
inductive Flag where
  | ignoreCase
  | multiLine
  | dotAll
  | swapGreed
  | unicode
  | carriageReturn
  | verbose
deriving DecidableEq

/-- A flag being switched on or off. -/
structure Setting where
  flag : Flag
  on : Bool
deriving DecidableEq

/-- A condition on the place between two characters, as written. -/
inductive Assertion where
  | lineStart
  | lineEnd
  | textStart
  | textEnd
  | wordBoundary
  | notWordBoundary
  | wordStart
  | wordEnd
  | wordStartHalf
  | wordEndHalf
deriving DecidableEq

/-- A class that has an escape of its own: `\d`, `\s` and `\w`. -/
inductive Shorthand where
  | digit
  | blank
  | word
deriving DecidableEq

/-- A class named between colons. -/
inductive AsciiClass where
  | alnum | alpha | ascii | blank | cntrl | digit | graph | lower | print | punct | space
  | upper | word | xdigit
deriving DecidableEq

/-- How a property of characters is asked for. -/
inductive PropertyQuery where
  | name (text : String)
  | value (property text : String)
deriving DecidableEq

/-- An operation on two sets. -/
inductive SetOperation where
  | intersection
  | difference
  | symmetricDifference
deriving DecidableEq

/-- A character as written; `asByte` if it was written as two hexadecimal digits, which name a
byte where Unicode is off. -/
structure Literal where
  char : Char
  asByte : Bool
deriving DecidableEq

/-- What stands in a class between brackets. -/
inductive ClassExpr where
  | empty
  | literal (l : Literal)
  | range (first last : Literal)
  | ascii (kind : AsciiClass) (negated : Bool)
  | property (query : PropertyQuery) (negated : Bool)
  | shorthand (kind : Shorthand) (negated : Bool)
  | bracketed (negated : Bool) (inner : ClassExpr)
  | union (items : List ClassExpr)
  | operation (op : SetOperation) (left right : ClassExpr)

/-- A regular expression as written. -/
inductive Expr where
  | empty
  | flags (settings : List Setting)
  | literal (l : Literal)
  | dot
  | assertion (kind : Assertion)
  | property (query : PropertyQuery) (negated : Bool)
  | shorthand (kind : Shorthand) (negated : Bool)
  | bracketed (negated : Bool) (inner : ClassExpr)
  /-- A repetition, `most` times at most, or without bound. -/
  | repetition (least : Nat) (most : Option Nat) (greedy : Bool) (inner : Expr)
  /-- A group in which further flags hold. -/
  | group (settings : List Setting) (captures : Bool) (inner : Expr)
  | alternation (branches : List Expr)
  | concat (items : List Expr)

/-! ### Depth -/

mutual

/-- How deep classes nest. -/
def ClassExpr.depth : ClassExpr → Nat
  | .bracketed _ inner => inner.depth + 1
  | .union items => classDepth items + 1
  | .operation _ left right => max left.depth right.depth + 1
  | _ => 0

/-- The greatest depth of the items of a class. -/
def classDepth : List ClassExpr → Nat
  | [] => 0
  | item :: rest => max item.depth (classDepth rest)

end

mutual

/-- How deep the parts of an expression nest. -/
def Expr.depth : Expr → Nat
  | .bracketed _ inner => inner.depth + 1
  | .repetition _ _ _ inner => inner.depth + 1
  | .group _ _ inner => inner.depth + 1
  | .alternation branches => exprDepth branches + 1
  | .concat items => exprDepth items + 1
  | _ => 0

/-- The greatest depth of some expressions. -/
def exprDepth : List Expr → Nat
  | [] => 0
  | e :: rest => max e.depth (exprDepth rest)

end

end Compendium.Regex
