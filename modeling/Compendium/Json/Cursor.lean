/-!
# Places in a JSON text

A `Cursor` is a place in a text: what follows it, its line, counted from one, and its column,
the number of bytes before it on its line.  A `Fault` says what is wrong at which place.
-/

namespace Compendium.Json

/-- What a value is, as faults name it. -/
inductive Found where
  | null
  | boolean (b : Bool)
  | integer (text : String)
  | floatingPoint (text : String)
  /-- A string, quoted. -/
  | string (quoted : String)
  | sequence
  | map
deriving DecidableEq

/-- What is wrong with a text. -/
inductive Cause where
  | unfinishedValue
  | unfinishedList
  | unfinishedObject
  | unfinishedString
  | expectedColon
  | expectedListEnd
  | expectedObjectEnd
  | expectedIdent
  | expectedValue
  | invalidEscape
  | invalidNumber
  | numberOutOfRange
  | controlCharacter
  | keyMustBeString
  | loneSurrogate
  | trailingComma
  | trailingCharacters
  | unfinishedSurrogate
  | invalidType (found : Found) (expected : String)
  | invalidLength (length : Nat) (expected : String)
  | unknownField (name : String) (known : List String)
  | duplicateField (name : String)
  | missingField (name : String)
deriving DecidableEq

/-- The wording of what a value is. -/
def Found.describe : Found → String
  | .null => "null"
  | .boolean b => "boolean `" ++ (if b then "true" else "false") ++ "`"
  | .integer text => "integer `" ++ text ++ "`"
  | .floatingPoint text => "floating point `" ++ text ++ "`"
  | .string quoted => "string " ++ quoted
  | .sequence => "sequence"
  | .map => "map"

/-- A choice between names, in words. -/
def oneOf (names : List String) : String :=
  let quoted := names.map fun name => "`" ++ name ++ "`"
  match quoted with
  | [a] => a
  | [a, b] => a ++ " or " ++ b
  | names => "one of " ++ String.intercalate ", " names

/-- The wording of a cause. -/
def Cause.message : Cause → String
  | .unfinishedValue => "EOF while parsing a value"
  | .unfinishedList => "EOF while parsing a list"
  | .unfinishedObject => "EOF while parsing an object"
  | .unfinishedString => "EOF while parsing a string"
  | .expectedColon => "expected `:`"
  | .expectedListEnd => "expected `,` or `]`"
  | .expectedObjectEnd => "expected `,` or `\x7d`"
  | .expectedIdent => "expected ident"
  | .expectedValue => "expected value"
  | .invalidEscape => "invalid escape"
  | .invalidNumber => "invalid number"
  | .numberOutOfRange => "number out of range"
  | .controlCharacter => "control character (\\u0000-\\u001F) found while parsing a string"
  | .keyMustBeString => "key must be a string"
  | .loneSurrogate => "lone leading surrogate in hex escape"
  | .trailingComma => "trailing comma"
  | .trailingCharacters => "trailing characters"
  | .unfinishedSurrogate => "unexpected end of hex escape"
  | .invalidType found expected => "invalid type: " ++ found.describe ++ ", expected " ++ expected
  | .invalidLength length expected => s!"invalid length {length}, expected " ++ expected
  | .unknownField name known => "unknown field `" ++ name ++ "`, expected " ++ oneOf known
  | .duplicateField name => "duplicate field `" ++ name ++ "`"
  | .missingField name => "missing field `" ++ name ++ "`"

/-- What is wrong, and where. -/
structure Fault where
  cause : Cause
  line : Nat
  column : Nat
deriving DecidableEq

/-- The wording of a fault. -/
def Fault.message (f : Fault) : String :=
  f.cause.message ++ s!" at line {f.line} column {f.column}"

/-- A place in a text. -/
structure Cursor where
  rest : List Char
  line : Nat
  column : Nat
deriving DecidableEq

namespace Cursor

/-- The start of a text. -/
def start (text : List Char) : Cursor := ⟨text, 1, 0⟩

/-- The place behind a character, with `rest` following it. -/
def past (k : Cursor) (c : Char) (rest : List Char) : Cursor :=
  if c = '\n' then ⟨rest, k.line + 1, 0⟩ else ⟨rest, k.line, k.column + c.utf8Size⟩

/-- The place behind the next character. -/
def next (k : Cursor) : Cursor :=
  match k.rest with
  | [] => k
  | c :: rest => k.past c rest

/-- Whether a character may stand between the parts of a JSON text. -/
def isSpace (c : Char) : Bool := c = ' ' || c = '\n' || c = '\t' || c = '\r'

/-- The place behind the blanks at the start of `rest`, which follows `k`. -/
def skipFrom (k : Cursor) : List Char → Cursor
  | [] => k
  | c :: rest => if isSpace c then skipFrom (k.past c rest) rest else k

/-- The place behind the blanks that follow. -/
def skip (k : Cursor) : Cursor := k.skipFrom k.rest

/-- The place `count` bytes on, at most at the end of `rest`, as a line and a column. -/
def placeAfter (line column : Nat) : Nat → List Char → Nat × Nat
  | 0, _ => (line, column)
  | _ + 1, [] => (line, column)
  | count + 1, c :: rest =>
    if c = '\n' then placeAfter (line + 1) 0 count rest
    else if count + 1 ≤ c.utf8Size then (line, column + (count + 1))
    else placeAfter line (column + c.utf8Size) (count + 1 - c.utf8Size) rest
termination_by _ rest => rest.length

/-- A fault at the place itself. -/
def fault (k : Cursor) (cause : Cause) : Fault := ⟨cause, k.line, k.column⟩

/-- A fault so many bytes on. -/
def faultAfter (k : Cursor) (count : Nat) (cause : Cause) : Fault :=
  let (line, column) := placeAfter k.line k.column count k.rest
  ⟨cause, line, column⟩

/-- A fault of the byte that follows. -/
def faultNext (k : Cursor) (cause : Cause) : Fault := k.faultAfter 1 cause

end Cursor

end Compendium.Json
