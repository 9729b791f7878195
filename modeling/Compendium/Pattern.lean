import Compendium.Pattern.Segment

/-!
# Ignore patterns

An ignore pattern is one line of a configuration.  `Pattern.read` takes it apart: a leading `!`
negates it, a trailing slash restricts it to directories, and a slash at the start or in the
middle ties it to the directory it is declared in.  The rest is a list of segments.
-/

namespace Compendium

/-- An ignore pattern. -/
structure Pattern where
  /-- The pattern as written, without the blanks around it. -/
  text : String
  negated : Bool
  anchored : Bool
  dirOnly : Bool
  segments : List Segment

namespace Pattern

/-- Why a line is no pattern. -/
inductive Fault where
  | noSegments
  | emptySegment
  | segment (fault : Segment.Fault)
deriving DecidableEq

/-- The wording of a fault. -/
def Fault.message : Fault → String
  | .noSegments => "pattern has no path segments"
  | .emptySegment => "empty path segment (// not allowed)"
  | .segment fault => fault.message

/-- A pattern taken apart: its marks, and the body between them. -/
structure Outline where
  negated : Bool
  dirOnly : Bool
  rooted : Bool
  body : List Char
deriving DecidableEq

/-- Whether a line holds no pattern, being blank or a comment. -/
def isComment (text : List Char) : Bool := text.isEmpty || text.head? = some '#'

/-- Take off the mark of negation, or the backslash that says that there is none. -/
def splitNegation : List Char → Bool × List Char
  | '!' :: rest => (true, rest)
  | '\\' :: '!' :: rest => (false, '!' :: rest)
  | '\\' :: '#' :: rest => (false, '#' :: rest)
  | text => (false, text)

/-- Take off one slash at the end. -/
def splitTrailingSlash (text : List Char) : Bool × List Char :=
  if text.getLast? = some '/' then (true, text.dropLast) else (false, text)

/-- Take off a slash at the start, with or without a dot before it. -/
def splitRoot : List Char → Bool × List Char
  | '.' :: '/' :: rest => (true, rest)
  | '/' :: rest => (true, rest)
  | text => (false, text)

/-- Take a pattern apart. -/
def outline (text : List Char) : Outline :=
  let (negated, text) := splitNegation text
  let (dirOnly, text) := splitTrailingSlash text
  let (rooted, body) := splitRoot text
  ⟨negated, dirOnly, rooted, body⟩

/-- Read the parts of a body, `last` being the segment before them: empty parts are refused,
and of adjacent `**` only the first counts. -/
def readParts (last : Option Segment) : List (List Char) → Except Fault (List Segment)
  | [] => .ok []
  | part :: rest =>
    if part.isEmpty then .error .emptySegment
    else match Segment.read part with
    | .error fault => .error (.segment fault)
    | .ok segment =>
      if segment.isAnyDepth && last.any Segment.isAnyDepth then readParts last rest
      else match readParts (some segment) rest with
      | .error fault => .error fault
      | .ok segments => .ok (segment :: segments)

/-- Put a segment for one name before the last segment. -/
def insertAnyOne : List Segment → List Segment
  | [] => [.anyOne]
  | [last] => [.anyOne, last]
  | segment :: rest => segment :: insertAnyOne rest

/-- Whether a text ends in `/**`. -/
def endsInDepth (body : List Char) : Bool := (Text.after? ['*', '*', '/'] body.reverse).isSome

/-- The segments of a body.  Without an anchor they may match at any depth, and `/**` at the
end stands for what is inside a directory, not for the directory. -/
def readBody (anchored : Bool) (body : List Char) : Except Fault (List Segment) :=
  let parts := Text.pieces '/' body
  let segments :=
    if anchored then readParts none parts
    else (readParts (some .anyDepth) parts).map (.anyDepth :: ·)
  if endsInDepth body then segments.map insertAnyOne else segments

/-- Whether a taken-apart pattern is tied to its directory. -/
def Outline.anchored (o : Outline) : Bool := o.rooted || o.body.contains '/'

/-- Read a pattern from a line without blanks around it. -/
def readText (text : List Char) : Except Fault (Option Pattern) :=
  if isComment text then .ok none
  else
    let o := outline text
    if o.body.isEmpty then .error .noSegments
    else (readBody o.anchored o.body).map fun segments =>
      some ⟨String.ofList text, o.negated, o.anchored, o.dirOnly, segments⟩

/-- Read a pattern from a line.  A blank line and a comment hold none. -/
def read (raw : String) : Except Fault (Option Pattern) := readText (Text.trim raw.toList)

/-- The beginnings of a list that are not empty, each with whether it is the whole list. -/
def beginnings {α : Type} : List α → List (List α × Bool)
  | [] => []
  | [a] => [([a], true)]
  | a :: rest => ([a], false) :: (beginnings rest).map fun (names, whole) => (a :: names, whole)

/-- Whether the pattern matches the names that lead from its directory to an entry.  A pattern
for directories also matches what is inside a directory it matches, unless it is negated. -/
def matchesNames (p : Pattern) (names : List (List Char)) (isDir : Bool) : Bool :=
  if names.isEmpty then false
  else if p.dirOnly && !p.negated then
    (beginnings names).any fun (names, whole) =>
      (!whole || isDir) && Segment.acceptAll p.segments names
  else (isDir || !p.dirOnly) && Segment.acceptAll p.segments names

end Pattern

end Compendium
