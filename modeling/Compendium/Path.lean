import Compendium.Text

/-!
# Paths

A `Path` is kept as it was written.  Its meaning is the list of its parts: empty pieces
between slashes and inner `.` pieces have none, so `a//b`, `a/./b` and `a/b` are different
texts with the same parts.
-/

namespace Compendium

/-- A part of a path. -/
inductive PathPart where
  /-- The slash that an absolute path starts with. -/
  | root
  /-- The `.` that a relative path starts with. -/
  | here
  /-- A step up, written `..`. -/
  | up
  | name (text : List Char)
deriving DecidableEq

/-- A path, as written. -/
structure Path where
  text : String
deriving DecidableEq

namespace Path

/-- The path with the given characters. -/
def ofChars (cs : List Char) : Path := ⟨String.ofList cs⟩

/-- Whether a piece between slashes stands for no part. -/
def isIdle (piece : List Char) : Bool := piece = [] || piece = ['.']

/-- The part a piece stands for, where an inner `.` has no meaning. -/
def part? (piece : List Char) : Option PathPart :=
  if isIdle piece then none
  else if piece = ['.', '.'] then some .up
  else some (.name piece)

/-- The part that the first piece of a path stands for. -/
def firstPart? (piece : List Char) : Option PathPart :=
  if piece = ['.'] then some .here else part? piece

/-- Whether the path starts at the root. -/
def isAbsolute (p : Path) : Bool := p.text.toList.head? = some '/'

/-- The parts of a path, in order. -/
def parts (p : Path) : List PathPart :=
  match Text.pieces '/' p.text.toList with
  | [] => []
  | first :: rest =>
    (if p.isAbsolute then some .root else firstPart? first).toList ++ rest.filterMap part?

/-- The names among parts. -/
def namesOf (parts : List PathPart) : List (List Char) :=
  parts.filterMap fun part =>
    match part with
    | .name text => some text
    | _ => none

/-- Whether two paths have the same parts. -/
def same (p q : Path) : Bool := p.parts = q.parts

/-- What is left of a list of parts after those of `base`, if it begins with them. -/
def partsAfter : List PathPart → List PathPart → Option (List PathPart)
  | [], parts => some parts
  | _ :: _, [] => none
  | b :: base, p :: parts => if b = p then partsAfter base parts else none

/-- The parts of a path that follow those of `base`, if it begins with them. -/
def partsBelow? (p base : Path) : Option (List PathPart) := partsAfter base.parts p.parts

/-- The path of `q` seen from `p`: `q` itself when it is absolute, else `q` after `p` with
one slash between them. -/
def join (p q : Path) : Path :=
  if q.isAbsolute || p.text.isEmpty then q
  else if p.text.toList.getLast? = some '/' then ⟨p.text ++ q.text⟩
  else ⟨p.text ++ "/" ++ q.text⟩

/-- The path of the entry `name` of the directory `p`. -/
def entry (p : Path) (name : List Char) : Path := p.join (ofChars name)

/-- The name a path ends with: none for a path that ends with a step up or at its start. -/
def fileName? (p : Path) : Option (List Char) :=
  match p.parts.getLast? with
  | some (.name text) => some text
  | _ => none

/-- The pieces up to the last one that stands for a part. -/
def dropIdleEnd (pieces : List (List Char)) : List (List Char) :=
  (pieces.reverse.dropWhile isIdle).reverse

/-- The path without its last part; none for the root and for the empty path. -/
def parent? (p : Path) : Option Path :=
  match Text.pieces '/' p.text.toList with
  | [] => none
  | first :: rest =>
    match dropIdleEnd rest with
    | [] => if first = [] then none else some ⟨""⟩
    | named =>
      let above := Text.join ['/'] (dropIdleEnd named.dropLast)
      if p.isAbsolute then some (ofChars ('/' :: above))
      else if above = [] then some (ofChars first)
      else some (ofChars (first ++ '/' :: above))

/-- What follows the last dot of a name.  A name without a dot, one whose only dot comes
first, and `..` have no extension. -/
def extensionOf (name : List Char) : Option (List Char) :=
  if name = ['.', '.'] then none
  else
    let reversed := name.reverse
    match reversed.dropWhile (· ≠ '.') with
    | [] => none
    | _ :: [] => none
    | _ :: _ :: _ => some (reversed.takeWhile (· ≠ '.')).reverse

/-- The extension of the name a path ends with. -/
def extension? (p : Path) : Option (List Char) := p.fileName?.bind extensionOf

/-- The path that leads down along the given names. -/
def ofNames (names : List (List Char)) : Path := ofChars (Text.join ['/'] names)

/-- The path, the one above it, and so on, `fuel` of them at most. -/
def chain : Nat → Path → List Path
  | 0, _ => []
  | fuel + 1, p =>
    match p.parent? with
    | none => [p]
    | some above => p :: chain fuel above

/-- The path and all that are above it, the path itself first.  Each is shorter than the one
before it. -/
def ancestors (p : Path) : List Path := chain (p.text.length + 1) p

end Path

end Compendium
