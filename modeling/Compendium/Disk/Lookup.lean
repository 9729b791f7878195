import Compendium.AccessFault
import Compendium.Disk.Node
import Compendium.Path

/-!
# Looking up paths

A path leads over a disk in steps.  `Disk.follow` takes the steps one after the other and
replaces each link by the steps of its target; no more than a fixed number of links are
followed, so that circles come to an end.  `Disk.locate` does this for a whole path.
-/

namespace Compendium

/-- A disk, with the directory at which relative paths start. -/
structure Disk where
  root : Node
  here : Location

namespace Disk

/-- A step of a path. -/
inductive Step where
  /-- The step to where one is. -/
  | stay
  | up
  | name (n : Name)
  /-- The slash at the end of a path, which asks for a directory. -/
  | slash
deriving DecidableEq

/-- What a path is looked up for. -/
inductive Purpose where
  /-- For what is there, the last link being followed. -/
  | content
  /-- For the entry itself, be it a link. -/
  | entry
  /-- For a file that is to be made unless it is there. -/
  | making
deriving DecidableEq

/-- The longest name, in bytes. -/
def nameLimit : Nat := 255

/-- The longest path, in bytes. -/
def pathLimit : Nat := 4095

/-- The greatest number of links that are followed for one path. -/
def linkLimit : Nat := 40

/-- The step that a piece between slashes stands for. -/
def step? (piece : List Char) : Option Step :=
  if piece = [] then none
  else if piece = ['.'] then some .stay
  else if piece = ['.', '.'] then some .up
  else some (.name piece)

/-- The steps of a path. -/
def steps (path : List Char) : List Step :=
  (Text.pieces '/' path).filterMap step?
    ++ if path.getLast? = some '/' then [.slash] else []

/-- Where a path starts, seen from a location. -/
def start (path : List Char) (here : Location) : Location :=
  if path.head? = some '/' then [] else here

/-- Take steps from a location.  Each is taken in a directory, and `links` more links may be
followed. -/
def follow (root : Node) (purpose : Purpose) (links : Nat) (here : Location) :
    List Step → Except AccessFault Location
  | [] => .ok here
  | step :: rest =>
    match root.at? here with
    | some (.dir entries) =>
      match step with
      | .stay | .slash => follow root purpose links here rest
      | .up => follow root purpose links here.dropLast rest
      | .name n =>
        if purpose = .making ∧ rest = [.slash] then .error .isDirectory
        else if nameLimit < (Text.bytes n).length then .error .nameTooLong
        else match entries.find? n with
        | none =>
          if purpose = .making ∧ rest = [] then .ok (here ++ [n]) else .error .notFound
        | some (.link target) =>
          if purpose = .entry ∧ rest = [] then .ok (here ++ [n])
          else match links with
          | 0 => .error .linkLoop
          | links + 1 => follow root purpose links (start target here) (steps target ++ rest)
        | some _ => follow root purpose links (here ++ [n]) rest
    | _ => .error .notDirectory
termination_by steps => (links, steps.length)

/-- Where a path leads. -/
def locate (d : Disk) (purpose : Purpose) (path : Path) : Except AccessFault Location :=
  let text := path.text.toList
  if text.contains '\x00' then .error .nullInName
  else if text = [] then .error .notFound
  else if pathLimit < (Text.bytes text).length then .error .nameTooLong
  else follow d.root purpose linkLimit (start text d.here) (steps text)

end Disk

end Compendium
