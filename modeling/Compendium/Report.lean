import Compendium.Failure

/-!
# Reports

A `Report` says what a run did: which files are in the document, which entries were skipped, and
which failures did not end the run.
-/

namespace Compendium

/-- How a file is in the document. -/
inductive Inclusion where
  | text (lines removed : Nat) (rules : List String)
  | binary (size : Nat)
deriving DecidableEq

/-- What a run did. -/
structure Report where
  /-- The files in the document, in order. -/
  included : List (Path × Inclusion)
  skipped : List Path
  failures : List Failure
deriving DecidableEq

namespace Report

/-- The report of a run that did nothing. -/
def empty : Report := ⟨[], [], []⟩

/-- Note a file that is in the document. -/
def add (r : Report) (path : Path) (how : Inclusion) : Report :=
  { r with included := r.included ++ [(path, how)] }

/-- Note an entry that was skipped. -/
def skip (r : Report) (path : Path) : Report := { r with skipped := r.skipped ++ [path] }

/-- Note a failure. -/
def note (r : Report) (failure : Failure) : Report :=
  { r with failures := r.failures ++ [failure] }

/-- Whether a file is in the document. -/
def isIncluded (r : Report) (path : Path) : Bool :=
  r.included.any fun (file, _) => file.same path

/-- How many lines were removed. -/
def removedLines (r : Report) : Nat :=
  (r.included.map fun (_, how) =>
    match how with
    | .text _ removed _ => removed
    | .binary _ => 0).foldl (· + ·) 0

end Report

end Compendium
