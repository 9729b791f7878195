import Compendium.Failure

/-!
# Sets of rules

A `RuleSet` is a list of rules.  The rules that are for a file are run over its lines one after
the other, each on what the one before it has kept.
-/

namespace Compendium

/-- Rules in order. -/
structure RuleSet where
  rules : List Rule

/-- What is left of a file. -/
structure Filtered where
  lines : List String
  /-- How many lines have gone. -/
  removed : Nat
  /-- The names of the rules that were run. -/
  applied : List String
deriving DecidableEq

namespace RuleSet

/-- The set without rules. -/
def empty : RuleSet := ⟨[]⟩

/-- Whether the set has no rules. -/
def isEmpty (s : RuleSet) : Bool := s.rules.isEmpty

/-- The number of rules. -/
def size (s : RuleSet) : Nat := s.rules.length

/-- Compile the rules of a configuration. -/
def readSpecs (origin : String) : List RuleSpec → Except Failure (List Rule)
  | [] => .ok []
  | spec :: rest =>
    match Rule.compile spec with
    | .error cause => .error (.rule (Rule.nameOf spec) origin cause)
    | .ok rule => (readSpecs origin rest).map (rule :: ·)

/-- The rules of a configuration; `origin` says in a failure where they are from. -/
def ofSpecs (specs : List RuleSpec) (origin : String) : Except Failure RuleSet :=
  (readSpecs origin specs).map .mk

/-- The rules of one set followed by those of another. -/
def append (s later : RuleSet) : RuleSet := ⟨s.rules ++ later.rules⟩

instance : Append RuleSet := ⟨append⟩

/-- The rules that are for the file at a path. -/
def applicable (s : RuleSet) (path : Path) : List Rule := s.rules.filter (·.isFor path)

/-- Run rules one after the other: each with the lines it is given and the lines it keeps. -/
def stages : List Rule → List String → List (Rule × List String × List String)
  | [], _ => []
  | rule :: rest, lines => (rule, lines, rule.apply lines) :: stages rest (rule.apply lines)

/-- The lines that are left after rules have run one after the other. -/
def applyAll (rules : List Rule) (lines : List String) : List String :=
  rules.foldl (fun lines rule => rule.apply lines) lines

/-- What is left of the file at a path. -/
def filter (s : RuleSet) (path : Path) (lines : List String) : Filtered :=
  let rules := s.applicable path
  let left := applyAll rules lines
  ⟨left, lines.length - left.length, rules.map (·.name)⟩

end RuleSet

end Compendium
