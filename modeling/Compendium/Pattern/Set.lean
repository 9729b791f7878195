import Compendium.Failure

/-!
# Sets of patterns

A `ScopedPattern` is a pattern with the directory it is declared in.  A `PatternSet` is a list
of them in which the last one that covers an entry decides whether the entry is ignored.
-/

namespace Compendium

/-- A pattern with the directory it is declared in. -/
structure ScopedPattern where
  pattern : Pattern
  base : Path

/-- Patterns in order. -/
structure PatternSet where
  patterns : List ScopedPattern

namespace ScopedPattern

/-- Whether the pattern matches the entry at a path.  Outside the base of the pattern only one
that is not anchored can match, by the name of the entry. -/
def covers (s : ScopedPattern) (path : Path) (isDir : Bool) : Bool :=
  match path.partsBelow? s.base with
  | some parts => s.pattern.matchesNames (Path.namesOf parts) isDir
  | none =>
    !s.pattern.anchored && path.fileName?.any fun name => s.pattern.matchesNames [name] isDir

end ScopedPattern

namespace PatternSet

/-- The set without patterns. -/
def empty : PatternSet := ⟨[]⟩

/-- Whether the set has no patterns. -/
def isEmpty (s : PatternSet) : Bool := s.patterns.isEmpty

/-- The number of patterns. -/
def size (s : PatternSet) : Nat := s.patterns.length

/-- Read the lines of a configuration. -/
def readLines (base : Path) (origin : String) : List String → Except Failure (List ScopedPattern)
  | [] => .ok []
  | raw :: rest =>
    match Pattern.read raw with
    | .error cause => .error (.pattern (String.ofList (Text.trim raw.toList)) origin cause)
    | .ok none => readLines base origin rest
    | .ok (some pattern) => (readLines base origin rest).map (⟨pattern, base⟩ :: ·)

/-- The patterns on the lines of a configuration, declared in `base`; `origin` says in a failure
where the lines are from. -/
def ofLines (lines : List String) (base : Path) (origin : String) : Except Failure PatternSet :=
  (readLines base origin lines).map .mk

/-- The patterns of one set followed by those of another. -/
def append (s later : PatternSet) : PatternSet := ⟨s.patterns ++ later.patterns⟩

instance : Append PatternSet := ⟨append⟩

/-- The last pattern that covers the entry at a path. -/
def lastMatch? (s : PatternSet) (path : Path) (isDir : Bool) : Option ScopedPattern :=
  s.patterns.reverse.find? fun p => p.covers path isDir

/-- The pattern because of which the entry at a path is ignored: the last one that covers it,
unless that is negated. -/
def ignoredBy? (s : PatternSet) (path : Path) (isDir : Bool) : Option ScopedPattern :=
  (s.lastMatch? path isDir).filter fun p => !p.pattern.negated

/-- Whether the entry at a path is ignored. -/
def isIgnored (s : PatternSet) (path : Path) (isDir : Bool) : Bool :=
  (s.ignoredBy? path isDir).isSome

end PatternSet

end Compendium
