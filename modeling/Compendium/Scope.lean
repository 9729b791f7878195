import Compendium.Builtin
import Compendium.Resolver

/-!
# Scopes

A `Scope` is what applies in a whole run: the built-in patterns, the global configuration and
the patterns that were asked for, in this order.  They are declared at each root that is
scanned, so that `Scope.contextAt` is a function of that root.
-/

namespace Compendium

/-- What applies in a whole run. -/
structure Scope where
  builtin : List String
  config : Option LoadedConfig
  extra : List String
  rules : RuleSet

namespace Scope

/-- The scope in which nothing applies. -/
def empty : Scope := ⟨[], none, [], .empty⟩

/-- The sources of patterns, each with the name that failures give it. -/
def sources (s : Scope) : List (String × List String) :=
  ("built-in ignores", s.builtin)
    :: (s.config.toList.map fun loaded => (loaded.origin, loaded.config.patterns))
    ++ [("command line", s.extra)]

/-- The patterns of sources, declared in one directory. -/
def patternsOf (root : Path) : List (String × List String) → Except Failure PatternSet
  | [] => .ok .empty
  | (origin, lines) :: rest => do
    let first ← PatternSet.ofLines lines root origin
    return first ++ (← patternsOf root rest)

/-- The context at a root. -/
def contextAt (s : Scope) (root : Path) : Except Failure Context :=
  (patternsOf root s.sources).map fun patterns => ⟨patterns, s.rules⟩

/-- The scope of a run.  A pattern or rule that does not compile is found here, and no root
brings up another. -/
def make (builtin : List String) (config : Option LoadedConfig) (extra : List String) :
    Except Failure Scope := do
  let rules ← match config with
    | some loaded => RuleSet.ofSpecs loaded.config.rules loaded.origin
    | none => pure .empty
  let scope : Scope := ⟨builtin, config, extra, rules⟩
  let _ ← scope.contextAt ⟨"."⟩
  return scope

/-- The lines of all patterns, as written. -/
def patternTexts (s : Scope) : List String := s.sources.flatMap (·.2)

end Scope

end Compendium
