import Compendium.Pattern.Set
import Compendium.Rule.Set

/-!
# Contexts

A `Context` is what applies in a directory: the patterns and rules of the whole run, and after
them those that the directories on the way down to it contribute.
-/

namespace Compendium

/-- The patterns and rules that apply in a directory. -/
structure Context where
  patterns : PatternSet
  rules : RuleSet

namespace Context

/-- The context in which nothing applies. -/
def empty : Context := ⟨.empty, .empty⟩

/-- The context followed by what a directory contributes. -/
def extended (c contribution : Context) : Context :=
  ⟨c.patterns ++ contribution.patterns, c.rules ++ contribution.rules⟩

/-- The context that a configuration declared in `base` contributes; `origin` says in a failure
where the configuration is from. -/
def ofConfig (config : Config) (base : Path) (origin : String) : Except Failure Context := do
  let patterns ← PatternSet.ofLines config.patterns base origin
  let rules ← RuleSet.ofSpecs config.rules origin
  return ⟨patterns, rules⟩

end Context

end Compendium
