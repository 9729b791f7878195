/-!
# Configurations

A configuration lists ignore patterns and rules, as they are written in a file.  Neither is
compiled yet.
-/

namespace Compendium

/-- A rule as a configuration gives it. -/
structure RuleSpec where
  /-- The glob for the files the rule is for. -/
  pattern : String
  name : Option String
  /-- The regular expression for the lines that open a range. -/
  start : String
  /-- What closes a range: a regular expression or one of two marks. -/
  delete : String
  keepStart : Bool
deriving DecidableEq

/-- A configuration. -/
structure Config where
  patterns : List String
  rules : List RuleSpec
deriving DecidableEq

namespace Config

/-- The configuration that says nothing. -/
def empty : Config := ⟨[], []⟩

/-- The names of configuration files, in the order in which they are looked for. -/
def fileNames : List String := ["maid.json", ".maid.json"]

end Config

end Compendium
