/-!
# Built-in patterns

The patterns that apply to every run which does not switch them off.
-/

namespace Compendium

/-- The lines of the built-in patterns. -/
def builtinPatterns : List String :=
  [".git", ".gitignore", ".gitattributes", ".gitsubmodules", "maid.json", ".maid.json",
    "__pycache__", "*.log", "LICENSE", "node_modules", "*.bak", "*.old"]

end Compendium
