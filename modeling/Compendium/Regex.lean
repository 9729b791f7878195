import Compendium.Regex.Reader
import Compendium.Regex.Meaning
import Compendium.Regex.Size
import Compendium.Regex.Match

/-!
# Regular expressions

`Regex.read` reads a regular expression, looks its classes up and refuses it when the program
for it would be too large; `Regex.occursIn` says whether it matches somewhere in a line.
-/

namespace Compendium

/-- A regular expression that is fit for matching. -/
structure Regex where
  source : String
  term : Regex.Term

namespace Regex

/-- Read a regular expression. -/
def read (source : String) : Except Fault Regex := do
  let e ← readExpr source.toList
  let (term, _) ← e.meaning Mode.initial
  if term.programSize > sizeLimit then .error (.tooLarge sizeLimit)
  return ⟨source, term⟩

/-- Whether the regular expression matches somewhere in the text. -/
def occursIn (r : Regex) (text : String) : Bool := r.term.occursIn text.toList

end Regex

end Compendium
