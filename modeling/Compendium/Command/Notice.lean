import Compendium.Command.Settings
import Compendium.Event

/-!
# Notices

A `Notice` is what the command writes about its own work: the events of a run, and what the
command itself does around them.  How many of them are shown depends on the settings.
-/

namespace Compendium.Command

/-- What the command tells. -/
inductive Notice where
  | event (e : Event)
  | settings (s : Settings)
  | globalDisabled
  | patterns (texts : List String)
  | opened (file : Path)
  | finished
  | exiting (code : Nat)

namespace Notice

/-- The level of a notice. -/
def level : Notice → Level
  | .event e => e.level
  | .finished => .info
  | .settings _ | .globalDisabled | .patterns _ | .opened _ | .exiting _ => .debug

/-- The part of the program that a notice comes from. -/
def source : Notice → String
  | .event e => e.source
  | .opened _ => "maid::output"
  | .settings _ | .globalDisabled | .patterns _ | .finished | .exiting _ => "maid"

/-- The wording of a notice. -/
def message : Notice → String
  | .event e => e.message
  | .settings s => "CLI args parsed: " ++ s.describe
  | .globalDisabled => "Global configuration disabled."
  | .patterns texts =>
    "Global patterns: " ++ Text.Quoted.list (texts.map Text.Quoted.quote)
  | .opened file => "Opened output file: " ++ file.text
  | .finished => "Application finished successfully."
  | .exiting code => "Exiting with code " ++ toString code

/-- The name of a level, filled up to five columns. -/
def levelName : Level → String
  | .warn => "WARN "
  | .info => "INFO "
  | .debug => "DEBUG"

/-- The form of a notice: lines after the first are set in. -/
def form (n : Notice) : String :=
  let indented := Text.join ['\n', ' ', ' ', ' ', ' '] (Text.pieces '\n' n.message.toList)
  "[" ++ levelName n.level ++ " " ++ n.source ++ "] " ++ String.ofList indented ++ "\n"

/-- Whether a notice is shown under settings: warnings unless the run is quiet, and one level
more for each time that more words were asked for. -/
def isShown (s : Settings) (n : Notice) : Bool :=
  !s.quiet && n.level.rank ≤ s.verbosity + 1

/-- The notices that are shown, in order. -/
def forms (s : Settings) (notices : List Notice) : String :=
  String.join ((notices.filter (isShown s)).map form)

end Notice

end Compendium.Command
