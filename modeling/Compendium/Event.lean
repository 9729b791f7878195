import Compendium.Failure
import Compendium.Text.Quoted

/-!
# Events

A run tells what it does by events.  Each `Event` has a level, the part of the program it comes
from, and a wording.
-/

namespace Compendium

/-- How important an event is. -/
inductive Level where
  | warn
  | info
  | debug
deriving DecidableEq

/-- The place of a level among the levels, the most important first. -/
def Level.rank : Level → Nat
  | .warn => 1
  | .info => 2
  | .debug => 3

/-- What a run does. -/
inductive Event where
  | loading (file : Path)
  | parsed (file : Path) (patterns rules : Nat)
  | noHome
  | globalFound (file : Path)
  | globalMissing (searched : List Path)
  | localFound (file directory : Path)
  | localUnreadable (file : Path) (cause : AccessFault)
  /-- The configuration of a directory is the global one and does not apply again. -/
  | localIsGlobal (file : Path)
  | applying (rule pattern : String) (file : Path)
  /-- A rule reached the end of a file inside a range. -/
  | openAtEnd (rule : String)
  | notExcludable (file : Path) (cause : AccessFault)
  | noted (failure : Failure)
  | scanning (directory : Path)
  | ignoring (entry : Path) (isDir : Bool) (pattern : String) (base : Path)
  | notRegular (entry : Path)
  | ignoringArgument (file : Path)
  | ownDocument (file : Path)
  | includingBinary (file : Path) (size : Nat)
  | includingText (file : Path)
  | noSuchArgument (path : Path)
  | aggregated (included skipped failures : Nat)
deriving DecidableEq

namespace Event

/-- The level of an event. -/
def level : Event → Level
  | .localUnreadable .. | .noted .. | .noSuchArgument .. => .warn
  | .loading .. | .globalFound .. | .localFound .. | .applying .. | .scanning ..
  | .ignoringArgument .. | .includingBinary .. | .includingText .. | .aggregated .. => .info
  | .parsed .. | .noHome | .globalMissing .. | .localIsGlobal .. | .openAtEnd ..
  | .notExcludable .. | .ignoring .. | .notRegular .. | .ownDocument .. => .debug

/-- The part of the program that an event comes from. -/
def source : Event → String
  | .loading .. | .parsed .. | .noHome | .globalFound .. | .globalMissing .. | .localFound ..
  | .localUnreadable .. | .localIsGlobal .. => "maid_core::config"
  | .applying .. | .openAtEnd .. => "maid_core::rules::engine"
  | .notExcludable .. | .noted .. | .scanning .. | .ignoring .. | .notRegular ..
  | .ignoringArgument .. | .ownDocument .. | .includingBinary .. | .includingText ..
  | .noSuchArgument .. | .aggregated .. => "maid_core::gather"

/-- The wording of an event. -/
def message : Event → String
  | .loading file => "Loading configuration from: " ++ file.text
  | .parsed file patterns rules =>
    "Parsed " ++ file.text ++ " (" ++ toString patterns ++ " patterns, " ++ toString rules
      ++ " rules)"
  | .noHome => "No home directory found; only the working directory is searched."
  | .globalFound file => "Using global configuration: " ++ file.text
  | .globalMissing searched =>
    "No global configuration found in "
      ++ Text.Quoted.list (searched.map fun directory => Text.Quoted.quotePath directory.text)
  | .localFound file directory => "Found " ++ file.text ++ " in " ++ directory.text
  | .localUnreadable file cause =>
    "Ignoring unreadable local configuration '" ++ file.text ++ "': " ++ cause.message
  | .localIsGlobal file =>
    file.text ++ " is the global configuration; not applying it twice"
  | .applying rule pattern file =>
    "Applying rule: " ++ rule ++ " (" ++ pattern ++ ") to " ++ file.text
  | .openAtEnd rule =>
    "Rule '" ++ rule ++ "' reached end of input with an open range; remainder dropped"
  | .notExcludable file cause => "Cannot canonicalize " ++ file.text ++ ": " ++ cause.message
  | .noted failure => failure.message
  | .scanning directory => "Scanning directory: " ++ directory.text
  | .ignoring entry isDir pattern base =>
    "Skipped " ++ (if isDir then "directory" else "file") ++ " " ++ entry.text ++ " (pattern '"
      ++ pattern ++ "' from " ++ base.text ++ ")"
  | .notRegular entry => "Skipping non-regular entry: " ++ entry.text
  | .ignoringArgument file => "Skipped blacklisted file: " ++ file.text
  | .ownDocument file => "Skipping output document: " ++ file.text
  | .includingBinary file size =>
    "Including binary file: " ++ file.text ++ " (" ++ toString size ++ " bytes)"
  | .includingText file => "Processing file: " ++ file.text
  | .noSuchArgument path => "Invalid path: " ++ path.text
  | .aggregated included skipped failures =>
    "Aggregated " ++ toString included ++ " files (" ++ toString skipped ++ " skipped, "
      ++ toString failures ++ " errors)"

end Event

end Compendium
