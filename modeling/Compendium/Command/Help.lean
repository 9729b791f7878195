import Compendium.Command.Settings
import Compendium.Unicode.Width

/-!
# Help

The text of the help, in a short and in a long form.  The short form has what an argument does
beside its names, the long form on lines of its own.
-/

namespace Compendium.Command.Help

/-- What an option does.  The help itself tells of its other form. -/
def purpose (long : Bool) : Choice → String
  | .output => "Write the aggregated document to FILE."
  | .stdout => "Write the aggregated document to standard output."
  | .listFiles => "Print a table of the included files when done."
  | .blacklist =>
    "Extra ignore pattern, applied after the global configuration (repeatable)."
  | .config => "Use FILE as the global configuration instead of searching for one."
  | .noGlobalConfig => "Do not load any global configuration file."
  | .noBuiltinIgnore => "Disable the built-in ignore patterns (.git, node_modules, ...)."
  | .verbose => "Increase message verbosity (-v, -vv)."
  | .quiet => "Silence informational messages and warnings."
  | .log => "Log progress messages (same as -v)."
  | .help =>
    if long then "Print help (see a summary with '-h')"
    else "Print help (see more with '--help')"
  | .version => "Print version"

/-- What an option that is not given stands for. -/
def default? : Choice → Option String
  | .output => some Settings.defaultOutput
  | _ => none

/-- An entry of the help: the names of an argument, what it does, and its default. -/
structure Entry where
  names : String
  purpose : String
  default : Option String

/-- The names of an option, its value behind them. -/
def namesOf (c : Choice) : String :=
  let letter := match c.short? with
    | some letter => String.ofList ['-', letter, ',', ' ']
    | none => "    "
  let value := match c.value? with
    | some value => " <" ++ value ++ ">"
    | none => if c = .verbose then "..." else ""
  letter ++ "--" ++ c.long ++ value

/-- The entry of an option. -/
def entryOf (long : Bool) (c : Choice) : Entry := ⟨namesOf c, purpose long c, default? c⟩

/-- The parts of the help with their titles. -/
def sections (long : Bool) : List (String × List Entry) :=
  [("Arguments", [⟨"<PATHS>...", "Directories or files to aggregate.", none⟩]),
    ("Options", [.verbose, .quiet, .log, .help, .version].map (entryOf long)),
    ("Output", [.output, .stdout, .listFiles].map (entryOf long)),
    ("Filtering",
      [.blacklist, .config, .noGlobalConfig, .noBuiltinIgnore].map (entryOf long))]

/-- Blanks. -/
def blanks (n : Nat) : String := String.ofList (List.replicate n ' ')

/-- The columns of a line. -/
def lineWidth : Nat := 100

/-- Words in lines of at most `room` columns, of which `used` are taken.  The lines after the
first one are indented. -/
def fillLines (room indent used : Nat) : List (List Char) → List Char
  | [] => []
  | word :: rest =>
    let columns := Unicode.width word
    if used = 0 then word ++ fillLines room indent columns rest
    else if used + 1 + columns ≤ room then
      ' ' :: word ++ fillLines room indent (used + 1 + columns) rest
    else '\n' :: List.replicate indent ' ' ++ word ++ fillLines room indent columns rest

/-- A text in lines that start behind `indent` columns. -/
def filled (indent : Nat) (text : String) : String :=
  String.ofList (fillLines (lineWidth - indent) indent 0 (Text.pieces ' ' text.toList))

/-- An entry in the short form, its names filled up to `width` columns. -/
def shortForm (width : Nat) (e : Entry) : String :=
  let beside := match e.default with
    | some value => " [default: " ++ value ++ "]"
    | none => ""
  "  " ++ e.names ++ blanks (width + 2 - Unicode.width e.names.toList)
    ++ filled (width + 4) (e.purpose ++ beside)

/-- An entry in the long form. -/
def longForm (e : Entry) : String :=
  let below := match e.default with
    | some value => "\n" ++ blanks 10 ++ "\n" ++ blanks 10 ++ "[default: " ++ value ++ "]"
    | none => ""
  "  " ++ e.names ++ "\n" ++ blanks 10 ++ e.purpose ++ below

/-- A part of the help. -/
def sectionText (long : Bool) (title : String) (entries : List Entry) : String :=
  let width := (entries.map fun e => Unicode.width e.names.toList).foldl max 2
  let forms := entries.map (if long then longForm else shortForm width)
  title ++ ":\n" ++ String.intercalate (if long then "\n\n" else "\n") forms

/-- What the command does. -/
def about (long : Bool) : String :=
  if long then
    "maid walks the given paths, skips whatever the cascading maid.json \n"
      ++ "configuration ignores, strips configured line ranges from text files and \n"
      ++ "writes everything that is left into a single Markdown file."
  else "Aggregate a directory tree into one Markdown document."

/-- The line that shows how the command is called. -/
def usage : String := "Usage: maid [OPTIONS] <PATHS>..."

/-- Some calls of the command. -/
def examples : String :=
  "EXAMPLES:\n  maid .\n  maid src docs -o context.md\n"
    ++ "  maid . -b '*.lock' -b 'target/' --stdout"

/-- The help. -/
def text (long : Bool) : String :=
  about long ++ "\n\n" ++ usage ++ "\n\n"
    ++ String.intercalate "\n\n" ((sections long).map fun (title, entries) =>
      sectionText long title entries)
    ++ "\n\n" ++ examples ++ "\n"

end Compendium.Command.Help
