import Compendium.Command.Choice
import Compendium.Text
import Compendium.Text.Quoted

/-!
# Settings

`Settings.read` turns the arguments of the command into `Settings`, or into another request:
for help, for the version, or none, when the arguments make no sense.  Arguments count from the
left to the right, so that a request for help hides what is wrong after it.
-/

namespace Compendium.Command

/-- What a run is asked to do. -/
structure Settings where
  paths : List String
  /-- The file for the document, when one is named. -/
  output : Option String
  stdout : Bool
  listFiles : Bool
  blacklist : List String
  config : Option String
  noGlobalConfig : Bool
  noBuiltinIgnore : Bool
  /-- How many times more words were asked for. -/
  verbose : Nat
  quiet : Bool
  log : Bool
deriving DecidableEq

/-- What the command is asked for. -/
inductive Request where
  | run (settings : Settings)
  | help (long : Bool)
  | version
  /-- The arguments make no sense. -/
  | misuse
deriving DecidableEq

namespace Settings

/-- The name of the document, unless another is asked for. -/
def defaultOutput : String := "_content.md"

/-- The settings without arguments. -/
def none : Settings :=
  ⟨[], .none, false, false, [], .none, false, false, 0, false, false⟩

/-- The name of the file for the document. -/
def outputFile (s : Settings) : String := s.output.getD defaultOutput

/-- How many times more words were asked for, `--log` standing for once. -/
def verbosity (s : Settings) : Nat := if s.log then max s.verbose 1 else s.verbose

/-! ### Reading -/

/-- The arguments that have been read. -/
structure Progress where
  settings : Settings
  given : List Choice
  /-- The option that waits for its value. -/
  waiting : Option Choice
  /-- Whether all that follows are paths. -/
  pathsOnly : Bool

/-- The greatest count of an option. -/
def countLimit : Nat := 255

/-- The settings with an option that takes no value. -/
def setFlag (s : Settings) : Choice → Settings
  | .stdout => { s with stdout := true }
  | .listFiles => { s with listFiles := true }
  | .noGlobalConfig => { s with noGlobalConfig := true }
  | .noBuiltinIgnore => { s with noBuiltinIgnore := true }
  | .verbose => { s with verbose := min (s.verbose + 1) countLimit }
  | .quiet => { s with quiet := true }
  | .log => { s with log := true }
  | _ => s

/-- The settings with an option and its value. -/
def setValue (s : Settings) (value : String) : Choice → Settings
  | .output => { s with output := some value }
  | .blacklist => { s with blacklist := s.blacklist ++ [value] }
  | .config => { s with config := some value }
  | _ => s

namespace Progress

/-- Before the first argument. -/
def start : Progress := ⟨none, [], .none, false⟩

/-- Note that an option is given, which most may be once only. -/
def note (p : Progress) (c : Choice) : Except Request Progress :=
  if !c.repeats && p.given.contains c then .error .misuse
  else .ok { p with given := p.given ++ [c] }

/-- Take a path.  It must not be empty. -/
def takePath (p : Progress) (path : List Char) : Except Request Progress :=
  if path = [] then .error .misuse
  else .ok { p with settings :=
    { p.settings with paths := p.settings.paths ++ [String.ofList path] } }

/-- Take an option with its value.  The name of the document must not be empty. -/
def takeValue (p : Progress) (c : Choice) (value : List Char) : Except Request Progress :=
  if c = .output ∧ value = [] then .error .misuse
  else (p.note c).map fun p =>
    { p with settings := p.settings.setValue (String.ofList value) c, waiting := .none }

/-- Take an option without a value. -/
def takeFlag (p : Progress) (c : Choice) (isLong : Bool) : Except Request Progress :=
  match c with
  | .help => .error (.help isLong)
  | .version => .error .version
  | c => (p.note c).map fun p => { p with settings := p.settings.setFlag c }

/-- Take an option by its long name, with what follows the sign `=` behind it. -/
def takeLong (p : Progress) (name : List Char) (value : Option (List Char)) :
    Except Request Progress :=
  match Choice.ofLong? name with
  | .none => .error .misuse
  | some c =>
    match c.value?, value with
    | some _, some value => p.takeValue c value
    | some _, .none => .ok { p with waiting := some c }
    | .none, some _ => .error .misuse
    | .none, .none => p.takeFlag c true

/-- Take options by their letters.  The first that takes a value takes what is left. -/
def takeShorts (p : Progress) : List Char → Except Request Progress
  | [] => .ok p
  | letter :: rest =>
    match Choice.ofShort? letter with
    | .none => .error .misuse
    | some c =>
      if c.value?.isSome then
        match rest with
        | [] => .ok { p with waiting := some c }
        | '=' :: value => p.takeValue c value
        | value => p.takeValue c value
      else match p.takeFlag c false with
      | .error request => .error request
      | .ok p => takeShorts p rest

/-- A long name with the value that is behind it, if there is one. -/
def splitValue (text : List Char) : List Char × Option (List Char) :=
  match text.dropWhile (· ≠ '=') with
  | [] => (text, .none)
  | _ :: value => (text.takeWhile (· ≠ '='), some value)

/-- Take an argument. -/
def take (p : Progress) (argument : List Char) : Except Request Progress :=
  if p.pathsOnly then p.takePath argument
  else match argument, p.waiting with
  | '-' :: _ :: _, some _ => .error .misuse
  | ['-', '-'], .none => .ok { p with pathsOnly := true }
  | '-' :: '-' :: text, .none => let (name, value) := splitValue text; p.takeLong name value
  | '-' :: letter :: rest, .none => p.takeShorts (letter :: rest)
  | value, some c => p.takeValue c value
  | path, .none => p.takePath path

/-- Take arguments in order. -/
def takeAll (p : Progress) : List String → Except Request Progress
  | [] => .ok p
  | argument :: rest =>
    match p.take argument.toList with
    | .error request => .error request
    | .ok p => p.takeAll rest

end Progress

/-- Whether two options exclude each other, or the paths are missing. -/
def conflicting (s : Settings) : Bool :=
  s.paths.isEmpty || (s.stdout && s.output.isSome) || (s.quiet && s.log)
    || (s.noGlobalConfig && s.config.isSome)

/-- What arguments ask for. -/
def read (arguments : List String) : Request :=
  match Progress.start.takeAll arguments with
  | .error request => request
  | .ok p =>
    if p.waiting.isSome || p.settings.conflicting then .misuse else .run p.settings

/-! ### Describing -/

/-- A truth value in a description. -/
def describeBool (b : Bool) : String := if b then "true" else "false"

/-- A field in a description. -/
def describeField (name form : String) : String := name ++ ": " ++ form

/-- A record in a description. -/
def describeRecord (name : String) (fields : List (String × String)) : String :=
  name ++ " \x7b " ++ String.intercalate ", " (fields.map fun (field, form) =>
    describeField field form) ++ " \x7d"

/-- The settings in one line. -/
def describe (s : Settings) : String :=
  describeRecord "Cli"
    [("paths", Text.Quoted.list (s.paths.map Text.Quoted.quotePath)),
      ("output", describeRecord "OutputOpts"
        [("output", Text.Quoted.quotePath s.outputFile), ("stdout", describeBool s.stdout),
          ("list_files", describeBool s.listFiles)]),
      ("ignore", describeRecord "IgnoreOpts"
        [("blacklist", Text.Quoted.list (s.blacklist.map Text.Quoted.quote)),
          ("config", match s.config with
            | some file => "Some(" ++ Text.Quoted.quote file ++ ")"
            | .none => "None"),
          ("no_global_config", describeBool s.noGlobalConfig),
          ("no_builtin_ignore", describeBool s.noBuiltinIgnore)]),
      ("verbose", toString s.verbose), ("quiet", describeBool s.quiet),
      ("log", describeBool s.log)]

end Settings

end Compendium.Command
