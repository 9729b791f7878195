import Compendium.AccessFault
import Compendium.Json.Cursor
import Compendium.Pattern
import Compendium.Rule

/-!
# Failures

A `Failure` is what a run can fail with: its kind, what it is about, and its cause.  Some
failures end a run and others are noted in its report, but the wording is the same.
-/

namespace Compendium

/-- What a run fails with. -/
inductive Failure where
  /-- The text of a configuration file is no configuration. -/
  | configText (path : Path) (cause : Json.Fault)
  /-- A configuration file cannot be read. -/
  | configAccess (path : Path) (cause : AccessFault)
  /-- A line of a configuration is no pattern. -/
  | pattern (text : String) (origin : String) (cause : Pattern.Fault)
  /-- A rule of a configuration does not compile. -/
  | rule (name : String) (origin : String) (cause : Rule.Fault)
  | reading (path : Path) (cause : AccessFault)
  | writing (path : Path) (cause : AccessFault)
  /-- A directory cannot be listed. -/
  | walking (path : Path) (cause : AccessFault)
  /-- A path argument is blank. -/
  | emptyPath (raw : String)
deriving DecidableEq

namespace Failure

/-- The cause of a failure, where the failure has one that is worded apart from it. -/
def cause? : Failure → Option String
  | .configText _ cause => some cause.message
  | .configAccess _ cause => some cause.message
  | .reading _ cause => some cause.message
  | .writing _ cause => some cause.message
  | .pattern .. | .rule .. | .walking .. | .emptyPath .. => none

/-- The wording of a failure. -/
def message : Failure → String
  | .configText path cause =>
    "Config Parse Error: File '" ++ path.text ++ "': " ++ cause.message
  | .configAccess path cause =>
    "Config Read Error: File '" ++ path.text ++ "': " ++ cause.message
  | .pattern text origin cause =>
    "Pattern Compile Error: Pattern \"" ++ text ++ "\" from " ++ origin ++ ": " ++ cause.message
  | .rule name origin cause =>
    "Rule Compile Error: Rule \"" ++ name ++ "\" from " ++ origin ++ ": " ++ cause.message
  | .reading path cause => "File Read Error: Path '" ++ path.text ++ "', Error: " ++ cause.message
  | .writing path cause =>
    "File Write Error: Path '" ++ path.text ++ "', Error: " ++ cause.message
  | .walking path cause =>
    "WalkDir Error: IO error for operation on " ++ path.text ++ ": " ++ cause.message
  | .emptyPath raw => "Invalid Argument: empty path: '" ++ raw ++ "'"

end Failure

end Compendium
