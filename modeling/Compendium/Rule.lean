import Compendium.Config
import Compendium.Glob
import Compendium.Path
import Compendium.Regex

/-!
# Rules

A rule removes ranges of lines from the files it is for.  A line that matches the start of the
rule opens a range, and what closes it is the rule's `EndOfRange`.  `Rule.apply` runs a rule
over the lines of a file; `Rule.isFor` says which files the rule is for.
-/

namespace Compendium

/-- What closes a range. -/
inductive EndOfRange where
  /-- A later line that matches; it is removed too. -/
  | pattern (r : Regex)
  /-- A later line that is empty or blank; it is removed too. -/
  | firstEmptyLine
  /-- The line that opened the range. -/
  | sameLine

/-- A compiled rule. -/
structure Rule where
  name : String
  /-- The glob for the rule's files, as written. -/
  pattern : String
  glob : List Glob.Token
  /-- Whether the glob is for whole paths, not for the names they end with. -/
  forPaths : Bool
  start : Regex
  finish : EndOfRange
  keepStart : Bool

namespace EndOfRange

/-- The mark for ranges that end at an empty line. -/
def emptyMark : String := "::empty::"

/-- The mark for ranges of one line. -/
def lineMark : String := "::line::"

/-- Read what closes a range: one of the marks, or else a regular expression. -/
def read (raw : String) : Except Regex.Fault EndOfRange :=
  if raw = emptyMark then .ok .firstEmptyLine
  else if raw = lineMark then .ok .sameLine
  else (Regex.read raw).map .pattern

/-- Whether a line closes a range that is open. -/
def closes (e : EndOfRange) (line : String) : Bool :=
  match e with
  | .pattern r => r.occursIn line
  | .firstEmptyLine => line.toList.all Text.isBlank
  | .sameLine => true

/-- Whether ranges are of one line. -/
def isSameLine : EndOfRange → Bool
  | .sameLine => true
  | _ => false

end EndOfRange

namespace Rule

/-- Why a rule does not compile. -/
inductive Fault where
  /-- The glob for the rule's files is none; `glob` is the text that was read. -/
  | filePattern (written : String) (glob : List Char) (cause : Glob.Fault)
  | start (source : String) (cause : Regex.Fault)
  | finish (source : String) (cause : Regex.Fault)
deriving DecidableEq

/-- The wording of what is wrong with a regular expression. -/
def regexMessage : Regex.Fault → String
  | .tooLarge limit => (Regex.Fault.tooLarge limit).message
  | cause => "regex error: " ++ cause.message

/-- The wording of a fault. -/
def Fault.message : Fault → String
  | .filePattern written glob cause =>
    "invalid file pattern \"" ++ written ++ "\": error parsing glob '" ++ String.ofList glob
      ++ "': " ++ cause.message
  | .start source cause => "invalid start regex \"" ++ source ++ "\": " ++ regexMessage cause
  | .finish source cause => "invalid delete regex \"" ++ source ++ "\": " ++ regexMessage cause

/-- The name of a rule: the one it is given, unless that is blank, or else its glob. -/
def nameOf (spec : RuleSpec) : String :=
  match spec.name with
  | some name => if name.toList.all Text.isBlank then spec.pattern else name
  | none => spec.pattern

/-- Compile a rule. -/
def compile (spec : RuleSpec) : Except Fault Rule :=
  let glob := Text.trim spec.pattern.toList
  match Glob.read glob with
  | .error cause => .error (.filePattern spec.pattern glob cause)
  | .ok tokens =>
    match Regex.read spec.start with
    | .error cause => .error (.start spec.start cause)
    | .ok start =>
      match EndOfRange.read spec.delete with
      | .error cause => .error (.finish spec.delete cause)
      | .ok finish =>
        .ok
          { name := nameOf spec
            pattern := String.ofList glob
            glob := tokens
            forPaths := spec.pattern.toList.contains '/'
            start := start
            finish := finish
            keepStart := spec.keepStart }

/-- In the glob of a rule every byte is a wildcard's to take. -/
def wild (_ : UInt8) : Bool := true

/-- Whether the rule is for the file at a path. -/
def isFor (r : Rule) (path : Path) : Bool :=
  if r.forPaths then Glob.accepts wild r.glob (Text.bytesOf path.text)
  else match path.fileName? with
  | some name => Glob.accepts wild r.glob (Text.bytes name)
  | none => false

/-- Run the rule over lines, starting inside a range or not: the lines it keeps, and whether a
range is open at the end. -/
def run (r : Rule) (inRange : Bool) : List String → List String × Bool
  | [] => ([], inRange)
  | line :: rest =>
    if inRange then r.run (!r.finish.closes line) rest
    else if r.start.occursIn line then
      if r.finish.isSameLine then r.run false rest
      else
        let (kept, isOpen) := r.run true rest
        (if r.keepStart then line :: kept else kept, isOpen)
    else
      let (kept, isOpen) := r.run false rest
      (line :: kept, isOpen)

/-- The lines that the rule keeps.  A range that no line closes goes on to the end. -/
def apply (r : Rule) (lines : List String) : List String := (r.run false lines).1

/-- Whether the rule leaves a range open at the end of the lines. -/
def leavesOpen (r : Rule) (lines : List String) : Bool := (r.run false lines).2

end Rule

end Compendium
