import Compendium.Aggregate
import Compendium.Command.Help
import Compendium.Command.Notice
import Compendium.Command.Summary

/-!
# The command

`Command.run` is the whole command as a function: from a disk, a home directory and arguments
to an exit code, what is written to the two standard streams, and the disk afterwards.
-/

namespace Compendium.Command

/-- The version of the command. -/
def version : String := "0.1.0"

/-- What the header of a document names as its maker. -/
def generator : String := "maid v" ++ version

/-! ### Complaints -/

/-- A failure that ends the command, and what the command was about to do. -/
structure Complaint where
  task : Option String
  failure : Failure

namespace Complaint

/-- The wording of a complaint.  The cause of the failure follows it once more. -/
def message (c : Complaint) : String :=
  String.intercalate ": " (c.task.toList ++ [c.failure.message] ++ c.failure.cause?.toList)

/-- The exit code: one for what is wrong in configurations, patterns and rules, two for what
cannot be accessed, and five for blank paths. -/
def exitCode (c : Complaint) : Nat :=
  match c.failure with
  | .configText .. | .configAccess .. | .pattern .. | .rule .. => 1
  | .reading .. | .writing .. | .walking .. => 2
  | .emptyPath .. => 5

end Complaint

/-! ### A run -/

/-- The state of a run. -/
structure Work where
  disk : Disk
  resolver : Resolver
  /-- The document, once it is open. -/
  sink : Option Sink
  /-- What has been told, in order. -/
  notices : List Notice

/-- A part of a run.  The state is kept when it fails. -/
abbrev Job (α : Type) : Type := ExceptT Complaint (StateM Work) α

namespace Job

/-- Tell a notice. -/
def tell (n : Notice) : Job Unit := modify fun w => { w with notices := w.notices ++ [n] }

/-- Complain about a failure. -/
def orComplain {α : Type} (task : Option String) (r : Except Failure α) : Job α :=
  match r with
  | .ok a => return a
  | .error failure => throw ⟨task, failure⟩

/-- Run an action and tell its events. -/
def perform {σ α : Type} (task : String) (part : Work → σ) (replace : Work → σ → Work)
    (x : Action σ α) : Job α := do
  let outcome := x (part (← get))
  modify fun w =>
    { replace w outcome.state with notices := w.notices ++ outcome.events.map .event }
  orComplain (some task) outcome.result

end Job

/-- A path that starts with `~`, seen from the home directory. -/
def expandTilde (home : Option Path) (raw : String) : String :=
  match raw.toList, home with
  | ['~'], some home => home.text
  | '~' :: '/' :: rest, some home => home.text ++ String.ofList ('/' :: rest)
  | _, _ => raw

/-- The path that an argument names.  It must not be blank. -/
def expandPath (home : Option Path) (raw : String) : Except Failure Path :=
  let text := expandTilde home raw
  if text.toList.all Text.isBlank then .error (.emptyPath raw) else .ok ⟨text⟩

/-- Load the global configuration that the settings ask for. -/
def loadGlobal (home : Option Path) (s : Settings) : Job (Option LoadedConfig) := do
  let disk := (← get).disk
  let resolving {α : Type} (task : String) (x : Action Resolver α) : Job α :=
    Job.perform task (·.resolver) (fun w r => { w with resolver := r }) x
  if s.noGlobalConfig then
    Job.tell .globalDisabled
    return none
  else match s.config with
  | some raw =>
    let path ← Job.orComplain none (expandPath home raw)
    let loaded ← resolving ("Failed to load configuration " ++ path.text)
      (Resolver.loadExplicit disk path)
    return some loaded
  | none => resolving "Failed to load global configuration" (Resolver.loadGlobal disk)

/-- The scope that the settings ask for. -/
def makeScope (s : Settings) (config : Option LoadedConfig) : Job Scope := do
  let builtin := if s.noBuiltinIgnore then [] else builtinPatterns
  let scope ← Job.orComplain (some "Invalid ignore pattern")
    (Scope.make builtin config s.blacklist)
  Job.tell (.patterns scope.patternTexts)
  return scope

/-- Where the document goes: to a file, or to standard output. -/
def destination (home : Option Path) (s : Settings) : Except Failure (Option Path) :=
  if s.stdout then .ok none else (expandPath home s.outputFile).map some

/-- Make the directories above a file. -/
def makeRoom (path : Path) : Job Unit := do
  match path.parent? with
  | none => return
  | some above =>
    if above.text.isEmpty then return
    let (made, disk) := (← get).disk.makeDirAll above
    modify fun w => { w with disk := disk }
    match made with
    | .ok () => return
    | .error fault => throw ⟨none, .writing above fault⟩

/-- Open the document. -/
def openDocument : Option Path → Job Unit
  | none =>
    modify fun w => { w with sink := some (.empty .console ⟨"<stdout>"⟩ generator) }
  | some path => do
    makeRoom path
    match (← get).disk.createFile path with
    | .error fault => throw ⟨none, .writing path fault⟩
    | .ok (location, disk) =>
      modify fun w =>
        { w with disk := disk, sink := some (.empty (.file location) path generator) }
      Job.tell (.opened path)

/-- Write the document. -/
def writeDocument (scope : Scope) (s : Settings) (target : Option Path) : Job Report := do
  let w ← get
  match w.sink with
  | none => return .empty
  | some sink =>
    Job.perform "Aggregation failed"
      (fun w => Scan.start w.resolver sink)
      (fun w scan => { w with resolver := scan.resolver, sink := some scan.sink })
      (Scan.aggregate w.disk scope (s.paths.map Path.mk) target)

/-- A run: its report, and where the document went. -/
def aggregate (home : Option Path) (s : Settings) : Job (Report × Option Path) := do
  let config ← loadGlobal home s
  let scope ← makeScope s config
  let target ← Job.orComplain none (destination home s)
  openDocument target
  let report ← writeDocument scope s target
  return (report, target)

/-! ### The outcome -/

/-- What the command leaves. -/
structure Result where
  code : Nat
  stdout : List UInt8
  stderr : String
  disk : Disk

/-- The disk after a run: what was pending has gone to the document. -/
def Work.finalDisk (w : Work) : Disk :=
  match w.sink with
  | some sink => sink.drained.seenDisk w.disk
  | none => w.disk

/-- What a run has written of a document that goes to standard output. -/
def Work.printed (w : Work) : List UInt8 :=
  match w.sink with
  | some sink => if sink.outlet = .console then sink.drained.accepted else []
  | none => []

/-- What a run leaves, given how it ended. -/
def conclude (s : Settings) (ended : Except Complaint (Report × Option Path)) (w : Work) :
    Result :=
  let before := Notice.forms s w.notices
  match ended with
  | .error complaint =>
    let code := complaint.exitCode
    ⟨code, w.printed,
      before ++ "Error: " ++ complaint.message ++ "\n" ++ Notice.forms s [.exiting code],
      w.finalDisk⟩
  | .ok (report, target) =>
    let named := if s.quiet then "" else (target.map Summary.created).getD ""
    ⟨0, w.printed ++ Text.bytesOf named,
      before ++ (if s.quiet then "" else Summary.text report s.listFiles)
        ++ Notice.forms s [.finished, .exiting 0],
      w.finalDisk⟩

/-- Run with settings. -/
def runSettings (d : Disk) (home : Option Path) (s : Settings) : Result :=
  let here := Disk.pathOf d.here
  let homeless := if home.isSome then [] else [Notice.event .noHome]
  let w : Work :=
    ⟨d, .empty (Resolver.defaultDirs here home), none, .settings s :: homeless⟩
  let (ended, w) := (aggregate home s).run.run w
  conclude s ended w

/-- The command. -/
def run (d : Disk) (home : Option Path) (arguments : List String) : Result :=
  match Settings.read arguments with
  | .run s => runSettings d home s
  | .help long => ⟨0, Text.bytesOf (Help.text long), "", d⟩
  | .version => ⟨0, Text.bytesOf ("maid-cli " ++ version ++ "\n"), "", d⟩
  | .misuse => ⟨2, [], Help.usage ++ "\n", d⟩

end Compendium.Command
