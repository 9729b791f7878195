import Compendium.Content
import Compendium.Report
import Compendium.Resolver
import Compendium.Sink

/-!
# Scanning

A scan goes down a directory: first through the files of a directory and then through the
directories in it, each by name.  Every directory has a context of its own, which says what is
ignored in it and which rules its files are for.  What is not ignored goes to a sink, and a
`Report` is kept of what became of each entry.
-/

namespace Compendium

/-- The state of a scan. -/
structure Scan where
  resolver : Resolver
  sink : Sink
  /-- The canonical paths of files that must not get into the document. -/
  excluded : List Path
  report : Report

namespace Scan

/-- A scan that has seen nothing. -/
def start (resolver : Resolver) (sink : Sink) : Scan := ⟨resolver, sink, [], .empty⟩

/-- Run an action of the resolver. -/
def resolving {α : Type} (x : Action Resolver α) : Action Scan α :=
  Action.within (·.resolver) (fun s r => { s with resolver := r }) x

/-- Run an action of the sink. -/
def sinking {α : Type} (x : Action Sink α) : Action Scan α :=
  Action.within (·.sink) (fun s k => { s with sink := k }) x

/-- Change the report. -/
def reporting (f : Report → Report) : Action Scan Unit :=
  Action.change fun s => { s with report := f s.report }

/-- The disk as the scan sees it. -/
def seenDisk (d : Disk) : Action Scan Disk := do
  let s ← Action.state
  return s.sink.seenDisk d

/-- Keep a file out of the document, if it is there. -/
def exclude (d : Disk) (path : Path) : Action Scan Unit := do
  match (← seenDisk d).canonical path with
  | .ok key => Action.change fun s => { s with excluded := s.excluded ++ [key] }
  | .error fault => Action.tell (.notExcludable path fault)

/-- Whether a file is kept out of the document.  The names are compared first. -/
def isExcluded (s : Scan) (d : Disk) (path : Path) : Bool :=
  s.excluded.any fun key =>
    key.fileName? = path.fileName? && (d.canonical path).toOption = some key

/-- Note a failure that does not end the scan. -/
def note (failure : Failure) : Action Scan Unit := do
  Action.tell (.noted failure)
  reporting (·.note failure)

/-- What rules tell while they run over the lines of a file, one after the other. -/
def ruleEvents (path : Path) (rules : List Rule) (lines : List String) : List Event :=
  (RuleSet.stages rules lines).flatMap fun (rule, given, _) =>
    .applying rule.name rule.pattern path
      :: if rule.leavesOpen given then [.openAtEnd rule.name] else []

/-- Run the rules of a context over the lines of a file. -/
def filtering (context : Context) (path : Path) (lines : List String) :
    Action Scan Filtered := do
  Action.tellAll (ruleEvents path (context.rules.applicable path) lines)
  return context.rules.filter path lines

/-- Put the content of a file into the document.  The rules see the file at `relative`, its
path from the root of the scan. -/
def includeContent (path relative : Path) (context : Context) :
    Content → Action Scan Inclusion
  | .binary size => do
    Action.tell (.includingBinary path size)
    sinking (Sink.writeBinary path size)
    return .binary size
  | .text content => do
    Action.tell (.includingText path)
    let left ← filtering context relative (Text.linesOf content)
    sinking (Sink.writeText path left.lines)
    return .text left.lines.length left.removed left.applied

/-- Put a file into the document, unless it is kept out of it or cannot be read. -/
def includeFile (d : Disk) (path relative : Path) (context : Context) : Action Scan Unit := do
  let seen ← seenDisk d
  if (← Action.state).isExcluded seen path then
    Action.tell (.ownDocument path)
    reporting (·.skip path)
  else match seen.read path with
  | .error fault => note (.reading path fault)
  | .ok bytes =>
    let how ← includeContent path relative context (.ofBytes bytes)
    reporting (·.add path how)

/-- Skip an entry because of a pattern. -/
def ignore (path : Path) (isDir : Bool) (because : ScopedPattern) : Action Scan Unit := do
  Action.tell (.ignoring path isDir because.pattern.text because.base)
  reporting (·.skip path)

/-- Who says because of which pattern of a set an entry is ignored. -/
abbrev Judge : Type := PatternSet → Path → Bool → Action Scan (Option ScopedPattern)

/-- The judge who goes by the patterns. -/
def byPatterns : Judge := fun patterns path isDir => pure (patterns.ignoredBy? path isDir)

/-- What a judge who goes by the patterns says is known at once. -/
@[simp]
theorem byPatterns_bind {α : Type} (patterns : PatternSet) (path : Path) (isDir : Bool)
    (f : Option ScopedPattern → Action Scan α) :
  byPatterns patterns path isDir >>= f = f (patterns.ignoredBy? path isDir)
  := rfl

/-! ### Directories and files

Each test of a path is left to a judge.  A scan asks the one who goes by the patterns. -/

section

variable (judge : Judge) (d : Disk)

/-- Visit an entry that is no directory.  A link counts if it leads to a file. -/
def visitFile (context : Context) (path relative : Path) (node : Node) : Action Scan Unit := do
  match ← judge context.patterns path false with
  | some because => ignore path false because
  | none =>
    if (← seenDisk d).isFileEntry path node then includeFile d path relative context
    else Action.tell (.notRegular path)

/-- Visit the entries of a directory that are no directories.  The names `down` lead from the
root of the scan to the directory. -/
def visitFiles (context : Context) (path : Path) (down : List Name) :
    Entries → Action Scan Unit
  | .nil => return
  | .cons name node rest => do
    if !node.isDir then
      visitFile judge d context (path.entry name) (.ofNames (down ++ [name])) node
    visitFiles context path down rest

/-- Visit the directories among the entries of a directory, and what is in them.  A directory
whose path leads nowhere, as one that is too long does, cannot be listed. -/
def visitDirs (context : Context) (path : Path) (down : List Name) :
    Entries → Action Scan Unit
  | .nil => return
  | .cons name (.dir entries) rest => do
    let inner := path.entry name
    match ← judge context.patterns inner true with
    | some because => ignore inner true because
    | none =>
      let seen ← seenDisk d
      let context ← resolving (Resolver.extend seen context inner)
      match seen.node? inner with
      | .error fault => note (.walking inner fault)
      | .ok _ =>
        visitFiles judge d context inner (down ++ [name]) entries
        visitDirs context inner (down ++ [name]) entries
    visitDirs context path down rest
  | .cons _ _ rest => visitDirs context path down rest

/-- The entries of the root of a scan.  A link at the end of its path is followed, and a path
that leads to a file has none. -/
def rootEntries (root : Path) : Except AccessFault Entries := do
  let _ ← d.locate .entry root
  match ← d.node? root with
  | .dir entries => return entries
  | _ => return .nil

/-- Scan the directory at a path; `above` is the context it is seen in. -/
def directoryBy (root : Path) (above : Context) : Action Scan Unit := do
  Action.tell (.scanning root)
  let seen ← seenDisk d
  let context ← resolving (Resolver.extend seen above root)
  match rootEntries seen root with
  | .error fault => note (.walking root fault)
  | .ok entries =>
    visitFiles judge d context root [] entries
    visitDirs judge d context root [] entries

/-- Scan a file that was asked for by its path. -/
def fileBy (path : Path) (context : Context) : Action Scan Unit := do
  match ← judge context.patterns path false with
  | some _ =>
    Action.tell (.ignoringArgument path)
    reporting (·.skip path)
  | none =>
    let relative := (path.fileName?.map Path.ofChars).getD path
    includeFile d path relative context

end

/-- Scan the directory at a path by the patterns; `above` is the context it is seen in. -/
def directory (d : Disk) (root : Path) (above : Context) : Action Scan Unit :=
  directoryBy byPatterns d root above

/-- Scan a file that was asked for by its path, by the patterns. -/
def file (d : Disk) (path : Path) (context : Context) : Action Scan Unit :=
  fileBy byPatterns d path context

end Scan

end Compendium
