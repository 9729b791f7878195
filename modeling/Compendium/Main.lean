import Compendium.Command

/-!
# The program

The program copies what a run may look at from the system to a `Disk`, runs the command on it,
and carries back what the command has made.
-/

namespace Compendium.Program

/-- The text of the absolute path of a location. -/
def textOf (location : Location) : String := (Disk.pathOf location).text

/-- What a link leads to, and a name that no file has where it leads nowhere. -/
def targetOf (path : String) : IO (List Char) := do
  try
    return (← IO.FS.realPath path).toString.toList
  catch _ =>
    return ['/', '\x00']

/-- Copy an entry of a directory, without what is in it if it is a directory.  What is no
directory and cannot be read as a file counts as a link that leads nowhere. -/
def copyEntry (entry : IO.FS.DirEntry) : IO Node := do
  try
    match (← entry.path.symlinkMetadata).type with
    | .dir => return .emptyDir
    | .file => return .file (← IO.FS.readBinFile entry.path).toList
    | .symlink => return .link (← targetOf entry.path.toString)
    | .other => return .link ['/', '\x00']
  catch _ =>
    return .link ['/', '\x00']

/-- The entries of the directory at a location, none if it cannot be listed. -/
def list (here : Location) : IO (List IO.FS.DirEntry) := do
  try
    let directory ← IO.FS.realPath (textOf here)
    return (← directory.readDir).toList
  catch _ =>
    return []

/-- Copy all that is in the directory at a location. -/
partial def copyBelow (here : Location) : IO Node := do
  let mut entries := Entries.nil
  for entry in ← list here do
    let name := entry.fileName.toList
    let node ← copyEntry entry
    let node ← if node.isDir then copyBelow (here ++ [name]) else pure node
    entries := entries.put name node
  return .dir entries

/-- Copy what the steps of a path lead over, and all that is below its end if `deep` holds. -/
partial def reveal (deep : Bool) (links : Nat) (root : Node) (here : Location) :
    List Disk.Step → IO Node
  | [] =>
    if deep && (root.at? here).any Node.isDir then
      return root.putAt (← copyBelow here) here
    else return root
  | .stay :: rest | .slash :: rest => reveal deep links root here rest
  | .up :: rest => reveal deep links root here.dropLast rest
  | .name n :: rest => do
    let location := here ++ [n]
    let root ← if (root.at? location).isSome then pure root
      else match (← list here).find? fun entry => entry.fileName.toList = n with
        | some entry => do pure (root.putAt (← copyEntry entry) location)
        | none => pure root
    match root.at? location, links with
    | none, _ => return root
    | some (.link target), links + 1 =>
      reveal deep links root (Disk.start target here) (Disk.steps target ++ rest)
    | some _, _ => reveal deep links root location rest

/-- Copy what a path leads to. -/
def revealPath (deep : Bool) (d : Disk) (path : Path) : IO Disk := do
  let text := path.text.toList
  let root ← reveal deep Disk.linkLimit d.root (Disk.start text d.here) (Disk.steps text)
  return { d with root := root }

/-- Copy what the links in a tree lead to. -/
partial def revealLinks (d : Disk) (here : Location) : Entries → IO Disk
  | .nil => return d
  | .cons name node rest => do
    let d ← match node with
      | .dir entries => revealLinks d (here ++ [name]) entries
      | .link _ => revealPath false d (Disk.pathOf (here ++ [name]))
      | .file _ => pure d
    revealLinks d here rest

/-- Copy what a run with settings may look at. -/
def gather (home : Option Path) (s : Command.Settings) : IO Disk := do
  let here := Disk.steps (← IO.currentDir).toString.toList
  let location := here.filterMap fun step =>
    match step with
    | .name n => some n
    | _ => none
  let mut d : Disk := ⟨Node.emptyDir.putAt .emptyDir location, location⟩
  for directory in Resolver.defaultDirs (Disk.pathOf location) home do
    for name in Config.fileNames do
      d ← revealPath false d (directory.entry name.toList)
  for raw in s.config.toList ++ [s.outputFile] do
    d ← revealPath false d ⟨Command.expandTilde home raw⟩
  for path in s.paths do
    d ← revealPath true d ⟨path⟩
    match d.locate .content ⟨path⟩ with
    | .ok found =>
      match d.root.at? found with
      | some (.dir entries) => d ← revealLinks d found entries
      | _ => pure ()
    | .error _ => pure ()
  return d

/-- Carry back the directories and the document that a run has made. -/
def carryBack (home : Option Path) (s : Command.Settings) (old new : Disk) : IO Unit := do
  let target : Path := ⟨Command.expandTilde home s.outputFile⟩
  for above in target.ancestors.reverse do
    if new.isDir above && !old.isDir above then IO.FS.createDirAll above.text
  match new.read target with
  | .ok bytes =>
    if (old.read target).toOption ≠ some bytes then
      IO.FS.writeBinFile target.text ⟨bytes.toArray⟩
  | .error _ => return

/-- Run with settings, and tell the exit code. -/
def runSettings (home : Option Path) (s : Command.Settings) : IO Command.Result := do
  let d ← gather home s
  let result := Command.runSettings d home s
  if !s.stdout then carryBack home s d result.disk
  return result

end Compendium.Program

/-- The program. -/
def main (arguments : List String) : IO UInt32 := do
  let home := (← IO.getEnv "HOME").map Compendium.Path.mk
  let result ← match Compendium.Command.Settings.read arguments with
    | .run s => Compendium.Program.runSettings home s
    | _ => pure (Compendium.Command.run ⟨.emptyDir, []⟩ home arguments)
  (← IO.getStdout).write ⟨result.stdout.toArray⟩
  (← IO.getStderr).putStr result.stderr
  return result.code.toUInt32
