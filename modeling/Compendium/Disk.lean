import Compendium.Disk.Lookup

/-!
# The disk

What can be asked of a disk, and how it is changed.  All of it goes by paths, which
`Disk.locate` looks up; a fault says why an access is refused.
-/

namespace Compendium.Disk

/-! ### Reading -/

/-- What a path leads to, links being followed. -/
def node? (d : Disk) (path : Path) : Except AccessFault Node := do
  let location ← d.locate .content path
  match d.root.at? location with
  | some node => return node
  | none => throw .notFound

/-- Whether a path leads to a file. -/
def isFile (d : Disk) (path : Path) : Bool := (d.node? path).toOption.any Node.isFile

/-- Whether an entry that is no directory is a regular file or a link to one.  Where a link leads
is found by the path of the entry. -/
def isFileEntry (d : Disk) (path : Path) (node : Node) : Bool := node.isFile || d.isFile path

/-- Whether a path leads to a directory. -/
def isDir (d : Disk) (path : Path) : Bool := (d.node? path).toOption.any Node.isDir

/-- The bytes of the file a path leads to. -/
def read (d : Disk) (path : Path) : Except AccessFault (List UInt8) := do
  match ← d.node? path with
  | .file bytes => return bytes
  | .dir _ => throw .isDirectory
  | .link _ => throw .linkLoop

/-- The absolute path of a location. -/
def pathOf (location : Location) : Path := Path.ofChars ('/' :: Text.join ['/'] location)

/-- The absolute path, without links and steps, of what a path leads to. -/
def canonical (d : Disk) (path : Path) : Except AccessFault Path :=
  (d.locate .content path).map pathOf

/-! ### Changing -/

/-- Whether a step is more than the slash at the end of a path. -/
def isMove (step : Step) : Bool := step ≠ .slash

/-- Make a directory.  The one above it has to be there. -/
def makeDir (d : Disk) (path : Path) : Except AccessFault Disk := do
  let text := path.text.toList
  if text.contains '\x00' then throw .nullInName
  if text = [] then throw .notFound
  if pathLimit < (Text.bytes text).length then throw .nameTooLong
  match ((steps text).filter isMove).reverse with
  | .name n :: above =>
    let parent ← follow d.root .content linkLimit (start text d.here) above.reverse
    match d.root.at? parent with
    | some (.dir entries) =>
      if nameLimit < (Text.bytes n).length then throw .nameTooLong
      if (entries.find? n).isSome then throw .exists
      return { d with root := d.root.putAt .emptyDir (parent ++ [n]) }
    | _ => throw .notDirectory
  | _ =>
    let _ ← d.locate .content path
    throw .exists

/-- Make a directory and what is missing above it, given as the path and those above it.  The
directories that have been made when a fault arises are kept. -/
def makeDirs (d : Disk) : List Path → Except AccessFault Unit × Disk
  | [] => (.ok (), d)
  | path :: above =>
    if path.text.isEmpty then (.ok (), d)
    else match d.makeDir path with
    | .ok d => (.ok (), d)
    | .error .notFound =>
      match makeDirs d above with
      | (.error fault, d) => (.error fault, d)
      | (.ok (), d) =>
        match d.makeDir path with
        | .ok d => (.ok (), d)
        | .error fault => (if d.isDir path then .ok () else .error fault, d)
    | .error fault => (if d.isDir path then .ok () else .error fault, d)

/-- Make a directory and what is missing above it. -/
def makeDirAll (d : Disk) (path : Path) : Except AccessFault Unit × Disk :=
  d.makeDirs path.ancestors

/-- Make the file a path leads to, or empty it, and tell where it is. -/
def createFile (d : Disk) (path : Path) : Except AccessFault (Location × Disk) := do
  let location ← d.locate .making path
  match d.root.at? location with
  | some (.dir _) => throw .isDirectory
  | _ => return (location, { d with root := d.root.putAt (.file []) location })

/-- The disk with other bytes in the file at a location. -/
def withBytes (d : Disk) (location : Location) (bytes : List UInt8) : Disk :=
  { d with root := d.root.putAt (.file bytes) location }

/-! ### Setting up -/

/-- Put a node where a path leads, in the place of what is there.  Missing directories above it
are made. -/
def place (d : Disk) (path : Path) (node : Node) : Except AccessFault Disk := do
  match path.fileName? with
  | none => throw .exists
  | some name =>
    let above := path.parent?.getD ⟨""⟩
    let (made, d) := d.makeDirAll above
    made
    let location ← if above.text.isEmpty then pure d.here else d.locate .content above
    return { d with root := d.root.putAt node (location ++ [name]) }

/-- Take away what is where a path leads: a link itself, and a directory with all that is in
it.  Where there is nothing, nothing is done. -/
def remove (d : Disk) (path : Path) : Disk :=
  match d.locate .entry path with
  | .ok location => { d with root := d.root.removeAt location }
  | .error _ => d

end Compendium.Disk
