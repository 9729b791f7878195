/-!
# Trees of files

A `Node` is a file, a symbolic link or a directory.  The `Entries` of a directory have names,
and are kept in the order of their names.  A `Location` leads from the top of a tree down to
one of its nodes; `Node.at?` reads the node there, and `Node.putAt` and `Node.removeAt` change
it.
-/

namespace Compendium

/-- The name of an entry of a directory. -/
abbrev Name : Type := List Char

mutual

/-- A node of a tree of files. -/
inductive Node where
  | file (bytes : List UInt8)
  | link (target : List Char)
  | dir (entries : Entries)

/-- The entries of a directory. -/
inductive Entries where
  | nil
  | cons (name : Name) (node : Node) (rest : Entries)

end

/-- The names that lead from the top of a tree to a node. -/
abbrev Location : Type := List Name

namespace Entries

/-- The entries as a list. -/
def toList : Entries → List (Name × Node)
  | .nil => []
  | .cons name node rest => (name, node) :: rest.toList

/-- The entry of a name. -/
def find? (name : Name) : Entries → Option Node
  | .nil => none
  | .cons other node rest => if name = other then some node else rest.find? name

/-- The entries with one put in, in its place by name. -/
def put (name : Name) (node : Node) : Entries → Entries
  | .nil => .cons name node .nil
  | .cons other old rest =>
    if name = other then .cons name node rest
    else if name < other then .cons name node (.cons other old rest)
    else .cons other old (rest.put name node)

/-- The entries without that of a name. -/
def remove (name : Name) : Entries → Entries
  | .nil => .nil
  | .cons other old rest =>
    if name = other then rest else .cons other old (rest.remove name)

end Entries

namespace Node

/-- The empty directory. -/
def emptyDir : Node := .dir .nil

/-- Whether the node is a directory. -/
def isDir : Node → Bool
  | .dir _ => true
  | _ => false

/-- Whether the node is a file. -/
def isFile : Node → Bool
  | .file _ => true
  | _ => false

/-- The entry of a name, in a directory. -/
def entry? (node : Node) (name : Name) : Option Node :=
  match node with
  | .dir entries => entries.find? name
  | _ => none

/-- The node at a location. -/
def at? (node : Node) : Location → Option Node
  | [] => some node
  | name :: rest => (node.entry? name).bind fun below => below.at? rest

/-- The tree with a node put at a location, and directories above it where there was nothing.
A file or a link on the way leaves the tree as it is. -/
def putAt (node new : Node) : Location → Node
  | [] => new
  | name :: rest =>
    match node with
    | .dir entries =>
      .dir (entries.put name (((entries.find? name).getD emptyDir).putAt new rest))
    | other => other

/-- The tree without the node at a location. -/
def removeAt (node : Node) : Location → Node
  | [] => node
  | [name] =>
    match node with
    | .dir entries => .dir (entries.remove name)
    | other => other
  | name :: rest =>
    match node with
    | .dir entries =>
      match entries.find? name with
      | some below => .dir (entries.put name (below.removeAt rest))
      | none => .dir entries
    | other => other

end Node

end Compendium
