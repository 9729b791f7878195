import Compendium.Action
import Compendium.Config.Reader
import Compendium.Context
import Compendium.Disk

/-!
# Resolving configurations

A `Resolver` finds configuration files and reads each of them once.  What has been read is kept
under the canonical path of the file, so that a file has one configuration however it is named.
One configuration may be global; where it turns up as that of a directory it does not apply
again.
-/

namespace Compendium

/-- A configuration with the file it was read from. -/
structure LoadedConfig where
  path : Path
  config : Config
deriving DecidableEq

/-- How failures name the file. -/
def LoadedConfig.origin (c : LoadedConfig) : String := c.path.text

/-- What is known about configurations. -/
structure Resolver where
  /-- Where a global configuration is looked for, in order. -/
  searchDirs : List Path
  /-- What has been read, with its key, the latest last. -/
  loaded : List (Path × LoadedConfig)
  globalKey : Option Path

namespace Resolver

/-- A resolver that has read nothing. -/
def empty (searchDirs : List Path) : Resolver := ⟨searchDirs, [], none⟩

/-- Where a global configuration is looked for by default: in the working directory, and then
in and below the home directory. -/
def defaultDirs (here : Path) (home : Option Path) : List Path :=
  here :: match home with
    | none => []
    | some home => [home, home.join ⟨".maid"⟩, home.join ⟨".local/share/maid"⟩,
        home.join ⟨".config/maid"⟩]

/-- How many files have been read. -/
def parsedCount (r : Resolver) : Nat := r.loaded.length

/-- The configuration file of a directory. -/
def findConfig? (d : Disk) (directory : Path) : Option Path :=
  (Config.fileNames.map fun name => directory.entry name.toList).find? d.isFile

/-- The key of a file: its canonical path, or the path itself where it has none. -/
def keyOf (d : Disk) (path : Path) : Path := (d.canonical path).toOption.getD path

/-- What has been read under a key. -/
def lookup? (r : Resolver) (key : Path) : Option LoadedConfig :=
  (r.loaded.find? fun entry => entry.1.same key).map (·.2)

/-- Read a configuration from bytes. -/
def readConfig (path : Path) (bytes : List UInt8) : Except Failure Config :=
  match Text.ofBytes? bytes with
  | none => .error (.configAccess path .notText)
  | some text => (Config.read text).mapError (.configText path)

/-- Read a configuration file. -/
def load {σ : Type} (d : Disk) (path : Path) : Action σ Config := do
  Action.tell (.loading path)
  match d.read path with
  | .error fault => Action.fail (.configAccess path fault)
  | .ok bytes => Action.ofExcept (readConfig path bytes)

/-- The configuration in a file, which is read unless it has been before. -/
def loadOnce (d : Disk) (path : Path) : Action Resolver LoadedConfig := do
  let r ← Action.state
  let key := keyOf d path
  match r.lookup? key with
  | some known => return known
  | none =>
    let config ← load d path
    Action.tell (.parsed path config.patterns.length config.rules.length)
    Action.change fun r => { r with loaded := r.loaded ++ [(key, ⟨path, config⟩)] }
    return ⟨path, config⟩

/-- Take the configuration in a file as the global one. -/
def loadExplicit (d : Disk) (path : Path) : Action Resolver LoadedConfig := do
  let loaded ← loadOnce d path
  Action.change fun r => { r with globalKey := some (keyOf d path) }
  return loaded

/-- Look for a global configuration.  The first file that is there counts, even if it cannot be
read. -/
def loadGlobal (d : Disk) : Action Resolver (Option LoadedConfig) := do
  let r ← Action.state
  match r.searchDirs.findSome? (findConfig? d) with
  | some path =>
    Action.tell (.globalFound path)
    let loaded ← loadExplicit d path
    return some loaded
  | none =>
    Action.tell (.globalMissing r.searchDirs)
    return none

/-- What an action ends with when a configuration file that cannot be accessed counts as none. -/
def orUnreadable (x : Action Resolver LoadedConfig) : Action Resolver (Option LoadedConfig) :=
  fun r =>
    let outcome := x r
    match outcome.result with
    | .error (.configAccess path fault) =>
      ⟨.ok none, outcome.state, outcome.events ++ [.localUnreadable path fault]⟩
    | .error failure => ⟨.error failure, outcome.state, outcome.events⟩
    | .ok loaded => ⟨.ok (some loaded), outcome.state, outcome.events⟩

/-- The configuration of a directory, if it has one that can be read. -/
def loadLocal (d : Disk) (directory : Path) : Action Resolver (Option LoadedConfig) := do
  match findConfig? d directory with
  | none => return none
  | some path =>
    Action.tell (.localFound path directory)
    orUnreadable (loadOnce d path)

/-- Whether a configuration is the global one. -/
def isGlobal (r : Resolver) (d : Disk) (loaded : LoadedConfig) : Bool :=
  r.globalKey.any fun key => key.same (keyOf d loaded.path)

/-- What a directory contributes to the context in it. -/
def contribution (d : Disk) (directory : Path) : Action Resolver Context := do
  match ← loadLocal d directory with
  | none => return .empty
  | some loaded =>
    let r ← Action.state
    if r.isGlobal d loaded then
      Action.tell (.localIsGlobal loaded.path)
      return .empty
    else Action.ofExcept (Context.ofConfig loaded.config directory loaded.origin)

/-- The context in a directory, whose parent has the context `parent`. -/
def extend (d : Disk) (parent : Context) (directory : Path) : Action Resolver Context := do
  return parent.extended (← contribution d directory)

end Resolver

end Compendium
