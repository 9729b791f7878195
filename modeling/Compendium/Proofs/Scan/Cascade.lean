import Mathlib.Data.List.Infix
import Compendium.Proofs.Context
import Compendium.Proofs.Scan.Reach
import Compendium.Proofs.Scan.Selection

/-!
# How configurations cascade

In a directory that a scan enters there apply, in this order, what the scope says and what the
directories on the way down say by configuration files of their own.  A configuration file is no
directory's own if it leads to the file that is selected for the scope.  So what this file says
applies once, although the scan may come upon it again under other names and by links, and
although it may have been read by any of these first.
-/

namespace Compendium

namespace Resolver

/-! ### What a directory says of its own -/

/-- What the configuration file of a directory says, if it can be read and does not lead to the
file at `globalFile`. -/
def ownConfig? (d : Disk) (globalFile directory : Path) : Option Config :=
  (findConfig? d directory).bind fun file =>
    if (d.canonical file).toOption = (d.canonical globalFile).toOption then none
    else (configIn d file).toOption.join

/-- The patterns that a directory adds to those above it. -/
def ownPatterns (d : Disk) (globalFile directory : Path) : List ScopedPattern :=
  (ownConfig? d globalFile directory).toList.flatMap fun config =>
    patternsOn directory config.patterns

/-- The rules that a directory adds to those above it. -/
def ownRules (d : Disk) (globalFile directory : Path) : List Rule :=
  (ownConfig? d globalFile directory).toList.flatMap fun config => rulesOn config.rules

section

variable {d : Disk}

/-- Two paths to files have the same key if they lead to one file. -/
theorem same_keyOf_iff (hd : d.WellFormed) {path path' : Path} (h : d.isFile path = true)
    (h' : d.isFile path' = true) :
  (keyOf d path).same (keyOf d path') = true
    ↔ (d.canonical path).toOption = (d.canonical path').toOption
  := by
  have hkey := canonical_of_isFile h
  have hkey' := canonical_of_isFile h'
  obtain ⟨l, hl, heq⟩ := Disk.canonical_eq_ok_iff.mp hkey
  obtain ⟨l', hl', heq'⟩ := Disk.canonical_eq_ok_iff.mp hkey'
  obtain ⟨-, -, hv⟩ := hd.exists_of_locate hl
  obtain ⟨-, -, hv'⟩ := hd.exists_of_locate hl'
  rw [hkey, hkey', ← heq, ← heq', Disk.same_pathOf_iff hv hv']
  simp [Except.toOption, Disk.pathOf_inj hv hv']

/-- The file that is asked for, where it can be found, is the one that has been read. -/
theorem Selection.Sound.canonical_eq (hd : d.WellFormed) {s : Selection} (hs : s.Sound d)
    {key : Path} (h : d.canonical s.file = .ok key) :
  d.canonical s.loaded.path = .ok key
  := by
  have hloaded := canonical_of_isFile (isFile_of_configIn hs.config)
  have hkey : keyOf d s.file = key := by
    rw [keyOf, h]
    rfl
  have hsame := hs.same
  obtain ⟨l, hl, heq⟩ := Disk.canonical_eq_ok_iff.mp hloaded
  obtain ⟨l', hl', heq'⟩ := Disk.canonical_eq_ok_iff.mp h
  obtain ⟨-, -, hv⟩ := hd.exists_of_locate hl
  obtain ⟨-, -, hv'⟩ := hd.exists_of_locate hl'
  rw [hkey, ← heq, ← heq', Disk.same_pathOf_iff hv hv'] at hsame
  rw [hloaded, ← heq, ← heq', hsame]

/-- What a directory contributes is what it says of its own, if the global key is that of the
file which is selected. -/
theorem ownContext_eq_ok (hd : d.WellFormed) {s : Selection} (hs : s.Sound d)
    {directory : Path} {own : Context}
    (h : ownContext d (some (keyOf d s.file)) directory = .ok own) :
  own.patterns.patterns = ownPatterns d s.loaded.path directory
    ∧ own.rules.rules = ownRules d s.loaded.path directory
  := by
  rw [ownContext] at h
  rw [ownPatterns, ownRules, ownConfig?]
  cases hfind : findConfig? d directory with
  | none =>
    rw [hfind] at h
    obtain rfl := Except.ok.inj h
    constructor
    · rfl
    · rfl
  | some file =>
    have hglobal : (keyOf d s.file).same (keyOf d file) = true
        ↔ (d.canonical file).toOption = (d.canonical s.loaded.path).toOption := by
      rw [eq_comm (a := (d.canonical file).toOption),
        ← same_keyOf_iff hd (isFile_of_configIn hs.config) (isFile_of_findConfig? hfind)]
      use Path.same_trans hs.same
      apply Path.same_trans (Path.same_symm hs.same)
    simp only [hfind, Option.any_some, hglobal] at h
    simp only [Option.bind_some]
    cases hconfig : configIn d file with
    | error failure => simp [hconfig] at h
    | ok found =>
      rw [hconfig] at h
      by_cases hsame : (d.canonical file).toOption = (d.canonical s.loaded.path).toOption
      · obtain rfl : Context.empty = own := by cases found <;> simpa [hsame] using h
        rw [if_pos hsame]
        constructor
        · rfl
        · rfl
      · rw [if_neg hsame]
        cases found with
        | none =>
          obtain rfl := Except.ok.inj h
          constructor
          · rfl
          · rfl
        | some config =>
          dsimp only at h
          rw [if_neg hsame] at h
          obtain ⟨hpatterns, hrules⟩ := of_ofConfig_eq_ok h
          rw [hpatterns, hrules]
          simp [Except.toOption]

end

end Resolver

namespace Scan

/-! ### Directories that are entered -/

/-- The directories that a scan enters: names lead to each of them from the root, and it has a
context and entries.  A directory is entered if the context above it does not ignore it, its
configuration can be used, and it can be listed. -/
inductive Enters (d : Disk) (globalKey : Option Path) (root : Path) (above : Context) :
    List Name → Context → Entries → Prop
  | root {own : Context} {entries : Entries}
    (hown : Resolver.ownContext d globalKey root = .ok own)
    (hentries : rootEntries d root = .ok entries) :
    Enters d globalKey root above [] (above.extended own) entries
  | further {names : List Name} {context : Context} {entries : Entries} {name : Name}
    {inner : Entries} {own : Context} {node : Node}
    (h : Enters d globalKey root above names context entries)
    (hmem : (name, .dir inner) ∈ entries.toList)
    (hkept : context.patterns.isIgnored ((root.down names).entry name) true = false)
    (hown : Resolver.ownContext d globalKey ((root.down names).entry name) = .ok own)
    (hlisted : d.node? ((root.down names).entry name) = .ok node) :
    Enters d globalKey root above (names ++ [name]) (context.extended own) inner

/-- The visit to an entry of a directory that has a context, if there is one.  To a directory
there is one only if it is not entered. -/
def entryVisits (d : Disk) (globalKey : Option Path) (context : Context) (path relative : Path)
    (node : Node) : List Visit :=
  if node.isDir then
    if context.patterns.isIgnored path true then [.ignored path]
    else match Resolver.ownContext d globalKey path, d.node? path with
    | .error failure, _ => [.broken path failure]
    | .ok _, .error fault => [.unlisted path fault]
    | .ok _, .ok _ => []
  else fileVisits d context path relative node

/-- The visit to the root of a scan, if that cannot be entered. -/
def rootVisits (d : Disk) (globalKey : Option Path) (root : Path) : List Visit :=
  match Resolver.ownContext d globalKey root, rootEntries d root with
  | .error failure, _ => [.broken root failure]
  | .ok _, .error fault => [.unlisted root fault]
  | .ok _, .ok _ => []

section

variable {d : Disk} {globalKey : Option Path} {root : Path} {above : Context} {visit : Visit}

/-- A visit in a directory is made to the directory itself, or to what is in it when it is
entered. -/
theorem mem_nodeVisits_iff {context : Context} {path : Path} {down : List Name}
    {inner : Entries} (relative : Path) :
  visit ∈ nodeVisits d globalKey context path down (.dir inner)
    ↔ visit ∈ entryVisits d globalKey context path relative (.dir inner)
      ∨ context.patterns.isIgnored path true = false
        ∧ ∃ own node, Resolver.ownContext d globalKey path = .ok own ∧ d.node? path = .ok node
          ∧ visit ∈ entriesVisits d globalKey (context.extended own) path down inner
  := by
  rw [nodeVisits_dir, entryVisits, Node.isDir, if_pos rfl]
  cases context.patterns.isIgnored path true with
  | true => simp
  | false =>
    cases Resolver.ownContext d globalKey path with
    | error failure => simp
    | ok own => cases d.node? path <;> simp

/-- Each visit in a directory that is entered is made to an entry of a directory that is
entered. -/
theorem exists_enters {names : List Name} {context : Context} :
  ∀ {entries : Entries}, Enters d globalKey root above names context entries →
    visit ∈ entriesVisits d globalKey context (root.down names) names entries →
      ∃ names context entries name node, Enters d globalKey root above names context entries
        ∧ (name, node) ∈ entries.toList
        ∧ visit ∈ entryVisits d globalKey context ((root.down names).entry name)
          (.ofNames (names ++ [name])) node
  | entries, henters, hvisit => by
    rw [entriesVisits, List.mem_append, mem_filesVisits_iff, mem_dirsVisits_iff] at hvisit
    rcases hvisit with ⟨name, node, hmem, hnode, hvisit⟩ | ⟨name, node, hmem, hvisit⟩
    · use names, context, entries, name, node, henters, hmem
      rwa [entryVisits, hnode, if_neg (by simp)]
    · cases node with
      | file bytes => simp [nodeVisits] at hvisit
      | link target => simp [nodeVisits] at hvisit
      | dir inner =>
        rcases (mem_nodeVisits_iff (.ofNames (names ++ [name]))).mp hvisit with
          hhere | ⟨hkept, own, node, hown, hlisted, hinner⟩
        · use names, context, entries, name, .dir inner
        · -- The entries get smaller on the way down, while the names lead on from the root.
          have hsize := sizeOf_lt_of_mem hmem
          rw [← Path.down_concat] at hinner
          apply exists_enters (henters.further hmem hkept hown hlisted) hinner
termination_by entries => sizeOf entries

/-- What is visited in a directory that is entered is visited by the scan. -/
theorem Enters.visits_subset {names : List Name} {context : Context} {entries : Entries}
    (h : Enters d globalKey root above names context entries)
    (hvisit : visit ∈ entriesVisits d globalKey context (root.down names) names entries) :
  visit ∈ directoryVisits d globalKey root above
  := by
  induction h with
  | root hown hentries =>
    rw [directoryVisits, hown, hentries]
    apply hvisit
  | @further names context entries name inner own node h hmem hkept hown hlisted ih =>
    apply ih
    rw [Path.down_concat] at hvisit
    apply List.mem_append_right
    apply mem_dirsVisits_iff.mpr
    use name, .dir inner, hmem
    apply (mem_nodeVisits_iff (.ofNames (names ++ [name]))).mpr
    right
    use hkept, own, node, hown, hlisted, hvisit

/-- A visit to an entry is one of those in the directory that holds it. -/
theorem mem_entriesVisits {context : Context} {path : Path} {down : List Name}
    {entries : Entries} {name : Name} {node : Node} (hmem : (name, node) ∈ entries.toList)
    (hvisit : visit ∈ entryVisits d globalKey context (path.entry name) (.ofNames (down ++ [name]))
      node) :
  visit ∈ entriesVisits d globalKey context path down entries
  := by
  rw [entriesVisits, List.mem_append, mem_filesVisits_iff, mem_dirsVisits_iff]
  cases hnode : node.isDir with
  | false =>
    left
    use name, node, hmem, hnode
    rwa [entryVisits, hnode, if_neg (by simp)] at hvisit
  | true =>
    right
    use name, node, hmem
    cases node with
    | dir inner => apply (mem_nodeVisits_iff _).mpr (.inl hvisit)
    | file bytes => simp [Node.isDir] at hnode
    | link target => simp [Node.isDir] at hnode

/-- A scan visits the entries of the directories that it enters, each in the context of the
directory that holds it. -/
theorem mem_directoryVisits_iff :
  visit ∈ directoryVisits d globalKey root above
    ↔ visit ∈ rootVisits d globalKey root
      ∨ ∃ names context entries name node, Enters d globalKey root above names context entries
        ∧ (name, node) ∈ entries.toList
        ∧ visit ∈ entryVisits d globalKey context ((root.down names).entry name)
          (.ofNames (names ++ [name])) node
  := by
  constructor
  · intro hvisit
    rw [directoryVisits] at hvisit
    rw [rootVisits]
    cases hown : Resolver.ownContext d globalKey root with
    | error failure =>
      left
      simpa [hown] using hvisit
    | ok own =>
      cases hentries : rootEntries d root with
      | error fault =>
        left
        simpa [hown, hentries] using hvisit
      | ok entries =>
        right
        rw [hown, hentries] at hvisit
        apply exists_enters (.root hown hentries) hvisit
  · rintro (hvisit | ⟨names, context, entries, name, node, henters, hmem, hvisit⟩)
    · rw [rootVisits] at hvisit
      rw [directoryVisits]
      cases hown : Resolver.ownContext d globalKey root with
      | error failure => simpa [hown] using hvisit
      | ok own =>
        cases hentries : rootEntries d root with
        | error fault => simpa [hown, hentries] using hvisit
        | ok entries => simp [hown, hentries] at hvisit
    · apply henters.visits_subset (mem_entriesVisits hmem hvisit)

/-- In a directory that is entered there apply the patterns and rules of the directories on the
way down, after those from above. -/
theorem Enters.cascade (hd : d.WellFormed) {s : Resolver.Selection} (hs : s.Sound d)
    {names : List Name} {context : Context} {entries : Entries}
    (h : Enters d (some (Resolver.keyOf d s.file)) root above names context entries) :
  context.patterns.patterns = above.patterns.patterns
      ++ names.inits.flatMap (fun init => Resolver.ownPatterns d s.loaded.path (root.down init))
    ∧ context.rules.rules = above.rules.rules
      ++ names.inits.flatMap (fun init => Resolver.ownRules d s.loaded.path (root.down init))
  := by
  induction h with
  | root hown hentries =>
    obtain ⟨hpatterns, hrules⟩ := Resolver.ownContext_eq_ok hd hs hown
    simp only [List.inits, List.flatMap_singleton, Path.down_nil, ← hpatterns, ← hrules]
    constructor
    · rfl
    · rfl
  | @further names context entries name inner own node h hmem hkept hown hlisted ih =>
    obtain ⟨hpatterns, hrules⟩ := Resolver.ownContext_eq_ok hd hs hown
    obtain ⟨hpatterns', hrules'⟩ := ih
    have hinits : (names ++ [name]).inits = names.inits ++ [names ++ [name]] := by
      simp [List.inits_append]
    simp only [hinits, List.flatMap_append, List.flatMap_singleton, Path.down_concat,
      ← List.append_assoc, ← hpatterns, ← hrules, ← hpatterns', ← hrules']
    constructor
    · rfl
    · rfl

end

/-! ### Whole runs -/

/-- What holds of a scan of a directory when a file is selected and a scope has been made of it:
at the root there apply the built-in patterns, those of the file and those asked for, and in each
directory that is entered also what the directories on the way down say of their own. -/
structure AppliesOnce (d : Disk) (globalKey : Option Path) (s : Resolver.Selection)
    (builtin extra : List String) (root : Path) (above : Context) : Prop where
  patterns : above.patterns.patterns = patternsOn root builtin
    ++ patternsOn root s.loaded.config.patterns ++ patternsOn root extra
  rules : above.rules.rules = rulesOn s.loaded.config.rules
  visits : ∀ visit, visit ∈ directoryVisits d globalKey root above
    ↔ visit ∈ rootVisits d globalKey root
      ∨ ∃ names context entries name node, Enters d globalKey root above names context entries
        ∧ (name, node) ∈ entries.toList
        ∧ visit ∈ entryVisits d globalKey context ((root.down names).entry name)
          (.ofNames (names ++ [name])) node
  patternsIn : ∀ names context entries, Enters d globalKey root above names context entries →
    context.patterns.patterns = above.patterns.patterns
      ++ names.inits.flatMap fun init => Resolver.ownPatterns d s.loaded.path (root.down init)
  rulesIn : ∀ names context entries, Enters d globalKey root above names context entries →
    context.rules.rules = above.rules.rules
      ++ names.inits.flatMap fun init => Resolver.ownRules d s.loaded.path (root.down init)

/-- However a resolver has been used while the disk stays as it is, if a file has been selected
last and a scope is made of it, then in every aggregation, be it one that fails, what the file
says applies once in each directory that is entered, before what the directories on the way down
say of their own.  The file is the one that was asked for, wherever that can be found.  If the
aggregation writes to a file, then this is none of the configuration files. -/
theorem aggregate_applies_once {d : Disk} {searchDirs : List Path} {r : Resolver}
    {s : Resolver.Selection} {builtin extra : List String} {scope : Scope} {k : Sink}
    (hd : d.WellFormed) (hr : Reached d searchDirs r (some s))
    (hscope : Scope.make builtin (some s.loaded) extra = .ok scope) (hopen : k.OpenOn d)
    (hapart : ∀ location, k.outlet = .file location →
      ∀ path, Resolver.IsConfig d path → d.locate .content path ≠ .ok location)
    (paths : List Path) (excluded : Option Path) :
  Resolver.configIn d s.loaded.path = .ok (some s.loaded.config)
    ∧ (∀ key, d.canonical s.file = .ok key → d.canonical s.loaded.path = .ok key)
    ∧ (∃ rest, Reports d k (keysOf d excluded) (argumentsVisits d r.globalKey scope paths) rest
        .empty (aggregate d scope paths excluded (start r k)).state.report
      ∧ ∀ report, (aggregate d scope paths excluded (start r k)).result = .ok report → rest = [])
    ∧ ∀ root, d.isDir root = true → ∃ above, scope.contextAt root = .ok above
      ∧ argumentVisits d r.globalKey scope root = directoryVisits d r.globalKey root above
      ∧ AppliesOnce d r.globalKey s builtin extra root above
  := by
  obtain ⟨hcurrent, hkey, hsound⟩ := hr.sound hd
  have hs : s.Sound d := hsound s rfl
  use hs.config
  constructor
  · intro key hcanonical
    apply hs.canonical_eq hd hcanonical
  constructor
  · have hready : Ready d r.globalKey (start r k) :=
      ⟨hd, hcurrent.faithful hd, rfl, hopen, hapart⟩
    have hmeets := meets_aggregate hready scope paths excluded
    cases hresult : (aggregate d scope paths excluded (start r k)).result with
    | ok report =>
      obtain ⟨-, deeds, hdone⟩ := hmeets.of_ok hresult
      use [], hdone.reports
      intro _ _
      rfl
    | error failure =>
      obtain ⟨-, rest, hrest⟩ := hmeets.of_error hresult
      use rest, hrest
      simp
  · intro root hdir
    obtain ⟨above, habove, hpatterns, hrules⟩ := Scope.contextAt_of_make hscope root
    use above, habove
    constructor
    · rw [argumentVisits, if_pos hdir, habove]
    · rw [hkey]
      constructor
      · simpa using hpatterns
      · simpa using hrules
      · intro visit
        apply mem_directoryVisits_iff
      · intro names context entries henters
        apply (henters.cascade hd hs).1
      · intro names context entries henters
        apply (henters.cascade hd hs).2

/-! ### A global configuration that is come upon by a link -/

/-- A configuration that ignores `x`. -/
def linkedConfig : String := "\x7b\"patterns\": [\"x\"]\x7d"

/-- This configuration in a file `g`, and a link to it that has the name of a configuration file. -/
def linkedEntries : Entries :=
  .cons ['g'] (.file (Text.bytesOf linkedConfig))
    (.cons "maid.json".toList (.link ['g']) .nil)

/-- A disk with these entries. -/
def linkedDisk : Disk := ⟨.dir linkedEntries, []⟩

/-- The selection of `g`. -/
def linkedSelection : Resolver.Selection := ⟨⟨"g"⟩, ⟨⟨"g"⟩, ⟨["x"], []⟩⟩⟩

theorem linkedDisk_wellFormed :
  linkedDisk.WellFormed
  := by
  have hg : Name.Valid ['g'] := by constructor <;> decide
  have hconfig : Name.Valid "maid.json".toList :=
    Resolver.valid_of_mem_fileNames (by decide : "maid.json" ∈ Config.fileNames)
  constructor
  · simp only [linkedDisk, linkedEntries, Node.WellFormed, Entries.WellFormed, hg, hconfig,
      Entries.names_cons, Entries.names_nil, true_and, and_true]
    decide
  · rfl

/-- The link leads to `g`. -/
theorem linkedDisk_locate :
  linkedDisk.locate .content ((⟨"."⟩ : Path).entry "maid.json".toList) = .ok [['g']]
  := by
  have hsteps : Disk.steps ((⟨"."⟩ : Path).entry "maid.json".toList).text.toList
      = [.stay, .name "maid.json".toList] := by decide +kernel
  have hstart : Disk.start ((⟨"."⟩ : Path).entry "maid.json".toList).text.toList linkedDisk.here
      = [] := by decide +kernel
  have hroot : linkedDisk.root.kindAt [] = some .dir := rfl
  have hlink : linkedDisk.root.kindAt ([] ++ ["maid.json".toList]) = some (.link ['g']) := by
    decide +kernel
  have hshort : ¬ Disk.nameLimit < (Text.bytes "maid.json".toList).length := by decide +kernel
  have hgoal : Disk.follow linkedDisk.root .content 39 (Disk.start ['g'] [])
      (Disk.steps ['g'] ++ []) = .ok [['g']] := by cbv
  -- Steps are taken by well-founded recursion, which the kernel does not unfold.
  apply Disk.locate_eq_ok_iff.mpr
  use by decide +kernel, by decide +kernel, by decide +kernel
  rw [hsteps, hstart, Disk.follow_stay _ _ _ hroot, Disk.follow_name _ _ _ hroot, hlink,
    if_neg (by simp), if_neg hshort]
  apply hgoal

theorem linkedConfig_read (path : Path) :
  Resolver.readConfig path (Text.bytesOf linkedConfig) = .ok ⟨["x"], []⟩
  := by
  have hconfig : Config.read linkedConfig = .ok ⟨["x"], []⟩ := by decide +kernel
  rw [Resolver.readConfig_bytesOf, hconfig]
  rfl

/-- By both paths there is one file, and it is the configuration file of the directory. -/
theorem linkedDisk_config :
  linkedDisk.canonical ⟨"g"⟩ = .ok (Disk.pathOf [['g']])
    ∧ linkedDisk.canonical ((⟨"."⟩ : Path).entry "maid.json".toList) = .ok (Disk.pathOf [['g']])
    ∧ Resolver.findConfig? linkedDisk ⟨"."⟩ = some ((⟨"."⟩ : Path).entry "maid.json".toList)
    ∧ Resolver.configIn linkedDisk ((⟨"."⟩ : Path).entry "maid.json".toList)
      = .ok (some ⟨["x"], []⟩)
  := by
  have hread : linkedDisk.read ((⟨"."⟩ : Path).entry "maid.json".toList)
      = .ok (Text.bytesOf linkedConfig) := Disk.read_eq_ok_iff.mpr ⟨_, linkedDisk_locate, rfl⟩
  use Disk.canonical_eq_ok_iff.mpr ⟨[['g']], by cbv, rfl⟩
  use Disk.canonical_eq_ok_iff.mpr ⟨[['g']], linkedDisk_locate, rfl⟩
  constructor
  · rw [Resolver.findConfig?, Config.fileNames, List.map_cons]
    apply List.find?_cons_of_pos (Disk.isFile_iff.mpr ⟨_, hread⟩)
  · apply Resolver.configIn_eq_some_iff.mpr ⟨_, hread, linkedConfig_read _⟩

/-- The directory contributes nothing when `g` has been selected. -/
theorem linkedDisk_ownContext :
  Resolver.ownContext linkedDisk (some (Resolver.keyOf linkedDisk ⟨"g"⟩)) ⟨"."⟩ = .ok .empty
  := by
  obtain ⟨hcanonical, hcanonical', hfind, hconfig⟩ := linkedDisk_config
  have hkey : Resolver.keyOf linkedDisk ((⟨"."⟩ : Path).entry "maid.json".toList)
      = Resolver.keyOf linkedDisk ⟨"g"⟩ := by
    rw [Resolver.keyOf, Resolver.keyOf, hcanonical, hcanonical']
    rfl
  rw [Resolver.ownContext, hfind]
  simp only [hconfig, hkey, Option.any_some, Path.same_refl, if_true]

/-- The file `g` can be selected. -/
theorem linkedDisk_reached :
  ∃ r, Reached linkedDisk [] r (some linkedSelection)
  := by
  have hread : linkedDisk.read ⟨"g"⟩ = .ok (Text.bytesOf linkedConfig) :=
    Disk.read_eq_ok_iff.mpr ⟨[['g']], by cbv, rfl⟩
  have hconfig : Resolver.configAt linkedDisk ⟨"g"⟩ = .ok ⟨["x"], []⟩ := by
    rw [Resolver.configAt, hread]
    apply linkedConfig_read
  have hselected : (Resolver.Request.mk linkedDisk (.explicit ⟨"g"⟩)).selected? (.empty [])
      = some linkedSelection := by
    rw [Resolver.Request.selected?, Resolver.Request.given?]
    dsimp only
    rw [Resolver.loadExplicit_result, Resolver.loadOnce_of_unknown rfl, hconfig]
    rfl
  have hcall := Reached.call (.explicit ⟨"g"⟩) (.fresh : Reached linkedDisk [] (.empty []) none)
  rw [hselected] at hcall
  exact ⟨_, hcall⟩

/-- Although the directory has `g` as its configuration file, what this says applies once. -/
theorem aggregate_applies_once_sample :
  ∃ r scope above context, Reached linkedDisk [] r (some linkedSelection)
    ∧ Scope.make [] (some linkedSelection.loaded) [] = .ok scope
    ∧ scope.contextAt ⟨"."⟩ = .ok above
    ∧ Resolver.findConfig? linkedDisk ⟨"."⟩ = some ((⟨"."⟩ : Path).entry "maid.json".toList)
    ∧ Enters linkedDisk r.globalKey ⟨"."⟩ above [] context linkedEntries
    ∧ context.patterns.patterns = patternsOn ⟨"."⟩ ["x"]
  := by
  obtain ⟨r, hr⟩ := linkedDisk_reached
  obtain ⟨hcanonical, hcanonical', hfind, -⟩ := linkedDisk_config
  obtain ⟨scope, hscope⟩ : ∃ scope, Scope.make [] (some linkedSelection.loaded) [] = .ok scope := by
    have hsome : (Scope.make [] (some linkedSelection.loaded) []).toOption.isSome = true := by cbv
    cases hmake : Scope.make [] (some linkedSelection.loaded) [] with
    | ok scope => use scope
    | error failure => simp [hmake, Except.toOption] at hsome
  have hoff : inMemory.sink.OffDisk := Sink.offDisk_of_memory rfl
  obtain ⟨-, -, -, honce⟩ := aggregate_applies_once linkedDisk_wellFormed hr hscope
    (hoff.openOn linkedDisk) (fun location ho => absurd ho (hoff location)) [⟨"."⟩] none
  obtain ⟨above, habove, -, hcascade⟩ := honce ⟨"."⟩ (by cbv)
  have hkey : r.globalKey = some (Resolver.keyOf linkedDisk ⟨"g"⟩) :=
    (hr.sound linkedDisk_wellFormed).2.1
  have henters : Enters linkedDisk r.globalKey ⟨"."⟩ above [] (above.extended .empty)
      linkedEntries := .root (hkey ▸ linkedDisk_ownContext) (rootEntries_of_node? (by cbv))
  have hnone : Resolver.ownConfig? linkedDisk ⟨"g"⟩ ⟨"."⟩ = none := by
    rw [Resolver.ownConfig?, hfind, Option.bind_some, hcanonical, hcanonical', if_pos rfl]
  use r, scope, above, above.extended .empty, hr, hscope, habove, hfind, henters
  rw [hcascade.patternsIn _ _ _ henters, hcascade.patterns]
  simp [patternsOn, List.inits, Resolver.ownPatterns, hnone, linkedSelection]

end Scan

end Compendium
