import Compendium.Aggregate
import Compendium.Proofs.Resolver.Local
import Compendium.Proofs.Sink

/-!
# What a scan comes upon

What a scan comes upon depends on the disk and on the contexts, but not on what has become of
earlier entries.  It is a list of visits, in the order in which they are made.  A deed is what
becomes of a visit: an entry is skipped, a failure is noted, a file is added to the document, or
the scan stops.
-/

namespace Compendium

namespace Scan

/-- What a scan comes upon. -/
inductive Visit where
  /-- An entry that a pattern ignores. -/
  | ignored (path : Path)
  /-- A file for the document.  The rules of the context see it at `relative`. -/
  | file (path relative : Path) (context : Context)
  /-- A directory that cannot be listed. -/
  | unlisted (path : Path) (fault : AccessFault)
  /-- A directory whose configuration cannot be used. -/
  | broken (path : Path) (failure : Failure)

/-- Where a visit is made. -/
def Visit.path : Visit → Path
  | .ignored path => path
  | .file path _ _ => path
  | .unlisted path _ => path
  | .broken path _ => path

/-! ### Visits -/

/-- The visits to an entry that is no directory.  There is none to one that leads to no file. -/
def fileVisits (d : Disk) (context : Context) (path relative : Path) (node : Node) :
    List Visit :=
  if context.patterns.isIgnored path false then [.ignored path]
  else if d.isFileEntry path node then [.file path relative context]
  else []

/-- The visits to the entries of a directory that are no directories. -/
def filesVisits (d : Disk) (context : Context) (path : Path) (down : List Name) :
    Entries → List Visit
  | .nil => []
  | .cons name node rest =>
    (if node.isDir then []
      else fileVisits d context (path.entry name) (.ofNames (down ++ [name])) node)
    ++ filesVisits d context path down rest

mutual

/-- The visits to a directory whose parent has the context `above`, and to what is in it. -/
def nodeVisits (d : Disk) (globalKey : Option Path) (above : Context) (path : Path)
    (down : List Name) : Node → List Visit
  | .dir entries =>
    if above.patterns.isIgnored path true then [.ignored path]
    else match Resolver.ownContext d globalKey path with
    | .error failure => [.broken path failure]
    | .ok own =>
      match d.node? path with
      | .error fault => [.unlisted path fault]
      | .ok _ =>
        filesVisits d (above.extended own) path down entries
          ++ dirsVisits d globalKey (above.extended own) path down entries
  | _ => []

/-- The visits to the directories among the entries of a directory, and to what is in them. -/
def dirsVisits (d : Disk) (globalKey : Option Path) (context : Context) (path : Path)
    (down : List Name) : Entries → List Visit
  | .nil => []
  | .cons name node rest =>
    nodeVisits d globalKey context (path.entry name) (down ++ [name]) node
      ++ dirsVisits d globalKey context path down rest

end

/-- The visits to what is in a directory that has a context. -/
def entriesVisits (d : Disk) (globalKey : Option Path) (context : Context) (path : Path)
    (down : List Name) (entries : Entries) : List Visit :=
  filesVisits d context path down entries ++ dirsVisits d globalKey context path down entries

theorem nodeVisits_dir (d : Disk) (globalKey : Option Path) (above : Context) (path : Path)
    (down : List Name) (entries : Entries) :
  nodeVisits d globalKey above path down (.dir entries) =
    if above.patterns.isIgnored path true then [.ignored path]
    else match Resolver.ownContext d globalKey path with
    | .error failure => [.broken path failure]
    | .ok own =>
      match d.node? path with
      | .error fault => [.unlisted path fault]
      | .ok _ => entriesVisits d globalKey (above.extended own) path down entries
  := by
  rw [nodeVisits]
  rfl

/-- The visits of a scan of the directory at a path. -/
def directoryVisits (d : Disk) (globalKey : Option Path) (root : Path) (above : Context) :
    List Visit :=
  match Resolver.ownContext d globalKey root with
  | .error failure => [.broken root failure]
  | .ok own =>
    match rootEntries d root with
    | .error fault => [.unlisted root fault]
    | .ok entries => entriesVisits d globalKey (above.extended own) root [] entries

/-- The visits of a scan of a file that was asked for by its path. -/
def askedVisits (path : Path) (context : Context) : List Visit :=
  if context.patterns.isIgnored path false then [.ignored path]
  else [.file path ((path.fileName?.map Path.ofChars).getD path) context]

/-- The visits of a scan of what a path argument leads to. -/
def argumentVisits (d : Disk) (globalKey : Option Path) (scope : Scope) (path : Path) :
    List Visit :=
  if d.isDir path then
    match scope.contextAt path with
    | .error failure => [.broken path failure]
    | .ok above => directoryVisits d globalKey path above
  else if d.isFile path then
    match scope.contextAt (path.parent?.getD ⟨""⟩) with
    | .error failure => [.broken path failure]
    | .ok above => askedVisits path above
  else []

/-- The visits of a scan of what path arguments lead to. -/
def argumentsVisits (d : Disk) (globalKey : Option Path) (scope : Scope) (paths : List Path) :
    List Visit :=
  paths.flatMap (argumentVisits d globalKey scope)

section

variable {d : Disk} {path : Path} (globalKey : Option Path) (scope : Scope)

theorem argumentsVisits_of_isDir (hdir : d.isDir path = true) :
  argumentsVisits d globalKey scope [path]
    = match scope.contextAt path with
      | .error failure => [.broken path failure]
      | .ok above => directoryVisits d globalKey path above
  := by
  rw [argumentsVisits, List.flatMap_singleton, argumentVisits, if_pos hdir]

theorem argumentsVisits_of_isFile (hfile : d.isFile path = true) :
  argumentsVisits d globalKey scope [path]
    = match scope.contextAt (path.parent?.getD ⟨""⟩) with
      | .error failure => [.broken path failure]
      | .ok above => askedVisits path above
  := by
  rw [argumentsVisits, List.flatMap_singleton, argumentVisits,
    Disk.isDir_eq_false_of_isFile hfile, if_neg Bool.false_ne_true, if_pos hfile]

/-- A path that leads nowhere is passed over. -/
theorem argumentsVisits_of_node? {fault : AccessFault} (h : d.node? path = .error fault) :
  argumentsVisits d globalKey scope [path] = []
  := by
  rw [argumentsVisits, List.flatMap_singleton, argumentVisits, Disk.isDir, Disk.isFile, h]
  rfl

end

/-! ### Deeds -/

/-- What becomes of a visit. -/
inductive Deed where
  | skip (path : Path)
  | note (failure : Failure)
  /-- A file is put into the document, in which it has a block. -/
  | add (path : Path) (how : Inclusion) (block : String)
  | stop (failure : Failure)

namespace Deed

/-- The report after a deed. -/
def record (report : Report) : Deed → Report
  | .skip path => report.skip path
  | .note failure => report.note failure
  | .add path how _ => report.add path how
  | .stop _ => report

/-- The file that is added by a deed. -/
def added? : Deed → Option (Path × Inclusion)
  | .add path how _ => some (path, how)
  | _ => none

/-- The entry that is skipped by a deed. -/
def skipped? : Deed → Option Path
  | .skip path => some path
  | _ => none

/-- The entry that the report tells of because of a deed. -/
def path? : Deed → Option Path
  | .skip path => some path
  | .add path _ _ => some path
  | _ => none

theorem path?_of_added? {deed : Deed} {file : Path × Inclusion} (h : deed.added? = some file) :
  deed.path? = some file.1
  := by
  cases deed <;> simp [added?] at h
  rw [path?, ← h]

theorem path?_of_skipped? {deed : Deed} {path : Path} (h : deed.skipped? = some path) :
  deed.path? = some path
  := by
  cases deed <;> simp [skipped?] at h
  rw [path?, h]

/-- What a deed adds to the document. -/
def bytes : Deed → List UInt8
  | .add _ _ block => Text.bytesOf block
  | _ => []

end Deed

/-- Whether a file is kept out of a document, by the canonical paths of such files. -/
def isKeptOut (excluded : List Path) (d : Disk) (path : Path) : Bool :=
  excluded.any fun key =>
    key.fileName? = path.fileName? && (d.canonical path).toOption = some key

/-- How content is in the document. -/
def inclusionOf (relative : Path) (context : Context) : Content → Inclusion
  | .binary size => .binary size
  | .text content =>
    let left := context.rules.filter relative (Text.linesOf content)
    .text left.lines.length left.removed left.applied

/-- The block of content in the document. -/
def blockOf (path relative : Path) (context : Context) : Content → String
  | .binary size => Document.binaryBlock path size
  | .text content =>
    Document.textBlock path (context.rules.filter relative (Text.linesOf content)).lines

/-- What becomes of a file. -/
def fileDeed (d : Disk) (excluded : List Path) (path relative : Path) (context : Context) :
    Deed :=
  if isKeptOut excluded d path then .skip path
  else match d.read path with
  | .error fault => .note (.reading path fault)
  | .ok bytes =>
    .add path (inclusionOf relative context (.ofBytes bytes))
      (blockOf path relative context (.ofBytes bytes))

/-- What becomes of a visit. -/
def Visit.deed (d : Disk) (excluded : List Path) : Visit → Deed
  | .ignored path => .skip path
  | .file path relative context => fileDeed d excluded path relative context
  | .unlisted path fault => .note (.walking path fault)
  | .broken _ failure => .stop failure

/-- What is told of a visit is told of the entry at which it is made. -/
theorem Visit.path?_deed {d : Disk} {excluded : List Path} {visit : Visit} {path : Path}
    (h : (visit.deed d excluded).path? = some path) :
  path = visit.path
  := by
  cases visit with
  | ignored path' => apply (Option.some.inj h).symm
  | unlisted path' fault => simp [Visit.deed, Deed.path?] at h
  | broken path' failure => simp [Visit.deed, Deed.path?] at h
  | file path' relative context =>
    rw [Visit.deed, fileDeed] at h
    split at h
    · apply (Option.some.inj h).symm
    · split at h
      · simp [Deed.path?] at h
      · apply (Option.some.inj h).symm

/-- A file is kept out if its absolute path is one of those, and has the name that the file has
on its own path. -/
theorem isKeptOut_iff {excluded : List Path} {d : Disk} {path : Path} :
  isKeptOut excluded d path = true
    ↔ ∃ m, d.locate .content path = .ok m ∧ Disk.pathOf m ∈ excluded
      ∧ (Disk.pathOf m).fileName? = path.fileName?
  := by
  simp only [isKeptOut, List.any_eq_true, Bool.and_eq_true, decide_eq_true_eq,
    Disk.toOption_canonical_iff]
  constructor
  · rintro ⟨key, hkey, hname, m, hm, rfl⟩
    use m
  · rintro ⟨m, hm, hkey, hname⟩
    exact ⟨Disk.pathOf m, hkey, hname, m, hm, rfl⟩

theorem isKeptOut_congr {d d' : Disk} {path : Path} (h : d.canonical path = d'.canonical path)
    (excluded : List Path) :
  isKeptOut excluded d path = isKeptOut excluded d' path
  := by
  rw [isKeptOut, isKeptOut, h]

/-! ### What the report says -/

theorem included_foldl_record (deeds : List Deed) (report : Report) :
  (deeds.foldl Deed.record report).included = report.included ++ deeds.filterMap Deed.added?
  := by
  induction deeds generalizing report with
  | nil => simp
  | cons deed deeds ih =>
    rw [List.foldl_cons, ih]
    cases deed <;> simp [List.filterMap_cons, Deed.record, Deed.added?, Report.skip, Report.note,
      Report.add]

theorem skipped_foldl_record (deeds : List Deed) (report : Report) :
  (deeds.foldl Deed.record report).skipped = report.skipped ++ deeds.filterMap Deed.skipped?
  := by
  induction deeds generalizing report with
  | nil => simp
  | cons deed deeds ih =>
    rw [List.foldl_cons, ih]
    cases deed <;> simp [List.filterMap_cons, Deed.record, Deed.skipped?, Report.skip, Report.note,
      Report.add]

/-! ### Visits and what is in files -/

/-- What is in files is no matter for the visits in a directory. -/
theorem filesVisits_skeleton {d : Disk} {context : Context} {path : Path} {down : List Name}
    (entries : Entries) :
  filesVisits d context path down entries.skeleton = filesVisits d context path down entries
  := by
  induction entries using Entries.induction_along with
  | nil => rfl
  | cons name node rest ih =>
    rw [Entries.skeleton, filesVisits, filesVisits, ih]
    cases node <;> rfl

mutual

theorem nodeVisits_skeleton {d : Disk} {globalKey : Option Path} {above : Context}
    {path : Path} {down : List Name} :
  ∀ node : Node,
    nodeVisits d globalKey above path down node.skeleton
      = nodeVisits d globalKey above path down node
  | .file _ => by rw [Node.skeleton, nodeVisits, nodeVisits] <;> simp
  | .link _ => by rw [Node.skeleton]
  | .dir entries => by
    rw [Node.skeleton, nodeVisits, nodeVisits]
    simp only [filesVisits_skeleton entries, dirsVisits_skeleton entries]

theorem dirsVisits_skeleton {d : Disk} {globalKey : Option Path} {context : Context}
    {path : Path} {down : List Name} :
  ∀ entries : Entries,
    dirsVisits d globalKey context path down entries.skeleton
      = dirsVisits d globalKey context path down entries
  | .nil => rfl
  | .cons name node rest => by
    rw [Entries.skeleton, dirsVisits, dirsVisits, nodeVisits_skeleton node,
      dirsVisits_skeleton rest]

end

theorem entriesVisits_skeleton {d : Disk} {globalKey : Option Path} {context : Context}
    {path : Path} {down : List Name} (entries : Entries) :
  entriesVisits d globalKey context path down entries.skeleton
    = entriesVisits d globalKey context path down entries
  := by
  rw [entriesVisits, entriesVisits, filesVisits_skeleton, dirsVisits_skeleton]

/-! ### Visits entry by entry -/

section

variable {d : Disk} {globalKey : Option Path}

/-- The visits to files are made entry by entry. -/
theorem mem_filesVisits_iff {context : Context} {path : Path} {down : List Name} {visit : Visit} :
  ∀ {entries : Entries}, visit ∈ filesVisits d context path down entries
    ↔ ∃ name node, (name, node) ∈ entries.toList ∧ node.isDir = false
      ∧ visit ∈ fileVisits d context (path.entry name) (.ofNames (down ++ [name])) node
  | .nil => by simp [filesVisits]
  | .cons other node rest => by
    rw [filesVisits, List.mem_append, mem_filesVisits_iff]
    cases node <;> simp [or_and_right, exists_or, Node.isDir]

/-- Visits to files need no configuration. -/
theorem broken_notMem_filesVisits {context : Context} {path path' : Path} {down : List Name}
    {entries : Entries} {failure : Failure} :
  .broken path' failure ∉ filesVisits d context path down entries
  := by
  intro hmem
  obtain ⟨name, node, -, -, hvisit⟩ := mem_filesVisits_iff.mp hmem
  rw [fileVisits] at hvisit
  split at hvisit
  · simp at hvisit
  · split at hvisit <;> simp at hvisit

/-- The visits to directories are made entry by entry. -/
theorem mem_dirsVisits_iff {context : Context} {path : Path} {down : List Name} {visit : Visit} :
  ∀ {entries : Entries}, visit ∈ dirsVisits d globalKey context path down entries
    ↔ ∃ name node, (name, node) ∈ entries.toList
      ∧ visit ∈ nodeVisits d globalKey context (path.entry name) (down ++ [name]) node
  | .nil => by simp [dirsVisits]
  | .cons other node rest => by
    rw [dirsVisits, List.mem_append, mem_dirsVisits_iff]
    simp [or_and_right, exists_or]

end

/-! ### Where visits are made -/

section

variable {d : Disk} {globalKey : Option Path} {visit : Visit}

/-- Whether a visit is made at an entry that names lead to from the directory at a path.  The
names of a visited file lead to a file or to a link. -/
structure MadeAt (path : Path) (node : Node) (names : List Name) (visit : Visit) : Prop where
  path : visit.path = path.down names
  there : (node.at? names).isSome = true
  file : ∀ file relative context, visit = .file file relative context →
    node.kindAt names ≠ some .dir

theorem madeAt_of_mem_fileVisits {context : Context} {path relative : Path} {node : Node}
    (hnode : node.isDir = false) (h : visit ∈ fileVisits d context path relative node) :
  MadeAt path node [] visit
  := by
  have hkind : node.kindAt [] ≠ some .dir := by
    cases node <;> simp_all [Node.kindAt, Node.kind, Node.isDir]
  rw [fileVisits] at h
  split at h
  · obtain rfl := List.mem_singleton.mp h
    use rfl, rfl
    intro _ _ _ _
    apply hkind
  · split at h
    · obtain rfl := List.mem_singleton.mp h
      use rfl, rfl
      intro _ _ _ _
      apply hkind
    · simp at h

theorem exists_madeAt_of_mem_filesVisits {context : Context} {path : Path} {down : List Name}
    {entries : Entries} (h : visit ∈ filesVisits d context path down entries) :
  ∃ name node, (name, node) ∈ entries.toList
    ∧ MadeAt (path.entry name) node [] visit
  := by
  obtain ⟨name, node, hmem, hnode, hvisit⟩ := mem_filesVisits_iff.mp h
  use name, node, hmem
  apply madeAt_of_mem_fileVisits hnode hvisit

/-- What is made at an entry of a directory is made below the directory. -/
theorem MadeAt.of_entry {path : Path} {entries : Entries} {name : Name} {node : Node}
    {names : List Name} (hwf : entries.WellFormed) (hmem : (name, node) ∈ entries.toList)
    (hmade : MadeAt (path.entry name) node names visit) :
  MadeAt path (.dir entries) (name :: names) visit
  := by
  have hfind := (Entries.find?_eq_some_iff hwf).mpr hmem
  constructor
  · apply hmade.path
  · rw [Node.at?_dir_cons, hfind]
    apply hmade.there
  · intro file relative context heq
    rw [Node.kindAt_cons, hfind]
    apply hmade.file file relative context heq

mutual

/-- A visit in a directory is made at an entry below it. -/
theorem exists_madeAt_of_mem_nodeVisits {above : Context} {path : Path} {down : List Name} :
  ∀ node : Node, node.WellFormed → visit ∈ nodeVisits d globalKey above path down node →
    ∃ names, MadeAt path node names visit
  | .file _, _, h => by simp [nodeVisits] at h
  | .link _, _, h => by simp [nodeVisits] at h
  | .dir entries, hwf, h => by
    rw [Node.WellFormed] at hwf
    rw [nodeVisits] at h
    split at h
    · obtain rfl := List.mem_singleton.mp h
      use [], rfl, rfl
      simp
    · split at h
      · obtain rfl := List.mem_singleton.mp h
        use [], rfl, rfl
        simp
      · split at h
        · obtain rfl := List.mem_singleton.mp h
          use [], rfl, rfl
          simp
        · rcases List.mem_append.mp h with h | h
          · obtain ⟨name, node, hmem, hmade⟩ := exists_madeAt_of_mem_filesVisits h
            use [name]
            apply hmade.of_entry hwf hmem
          · obtain ⟨name, node, names, hmem, hmade⟩ :=
              exists_madeAt_of_mem_dirsVisits entries hwf h
            use name :: names
            apply hmade.of_entry hwf hmem

theorem exists_madeAt_of_mem_dirsVisits {context : Context} {path : Path} {down : List Name} :
  ∀ entries : Entries, entries.WellFormed →
    visit ∈ dirsVisits d globalKey context path down entries →
      ∃ name node names, (name, node) ∈ entries.toList
        ∧ MadeAt (path.entry name) node names visit
  | .nil, _, h => by simp [dirsVisits] at h
  | .cons name node rest, hwf, h => by
    rw [Entries.WellFormed] at hwf
    rw [dirsVisits] at h
    rcases List.mem_append.mp h with h | h
    · obtain ⟨names, hmade⟩ := exists_madeAt_of_mem_nodeVisits node hwf.2.2.1 h
      exact ⟨name, node, names, List.mem_cons_self, hmade⟩
    · obtain ⟨other, node', names, hmem, hmade⟩ :=
        exists_madeAt_of_mem_dirsVisits rest hwf.2.2.2 h
      exact ⟨other, node', names, List.mem_cons_of_mem _ hmem, hmade⟩

end

theorem rootEntries_of_node? {root : Path} {entries : Entries}
    (h : d.node? root = .ok (.dir entries)) :
  rootEntries d root = .ok entries
  := by
  obtain ⟨l, hl, -⟩ := Disk.node?_eq_ok_iff.mp h
  obtain ⟨l', hl'⟩ := Disk.exists_locate_entry hl
  rw [rootEntries, hl', h]
  rfl

/-- A visit of a scan of a directory is made at the directory or below it. -/
theorem exists_madeAt_of_mem_directoryVisits {root : Path} {above : Context} {entries : Entries}
    (hd : d.WellFormed) (hroot : d.node? root = .ok (.dir entries))
    (h : visit ∈ directoryVisits d globalKey root above) :
  ∃ names, MadeAt root (.dir entries) names visit
  := by
  obtain ⟨l, -, hat⟩ := Disk.node?_eq_ok_iff.mp hroot
  have hwf : entries.WellFormed := (hd.root.at? hat).1
  rw [directoryVisits, rootEntries_of_node? hroot] at h
  split at h
  · obtain rfl := List.mem_singleton.mp h
    use [], rfl, rfl
    simp
  · rcases List.mem_append.mp h with h | h
    · obtain ⟨name, node, hmem, hmade⟩ := exists_madeAt_of_mem_filesVisits h
      use [name]
      apply hmade.of_entry hwf hmem
    · obtain ⟨name, node, names, hmem, hmade⟩ := exists_madeAt_of_mem_dirsVisits entries hwf h
      use name :: names
      apply hmade.of_entry hwf hmem

end

end Scan

end Compendium
