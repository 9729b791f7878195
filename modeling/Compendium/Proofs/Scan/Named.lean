import Mathlib.Data.List.Flatten
import Compendium.Proofs.Context.Sharing
import Compendium.Proofs.Path.Parent
import Compendium.Proofs.Scan.Limit
import Compendium.Proofs.Scan.Milder
import Compendium.Proofs.Scan.Relocation

/-!
# Files that are named

A file that is named as a path argument is told of as a scan of its directory tells of it, if the
directory has no configuration of its own.  The scope is declared at the path above the file, which
may be spelled in another way than that of the directory but has the same parts.  The rules see the
file by its name on both ways.
-/

namespace Compendium

/-! ### The context of a file that is named -/

/-- What a set ignores is a matter of the parts of a path. -/
theorem PatternSet.isIgnored_of_parts {path path' : Path} (h : path'.parts = path.parts)
    (s : PatternSet) (isDir : Bool) :
  s.isIgnored path' isDir = s.isIgnored path isDir
  := by
  simp only [isIgnored, ignoredBy?, lastMatch?, ScopedPattern.covers, Path.partsBelow?,
    Path.fileName?, h]

/-- The context at the path above a file is the one at its directory, but for how that is spelled
where the patterns are declared. -/
theorem Scope.exists_contextAt_above {d : Disk} {scope : Scope} {root : Path} {above : Context}
    {name : Name} (hname : name.Valid) (hfile : d.isFile (root.entry name) = true)
    (h : scope.contextAt root = .ok above) :
  ∃ above', scope.contextAt ((root.entry name).parent?.getD ⟨""⟩) = .ok above'
    ∧ above'.rules = above.rules
    ∧ above'.patterns.isIgnored (root.entry name) false
      = above.patterns.isIgnored (root.entry name) false
  := by
  obtain ⟨last, hparts⟩ := Path.parts_of_isFile hfile
  rw [Path.parts_entry hname] at hparts
  obtain ⟨hroot, -⟩ := List.append_inj' hparts rfl
  have hmoved := scope.moved_contextAt root ((root.entry name).parent?.getD ⟨""⟩)
  generalize (root.entry name).parent?.getD ⟨""⟩ = root' at hroot hmoved ⊢
  rw [h] at hmoved
  cases hcontext : scope.contextAt root' with
  | error failure =>
    rw [hcontext] at hmoved
    cases hmoved
  | ok above' =>
    rw [hcontext] at hmoved
    cases hmoved with
    | ok hcontexts =>
      use above', rfl, hcontexts.rules.symm
      have hignored : above.patterns.isIgnored (root.down ([] ++ [name])) false
          = above'.patterns.isIgnored (root'.down ([] ++ [name])) false :=
        hcontexts.patterns.isIgnored_eq (by simpa using hname) false
      rw [List.nil_append, Path.down_cons, Path.down_nil, Path.down_cons, Path.down_nil] at hignored
      rw [hignored]
      apply PatternSet.isIgnored_of_parts
      rw [Path.parts_entry hname, Path.parts_entry hname, hroot]

/-- A context that is extended by nothing stays. -/
theorem Context.extended_empty (c : Context) :
  c.extended .empty = c
  := by
  obtain ⟨⟨patterns⟩, ⟨rules⟩⟩ := c
  rw [extended, Context.mk.injEq]
  use congrArg PatternSet.mk (List.append_nil patterns)
  apply congrArg RuleSet.mk (List.append_nil rules)

/-! ### What is told of one path -/

/-- The path that a failure is about, if it is noted in a report. -/
def Failure.at? : Failure → Option Path
  | .reading path _ => some path
  | .walking path _ => some path
  | _ => none

/-- What a report tells of one path. -/
def Report.at (report : Report) (path : Path) : Report :=
  ⟨report.included.filter (·.1 = path), report.skipped.filter (· = path),
    report.failures.filter (·.at? = some path)⟩

namespace Scan

theorem at?_note (failure : Failure) :
  (Deed.note failure).at? = failure.at?
  := by cases failure <;> rfl

/-- What is told of a visit is told of the path at which it is made. -/
theorem Visit.at?_deed {d : Disk} {keys : List Path} {visit : Visit} {path : Path}
    (h : (visit.deed d keys).at? = some path) :
  visit.path = path
  := by
  cases visit with
  | ignored path' => apply Option.some.inj h
  | unlisted path' fault => apply Option.some.inj h
  | broken path' failure => cases h
  | file path' relative context =>
    rw [Visit.deed, fileDeed] at h
    split at h
    · apply Option.some.inj h
    · split at h
      · apply Option.some.inj h
      · apply Option.some.inj h

/-- A deed changes what is told of the path that it is about. -/
theorem at_record (path : Path) (deed : Deed) (report : Report) :
  (deed.record report).at path
    = if deed.at? = some path then deed.record (report.at path) else report.at path
  := by
  cases deed with
  | stop failure => rfl
  | note failure =>
    rw [at?_note]
    by_cases h : failure.at? = some path <;> simp [Deed.record, Report.at, Report.note, h]
  | skip path' =>
    by_cases h : path' = path <;> simp [Deed.record, Deed.at?, Report.at, Report.skip, h]
  | add path' how block =>
    by_cases h : path' = path <;> simp [Deed.record, Deed.at?, Report.at, Report.add, h]

/-- A report tells of a path what it tells because of deeds that are about it. -/
theorem at_foldl_record (path : Path) (deeds : List Deed) (report : Report) :
  (deeds.foldl Deed.record report).at path
    = (deeds.filter (·.at? = some path)).foldl Deed.record (report.at path)
  := by
  induction deeds generalizing report with
  | nil => rfl
  | cons deed deeds ih =>
    rw [List.foldl_cons, ih, at_record]
    by_cases h : deed.at? = some path
    · rw [if_pos h, List.filter_cons_of_pos (by simpa using h), List.foldl_cons]
    · rw [if_neg h, List.filter_cons_of_neg (by simpa using h)]

/-- The blocks of the file at a path are placed by deeds that are about it. -/
theorem filter_placed (path : Path) (deeds : List Deed) :
  (deeds.filterMap Deed.placed?).filter (·.path = path)
    = (deeds.filter (·.at? = some path)).filterMap Deed.placed?
  := by
  rw [List.filter_filterMap, List.filterMap_filter]
  apply List.filterMap_congr
  intro deed _
  cases deed with
  | stop failure => rfl
  | note failure => simp [Deed.placed?]
  | skip path' => simp [Deed.placed?]
  | add path' how block =>
    by_cases h : path' = path <;> simp [Deed.placed?, Deed.at?, h]

/-- Deeds that are about a path come of visits to it. -/
theorem exists_filter_deeds {d : Disk} {k : Sink} {keys : List Path} {visits : List Visit}
    {deeds : List Deed} (h : List.Forall₂ (Becomes d k keys) visits deeds) (path : Path) :
  ∃ told, List.Forall₂ (Becomes d k keys) (visits.filter (·.path = path)) told
    ∧ deeds.filter (·.at? = some path) = told.filter (·.at? = some path)
  := by
  induction h with
  | nil => exact ⟨[], .nil, rfl⟩
  | @cons visit deed visits deeds hdeed _ ih =>
    obtain ⟨told, htold, heq⟩ := ih
    by_cases hpath : visit.path = path
    · use deed :: told
      rw [List.filter_cons_of_pos (by simpa using hpath)]
      use .cons hdeed htold
      rw [List.filter_cons, List.filter_cons, heq]
    · use told
      rw [List.filter_cons_of_neg (by simpa using hpath)]
      use htold
      rw [List.filter_cons_of_neg, heq]
      obtain ⟨k', -, rfl⟩ := hdeed
      rw [decide_eq_true_iff]
      intro hat
      apply hpath (Visit.at?_deed hat)

/-- If the file that is written is not visited at a path, what is told of the path is what its
visits become on the disk as it is. -/
theorem filter_deeds {d : Disk} (hd : d.WellFormed) {k : Sink} (hopen : k.OpenOn d)
    {keys : List Path} {visits : List Visit} {deeds : List Deed} {path : Path}
    (hunread : Unread d k keys (visits.filter (·.path = path)))
    (h : List.Forall₂ (Becomes d k keys) visits deeds) :
  deeds.filter (·.at? = some path)
    = ((visits.filter (·.path = path)).map (Visit.deed d keys)).filter (·.at? = some path)
  := by
  obtain ⟨told, htold, heq⟩ := exists_filter_deeds h path
  rw [heq, eq_map_deed hd hopen hunread htold]

/-! ### The visits to one path -/

section

variable {d : Disk} {globalKey : Option Path} {context : Context} {root : Path}
  {entries : Entries} {name : Name} {node : Node}

/-- Different names lead to different entries. -/
theorem name_eq_of_entry {names : List Name} {name' : Name} (hname : name.Valid)
    (hnames : ∀ n ∈ name' :: names, Name.Valid n)
    (h : (root.entry name').down names = root.entry name) :
  name' = name
  := by
  have hsame : (root.down (name' :: names)).same (root.down [name]) = true := by
    rw [Path.down_cons, Path.down_cons, Path.down_nil, h]
    apply Path.same_refl _
  have heq := Path.down_injective hnames (by simpa using hname) hsame
  apply (List.cons.inj heq).1

/-- A file is visited at its path. -/
theorem filter_fileVisits {path : Path} (relative : Path) (hnode : node.isDir = false) :
  (fileVisits d context path relative node).filter (·.path = path)
    = fileVisits d context path relative node
  := by
  rw [List.filter_eq_self]
  intro visit hvisit
  apply decide_eq_true (madeAt_of_mem_fileVisits hnode hvisit).path

theorem filter_fileVisits_of_ne {path path' : Path} (relative : Path) (hnode : node.isDir = false)
    (hne : path ≠ path') :
  (fileVisits d context path relative node).filter (·.path = path') = []
  := by
  rw [List.filter_eq_nil_iff]
  intro visit hvisit hpath
  apply hne ((madeAt_of_mem_fileVisits hnode hvisit).path.symm.trans (of_decide_eq_true hpath))

/-- No file is visited at the path of an entry that has another name. -/
theorem filter_filesVisits_eq_nil (hwf : entries.WellFormed) (hname : name.Valid)
    (hother : name ∉ entries.names) :
  (filesVisits d context root [] entries).filter (·.path = root.entry name) = []
  := by
  rw [List.filter_eq_nil_iff]
  intro visit hvisit hpath
  obtain ⟨name', node', hmem', hmade⟩ := exists_madeAt_of_mem_filesVisits hvisit
  have hnames : ∀ n ∈ [name'], Name.Valid n := by simpa using (hwf.of_mem hmem').1
  obtain rfl := name_eq_of_entry hname hnames
    (hmade.path.symm.trans (of_decide_eq_true hpath))
  apply hother (List.mem_map_of_mem hmem')

/-- Of the entries that are no directories, one is visited at its path. -/
theorem filter_filesVisits (hwf : entries.WellFormed) (hmem : (name, node) ∈ entries.toList)
    (hnode : node.isDir = false) :
  (filesVisits d context root [] entries).filter (·.path = root.entry name)
    = fileVisits d context (root.entry name) (.ofNames [name]) node
  := by
  have hname := (hwf.of_mem hmem).1
  induction entries using Entries.induction_along with
  | nil => simp at hmem
  | cons other node' rest ih =>
    obtain ⟨hother, hless, -, hrest⟩ := hwf
    rw [filesVisits, List.filter_append]
    rcases List.mem_cons.mp hmem with heq | hin
    · obtain ⟨rfl, rfl⟩ := Prod.mk.inj heq
      have hlater : name ∉ rest.names := fun hmem => List.lt_irrefl name (hless name hmem)
      rw [filter_filesVisits_eq_nil hrest hname hlater, hnode, if_neg Bool.false_ne_true,
        filter_fileVisits _ hnode, List.append_nil, List.nil_append]
    · have hne : root.entry other ≠ root.entry name := by
        have hnames : ∀ n ∈ [other], Name.Valid n := by simpa using hother
        intro heq
        obtain rfl : other = name := name_eq_of_entry hname hnames heq
        apply List.lt_irrefl other (hless other (List.mem_map_of_mem hin))
      have hfirst : (if node'.isDir = true then []
          else fileVisits d context (root.entry other) (.ofNames ([] ++ [other])) node').filter
            (·.path = root.entry name) = [] := by
        split
        · rfl
        · rename_i hdir
          apply filter_fileVisits_of_ne _ (Bool.eq_false_iff.mpr hdir) hne
      rw [hfirst, List.nil_append, ih hrest hin]

/-- In no directory is a visit made at the path of a file beside it. -/
theorem filter_dirsVisits (hwf : entries.WellFormed) (hmem : (name, node) ∈ entries.toList)
    (hnode : node.isDir = false) :
  (dirsVisits d globalKey context root [] entries).filter (·.path = root.entry name) = []
  := by
  rw [List.filter_eq_nil_iff]
  intro visit hvisit hpath
  obtain ⟨name', node', hmem', hvisit⟩ := mem_dirsVisits_iff.mp hvisit
  obtain ⟨hname', hnode'⟩ := hwf.of_mem hmem'
  obtain ⟨names, hmade⟩ := exists_madeAt_of_mem_nodeVisits node' hnode' hvisit
  obtain ⟨inner, hinner⟩ := Option.isSome_iff_exists.mp hmade.there
  have hnames : ∀ n ∈ name' :: names, Name.Valid n :=
    List.forall_mem_cons.mpr ⟨hname', (hnode'.at? hinner).2⟩
  obtain rfl := name_eq_of_entry (hwf.of_mem hmem).1 hnames
    (hmade.path.symm.trans (of_decide_eq_true hpath))
  have hfind := (Entries.find?_eq_some_iff hwf).mpr hmem
  rw [(Entries.find?_eq_some_iff hwf).mpr hmem'] at hfind
  obtain rfl := Option.some.inj hfind
  cases node' with
  | file bytes => simp [nodeVisits] at hvisit
  | link target => simp [nodeVisits] at hvisit
  | dir inner => cases hnode

end

/-! ### A file and its directory -/

/-- Whether a directory holds a file: an entry that is a regular file or a link which leads to one.
If the directory has a configuration file, it is the one that has been selected. -/
structure HoldsFile (d : Disk) (selection : Option Resolver.Selection) (root : Path)
    (name : Name) : Prop where
  entry : ∃ entries node, d.node? root = .ok (.dir entries) ∧ (name, node) ∈ entries.toList
    ∧ node.isDir = false ∧ d.isFileEntry (root.entry name) node = true
  config : ∀ path, Resolver.IsConfigOf d root path → Resolver.IsSelected d selection path

section

variable {d : Disk} {selection : Option Resolver.Selection} {root : Path} {name : Name}
  (hf : HoldsFile d selection root name) (hd : d.WellFormed)

include hf hd

theorem HoldsFile.valid :
  name.Valid
  := by
  obtain ⟨entries, node, hroot, hmem, -⟩ := hf.entry
  obtain ⟨l, -, hat⟩ := Disk.node?_eq_ok_iff.mp hroot
  have hwf : entries.WellFormed := (hd.root.at? hat).1
  apply (hwf.of_mem hmem).1

variable (hroom : ¬ (root.entry name).TooLong)

include hroom

/-- The path of the file leads to it, if that is not too long. -/
theorem HoldsFile.isFile :
  d.isFile (root.entry name) = true
  := by
  obtain ⟨entries, node, hroot, hmem, -, hentry⟩ := hf.entry
  obtain ⟨l, hl, hat⟩ := Disk.node?_eq_ok_iff.mp hroot
  have hwf : entries.WellFormed := (hd.root.at? hat).1
  have hdir : d.root.kindAt l = some .dir := Node.kindAt_eq_dir_iff.mpr ⟨entries, hat⟩
  have hinner : d.root.at? (l ++ [name]) = some node := by
    rw [Node.at?_concat hat, (Entries.find?_eq_some_iff hwf).mpr hmem]
  change d.isFileEntry (root.down [name]) node = true at hentry
  apply (Disk.isFile_down_iff_of_isFileEntry hd hl hdir hinner hentry).mpr hroom

/-- A scan of the directory visits the file as one does that is given the path of the file. -/
theorem HoldsFile.exists_visits (hs : ∀ s ∈ selection, s.Sound d) {scope : Scope}
    (hfree : ∀ path failure, .broken path failure ∉ argumentsVisits d
      (selection.map fun s => Resolver.keyOf d s.file) scope [root]) :
  ∃ above, scope.contextAt root = .ok above
    ∧ (argumentsVisits d (selection.map fun s => Resolver.keyOf d s.file) scope [root]).filter
      (·.path = root.entry name) = askedVisits (root.entry name) above
  := by
  obtain ⟨entries, node, hroot, hmem, hnode, -⟩ := hf.entry
  rw [argumentsVisits_of_isDir _ _ (Disk.isDir_of_node? hroot)] at hfree ⊢
  cases habove : scope.contextAt root with
  | error failure => apply absurd (by simp [habove]) (hfree root failure)
  | ok above =>
    use above, rfl
    rw [habove] at hfree
    dsimp only at hfree ⊢
    have hown : Resolver.ownContext d (selection.map fun s => Resolver.keyOf d s.file) root
        = .ok .empty := by
      rcases Resolver.ownContext_cases hd hs root with
        ⟨-, hown⟩ | ⟨path, config, hconfig, -⟩ | ⟨path, failure, -, -, hown⟩
      · apply hown
      · apply absurd (hf.config path hconfig.isConfigOf) hconfig.other
      · apply absurd (by simp [directoryVisits, hown]) (hfree root failure)
    obtain ⟨l, -, hat⟩ := Disk.node?_eq_ok_iff.mp hroot
    have hwf : entries.WellFormed := (hd.root.at? hat).1
    rw [directoryVisits, hown, rootEntries_of_node? hroot]
    dsimp only
    rw [entriesVisits, List.filter_append, filter_filesVisits hwf hmem hnode,
      filter_dirsVisits hwf hmem hnode, List.append_nil, Context.extended_empty, fileVisits,
      Disk.isFileEntry, hf.isFile hd hroom, Bool.or_true, if_pos rfl, askedVisits,
      Path.fileName?_entry (hf.valid hd)]
    rfl

/-- A path argument that leads to the file is visited in the context above it. -/
theorem HoldsFile.argumentsVisits_eq {globalKey : Option Path} {scope : Scope} {above : Context}
    (habove : scope.contextAt ((root.entry name).parent?.getD ⟨""⟩) = .ok above) :
  argumentsVisits d globalKey scope [root.entry name] = askedVisits (root.entry name) above
  := by
  rw [argumentsVisits_of_isFile _ _ (hf.isFile hd hroom), habove]

end

/-! ### What becomes of the file -/

section

variable {d : Disk} {keys : List Path} {path : Path} {above above' : Context}

/-- What becomes of a file that is asked for depends on what is ignored and on the rules. -/
theorem map_deed_askedVisits (hrules : above'.rules = above.rules)
    (hignored : above'.patterns.isIgnored path false = above.patterns.isIgnored path false) :
  (askedVisits path above').map (Visit.deed d keys)
    = (askedVisits path above).map (Visit.deed d keys)
  := by
  rw [askedVisits, askedVisits, hignored]
  split
  · rfl
  · simp only [List.map_singleton, Visit.deed, fileDeed_congr hrules]

/-- One deed becomes of a file that is asked for, and it is about this file. -/
theorem exists_deed_askedVisits (d : Disk) (keys : List Path) (path : Path) (above : Context) :
  ∃ deed, (askedVisits path above).map (Visit.deed d keys) = [deed] ∧ deed.at? = some path
    ∧ (deed.record .empty).included.length + (deed.record .empty).skipped.length
      + (deed.record .empty).failures.length = 1
  := by
  rw [askedVisits]
  split
  · exact ⟨.skip path, rfl, rfl, rfl⟩
  · rw [List.map_singleton, Visit.deed, fileDeed]
    refine ⟨_, rfl, ?_⟩
    split
    · constructor
      · rfl
      · rfl
    · split
      · constructor
        · rfl
        · rfl
      · constructor
        · rfl
        · rfl

/-- Only the file is visited where one is asked for. -/
theorem unread_askedVisits {k : Sink} (h : ∀ location, k.outlet = .file location →
      d.locate .content path = .ok location → isKeptOut keys d path = true) :
  Unread d k keys (askedVisits path above)
  := by
  intro location ho file relative context hvisit hlocate
  rw [askedVisits] at hvisit
  split at hvisit
  · simp at hvisit
  · obtain ⟨rfl, -⟩ := Visit.file.inj (List.mem_singleton.mp hvisit)
    apply h location ho hlocate

theorem not_broken_mem_askedVisits (file : Path) (failure : Failure) :
  .broken file failure ∉ askedVisits path above
  := by
  rw [askedVisits]
  split <;> simp

end

/-- The scan of a directory asks for a file in it in a context that is as good as the one above
the path of the file. -/
theorem HoldsFile.exists_asked {d : Disk} {selection : Option Resolver.Selection} {root : Path}
    {name : Name} (hf : HoldsFile d selection root name) (hd : d.WellFormed)
    (hroom : ¬ (root.entry name).TooLong) (hs : ∀ s ∈ selection, s.Sound d) {scope : Scope}
    (hfree : ∀ path failure, .broken path failure ∉ argumentsVisits d
      (selection.map fun s => Resolver.keyOf d s.file) scope [root]) :
  ∃ above above',
    (argumentsVisits d (selection.map fun s => Resolver.keyOf d s.file) scope [root]).filter
        (·.path = root.entry name) = askedVisits (root.entry name) above
      ∧ argumentsVisits d (selection.map fun s => Resolver.keyOf d s.file) scope
        [root.entry name] = askedVisits (root.entry name) above'
      ∧ ∀ keys, (askedVisits (root.entry name) above').map (Visit.deed d keys)
        = (askedVisits (root.entry name) above).map (Visit.deed d keys)
  := by
  obtain ⟨above, habove, hvisits⟩ := hf.exists_visits hd hroom hs hfree
  obtain ⟨above', habove', hrules, hignored⟩ :=
    Scope.exists_contextAt_above (hf.valid hd) (hf.isFile hd hroom) habove
  use above, above', hvisits, hf.argumentsVisits_eq hd hroom habove'
  intro keys
  apply map_deed_askedVisits hrules hignored

/-! ### Aggregations of a file and of its directory -/

/-- What one aggregation tells of a path among others, and writes of it, is all that another one
tells and writes. -/
structure ToldAlike (k : Sink) (path : Path) (report : Report) (written : List UInt8)
    (report' : Report) (written' : List UInt8) : Prop where
  same : report' = report.at path
  once : report'.included.length + report'.skipped.length + report'.failures.length = 1
  document : ∃ placed, Composed k report written placed
    ∧ Composed k report' written' (placed.filter (·.path = path))

section

variable {d : Disk} {selection : Option Resolver.Selection} {k : Sink} {r r' : Resolver}
  {root : Path} {name : Name} {scope : Scope} {excluded : Option Path} {report : Report}
  (hf : HoldsFile d selection root name) (hroom : ¬ (root.entry name).TooLong)

include hf hroom

/-- A sink that takes everything takes the block of the file, if it has one, by itself. -/
theorem HoldsFile.toldAlike_of_boundless (hsound : ∀ s ∈ selection, s.Sound d)
    (hs : Ready d (selection.map fun s => Resolver.keyOf d s.file) (start r k))
    (hs' : Ready d (selection.map fun s => Resolver.keyOf d s.file) (start r' k))
    (hown : ∀ location, k.outlet = .file location →
      d.locate .content (root.entry name) = .ok location →
      isKeptOut (keysOf d excluded) d (root.entry name) = true) (hk : k.Boundless)
    (hok : (aggregate d scope [root] excluded (start r k)).result = .ok report) :
  ∃ report', (aggregate d scope [root.entry name] excluded (start r' k)).result = .ok report'
    ∧ ToldAlike k (root.entry name)
      report (aggregate d scope [root] excluded (start r k)).state.sink.written
      report' (aggregate d scope [root.entry name] excluded (start r' k)).state.sink.written
  := by
  have hd := hs.wellFormed
  have hflush := flushes_of_ok hs hok
  obtain ⟨rfl, deeds, hdone⟩ := (meets_aggregate hs scope [root] excluded).of_ok hok
  have hfree : ∀ path failure, .broken path failure ∉ argumentsVisits d
      (selection.map fun s => Resolver.keyOf d s.file) scope [root] := by
    intro path failure hmem
    obtain ⟨_, hstop, k', -, rfl⟩ := exists_deed hdone.becomes hmem
    apply hdone.goes failure hstop
  obtain ⟨above, above', hvisits, hvisits', hsame⟩ := hf.exists_asked hd hroom hsound hfree
  obtain ⟨deed, hdeed, hat, hone⟩ :=
    exists_deed_askedVisits d (keysOf d excluded) (root.entry name) above
  -- Of all that the scan of the directory does, one deed is about the file.
  have hdeeds : deeds.filter (·.at? = some (root.entry name)) = [deed] := by
    have hunread : Unread d k (keysOf d excluded) ((argumentsVisits d
        (selection.map fun s => Resolver.keyOf d s.file) scope [root]).filter
          (·.path = root.entry name)) := hvisits ▸ unread_askedVisits hown
    rw [filter_deeds hd hs.openOn hunread hdone.becomes, hvisits, hdeed]
    simp [hat]
  obtain ⟨report', hok'⟩ := aggregate_succeeds hs' scope [root.entry name] excluded hk hflush
    fun path failure => hvisits' ▸ not_broken_mem_askedVisits path failure
  use report', hok'
  obtain ⟨rfl, deeds', hdone'⟩ := (meets_aggregate hs' scope [root.entry name] excluded).of_ok hok'
  have hdeeds' : deeds' = [deed] := by
    have hbecomes := hdone'.becomes
    rw [hvisits'] at hbecomes
    rw [eq_map_deed hd hs'.openOn (unread_askedVisits hown) hbecomes, ← hdeed]
    apply hsame (keysOf d excluded)
  subst hdeeds'
  constructor
  · rw [hdone'.report, hdone.report, at_foldl_record, hdeeds]
    rfl
  · rw [hdone'.report]
    apply hone
  · use deeds.filterMap Deed.placed?, hdone.composed
    rw [filter_placed, hdeeds]
    apply hdone'.composed

end

/-- What is written of one path is no longer than what is written of all. -/
theorem ToldAlike.length_le {k : Sink} {path : Path} {report report' : Report}
    {written written' : List UInt8} (h : ToldAlike k path report written report' written') :
  written'.length ≤ written.length
  := by
  obtain ⟨placed, hall, hone⟩ := h.document
  have hblocks : (blocksOf (placed.filter (·.path = path))).length ≤ (blocksOf placed).length :=
    (List.filter_sublist.flatMap _).length_le
  rw [hall.written, hone.written]
  simpa [Nat.add_assoc] using hblocks

section

variable {d : Disk} {searchDirs : List Path} {selection : Option Resolver.Selection} {k : Sink}
  {r r' : Resolver} {root : Path} {name : Name} {scope : Scope} {excluded : Option Path}
  {report : Report}

/-- If an aggregation of a directory succeeds, so does one of a file in it, and tells of the file
what the other one tells of it.  Either both have it in the document, in the same way and with the
same block, or both skip it, or both report the same failure.  A file that the document goes to is
not the one which is told of, unless it is kept out. -/
theorem aggregate_named (hd : d.WellFormed) (hr : Reached d searchDirs r selection)
    (hr' : Reached d searchDirs r' selection) (hopen : k.OpenOn d)
    (hapart : ∀ location, k.outlet = .file location →
      ∀ path, Resolver.IsConfig d path → d.locate .content path ≠ .ok location)
    (hown : ∀ location, k.outlet = .file location →
      d.locate .content (root.entry name) = .ok location →
      isKeptOut (keysOf d excluded) d (root.entry name) = true)
    (hf : HoldsFile d selection root name) (hroom : ¬ (root.entry name).TooLong)
    (hok : (aggregate d scope [root] excluded (start r k)).result = .ok report) :
  ∃ report', (aggregate d scope [root.entry name] excluded (start r' k)).result = .ok report'
    ∧ ToldAlike k (root.entry name)
      report (aggregate d scope [root] excluded (start r k)).state.sink.written
      report' (aggregate d scope [root.entry name] excluded (start r' k)).state.sink.written
  := by
  obtain ⟨-, -, hsound⟩ := hr.sound hd
  by_cases hk : k.Boundless
  · apply hf.toldAlike_of_boundless hroom hsound (hr.ready hd hopen hapart)
      (hr'.ready hd hopen hapart) hown hk hok
  · -- What fits into the memory with the other files fits into it without them.
    simp only [Sink.Boundless, not_forall, not_not] at hk
    obtain ⟨limit, flushFails, ho⟩ := hk
    have hspare : k.accepted.length ≤ limit := by
      by_contra hfull
      have hsink : (start r k).sink.Full := ⟨limit, flushFails, ho, Nat.le_of_not_le hfull⟩
      obtain ⟨failure, herror⟩ := exists_error_of_full hsink
      rw [herror] at hok
      cases hok
    have hoff : (unbounded k flushFails).OffDisk := Sink.offDisk_of_memory rfl
    have hs := hr.ready hd (hoff.openOn d) fun location ho => absurd ho (hoff location)
    have hs' := hr'.ready hd (hoff.openOn d) fun location ho => absurd ho (hoff location)
    obtain ⟨hlength, hfree, hwritten⟩ :=
      (curtailed_aggregate ho hspare d scope [root] excluded r).of_ok hok
    obtain ⟨report', hok', htold⟩ := hf.toldAlike_of_boundless hroom hsound hs hs'
      (fun location ho => absurd ho (hoff location)) (by simp [Sink.Boundless, unbounded]) hfree
    obtain ⟨hresult, hwritten'⟩ :=
      (curtailed_aggregate ho hspare d scope [root.entry name] excluded r').of_fits
        (htold.length_le.trans hlength)
    use report', hresult.trans hok'
    rw [hwritten, hwritten']
    obtain ⟨placed, hall, hone⟩ := htold.document
    have hbefore := (written_unbounded ho).symm
    use htold.same, htold.once, placed, hall.of_written hbefore rfl
    apply hone.of_written hbefore rfl

end

/-! ### Aggregations of a small disk -/

/-- An aggregation succeeds with the report of what is due, if that goes on to its end. -/
theorem result_of_dueDeeds {d : Disk} {globalKey : Option Path} {r : Resolver} {k : Sink}
    (hs : Ready d globalKey (start r k)) (hk : k.Unlimited) {scope : Scope} {paths : List Path}
    {excluded : Option Path} {deeds : List Deed}
    (hdue : dueDeeds d globalKey scope excluded paths = deeds) (hgoes : Goes deeds) :
  (aggregate d scope paths excluded (start r k)).result = .ok (deeds.foldl Deed.record .empty)
  := by
  obtain ⟨report, hok⟩ := (aggregate_succeeds_iff hs hk).mpr (hdue ▸ hgoes)
  obtain ⟨hreport, hdone⟩ := aggregated_dueDeeds hs hk hok
  rw [hdone.report, hdue] at hreport
  rw [hok, hreport]
  rfl

theorem siblingDisk_holdsFile {root : Path}
    (hroot : (siblingDisk plainEntries).locate .content root = .ok [['b']]) :
  HoldsFile (siblingDisk plainEntries) none root ['x']
  := by
  have hnode : (siblingDisk plainEntries).node? root = .ok (.dir plainEntries) :=
    Disk.node?_eq_ok_iff.mpr ⟨_, hroot, rfl⟩
  constructor
  · exact ⟨plainEntries, .file [104], hnode, List.mem_cons_self, rfl, rfl⟩
  · have hnone := Resolver.findConfig?_eq_none hnode (by decide)
    intro path hconfig
    exact absurd hconfig (Resolver.findConfig?_eq_none_iff.mp hnone path)

/-- The aggregations of the directory `b` and of the file in it both succeed and tell the same of
the file, which is in both documents. -/
theorem aggregate_named_sample :
  ∃ report report' written written',
    (aggregate (siblingDisk plainEntries) .empty [⟨"b"⟩] none inMemory).result = .ok report
    ∧ (aggregate (siblingDisk plainEntries) .empty [⟨"b/x"⟩] none inMemory).result = .ok report'
    ∧ report.included.length = 1
    ∧ ToldAlike inMemory.sink ⟨"b/x"⟩ report written report' written'
  := by
  obtain ⟨hroot, hpath, hread⟩ := siblingDisk_read_b
  have hfresh : Reached (siblingDisk plainEntries) [] (.empty []) none := .fresh
  have hoff : inMemory.sink.OffDisk := Sink.offDisk_of_memory rfl
  have hroom : ¬ ((⟨"b"⟩ : Path).entry ['x']).TooLong := by
    rw [Path.TooLong, hpath]
    decide
  obtain ⟨report, hok, hcount⟩ := siblingDisk_included_b hroot
  obtain ⟨report', hok', htold⟩ := aggregate_named sibling_twins.left hfresh hfresh
    (hoff.openOn _) (fun location ho => absurd ho (hoff location))
    (fun location ho => absurd ho (hoff location)) (siblingDisk_holdsFile hroot) hroom hok
  rw [hread] at hcount
  rw [hpath] at hok' htold
  exact ⟨report, report', _, _, hok, hok', hcount, htold⟩

/-- A file of a directory that is spelled with many slashes can have a path that is too long.  The
aggregation of the directory reports it, and that of the file says nothing of it. -/
theorem named_slashed_untold :
  HoldsFile (siblingDisk plainEntries) none (slashed 4094) ['x']
    ∧ ∃ report report',
      (aggregate (siblingDisk plainEntries) .empty [slashed 4094] none inMemory).result = .ok report
      ∧ (aggregate (siblingDisk plainEntries) .empty [(slashed 4094).entry ['x']] none
        inMemory).result = .ok report'
      ∧ report.failures = [.reading ((slashed 4094).entry ['x']) .nameTooLong]
      ∧ report' = .empty
      ∧ report' ≠ report.at ((slashed 4094).entry ['x'])
  := by
  have hroot : (siblingDisk plainEntries).locate .content (slashed 4094) = .ok [['b']] :=
    locate_slashed (by decide) (by decide) rfl
  have hlocate : (siblingDisk plainEntries).locate .content ((slashed 4094).entry ['x'])
      = .error .nameTooLong := locate_slashed_entry rfl
  have hread := Disk.read_of_locate hlocate
  have hdue : dueDeeds (siblingDisk plainEntries) none .empty none [slashed 4094]
      = [.note (.reading ((slashed 4094).entry ['x']) .nameTooLong)] := by
    rw [dueDeeds, siblingDisk_visits_b hroot, List.map_singleton, Visit.deed, fileDeed, hread]
    rfl
  have hdue' : dueDeeds (siblingDisk plainEntries) none .empty none [(slashed 4094).entry ['x']]
      = [] := by
    have hnode : (siblingDisk plainEntries).node? ((slashed 4094).entry ['x'])
        = .error .nameTooLong := by
      rw [Disk.node?, hlocate]
      rfl
    rw [dueDeeds, argumentsVisits_of_node? _ _ hnode]
    rfl
  have hs := inMemory_ready sibling_twins.left
  have hsink : inMemory.sink.Unlimited := Sink.unlimited_empty_memory ⟨"out.md"⟩ "maid"
  have hok := result_of_dueDeeds hs hsink hdue (by simp [Goes])
  have hok' := result_of_dueDeeds hs hsink hdue' (by simp [Goes])
  refine ⟨siblingDisk_holdsFile hroot, _, _, hok, hok', ?_⟩
  generalize (slashed 4094).entry ['x'] = path
  refine ⟨rfl, rfl, fun heq => ?_⟩
  have hfailures := congrArg Report.failures heq
  simp [Report.at, Failure.at?, Deed.record, Report.note, Report.empty] at hfailures

end Scan

end Compendium
