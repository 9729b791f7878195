import Mathlib.Data.List.Pairwise
import Compendium.Proofs.Scan.Marks
import Compendium.Proofs.Scan.Reach

/-!
# The report is in the order of the walk

A scan of a directory that succeeds has left marks in the order of the walk, and its report says
what they say.  So neither the files that are included nor the entries that are skipped are told
of twice, and each file that can be reached through the directories that were entered is told of
once.
-/

namespace Compendium

namespace Entries

/-- The names of the entries that are no directories. -/
def fileNames (entries : Entries) : List Name :=
  (entries.toList.filter fun entry => !entry.2.isDir).map (·.1)

/-- The names of the directories among entries. -/
def dirNames (entries : Entries) : List Name :=
  (entries.toList.filter fun entry => entry.2.isDir).map (·.1)

theorem mem_fileNames_iff {entries : Entries} {name : Name} :
  name ∈ entries.fileNames ↔ ∃ node, (name, node) ∈ entries.toList ∧ node.isDir = false
  := by
  simp [fileNames]

theorem mem_dirNames_iff {entries : Entries} {name : Name} :
  name ∈ entries.dirNames ↔ ∃ node, (name, node) ∈ entries.toList ∧ node.isDir = true
  := by
  simp [dirNames]

/-- An entry is a directory or not. -/
theorem mem_names_iff {entries : Entries} {name : Name} :
  name ∈ entries.names ↔ name ∈ entries.fileNames ∨ name ∈ entries.dirNames
  := by
  rw [mem_fileNames_iff, mem_dirNames_iff, names, List.mem_map]
  constructor
  · rintro ⟨⟨_, node⟩, hmem, rfl⟩
    cases hnode : node.isDir with
    | true =>
      right
      use node, hmem, hnode
    | false =>
      left
      use node, hmem, hnode
  · rintro (⟨node, hmem, -⟩ | ⟨node, hmem, -⟩) <;> exact ⟨_, hmem, rfl⟩

end Entries

namespace Scan

/-- The failure that is noted by a deed. -/
def Deed.noted? : Deed → Option Failure
  | .note failure => some failure
  | _ => none

theorem failures_foldl_record (deeds : List Deed) (report : Report) :
  (deeds.foldl Deed.record report).failures = report.failures ++ deeds.filterMap Deed.noted?
  := by
  induction deeds generalizing report with
  | nil => simp
  | cons deed deeds ih =>
    rw [List.foldl_cons, ih]
    cases deed <;> simp [List.filterMap_cons, Deed.record, Deed.noted?, Report.skip, Report.note,
      Report.add]

/-! ### What a run leaves -/

/-- Whether the report has what marks say, added to what it had. -/
structure Recorded (marks : List Mark) (s s' : Scan) : Prop where
  report : s'.report = (marks.map Mark.deed).foldl Deed.record s.report
  outlet : s'.sink.outlet = s.sink.outlet

/-- Whether an action, if it succeeds, leaves marks of which `P` holds. -/
def Leaves (P : List Mark → Prop) (s : Scan) (x : Action Scan Unit) : Prop :=
  x.Meets s (fun _ s' => ∃ marks, P marks ∧ Recorded marks s s') (fun _ _ => True)

section

variable {s s' s'' : Scan} {marks marks' : List Mark} {P Q R : List Mark → Prop}

theorem Recorded.refl :
  Recorded [] s s
  := ⟨rfl, rfl⟩

theorem Recorded.trans (h : Recorded marks s s') (h' : Recorded marks' s' s'') :
  Recorded (marks ++ marks') s s''
  := by
  constructor
  · rw [h'.report, h.report, List.map_append, List.foldl_append]
  · apply h'.outlet.trans h.outlet

theorem Leaves.mono {x : Action Scan Unit} (h : Leaves P s x)
    (himp : ∀ marks, P marks → Q marks) :
  Leaves Q s x
  := by
  apply Action.Meets.mono h
  · rintro _ s' ⟨marks, hmarks, hrecorded⟩
    exact ⟨marks, himp marks hmarks, hrecorded⟩
  · exact fun _ _ h => h

section

variable {d : Disk}

variable {path : Path} {all : Entries}

/-- The marks of a directory are left as marks below the directory above it. -/
theorem Leaves.under {x : Action Scan Unit} (h : Leaves P s x) (name : Name) :
  Leaves (fun marks => ∃ inner, marks = inner.map (.under name) ∧ P inner) s x
  := by
  apply Action.Meets.mono h
  · rintro _ s' ⟨inner, hinner, hrecorded⟩
    refine ⟨_, ⟨inner, rfl, hinner⟩, ?_, hrecorded.outlet⟩
    rw [List.map_map]
    apply hrecorded.report
  · intro _ _ h
    apply h

/-- What a directory leaves together with what is below it. -/
theorem Walked.whole {entries : Entries} {marks marks' : List Mark} (hwf : entries.WellFormed)
    (h : Walked d path entries (· ∈ entries.fileNames) marks)
    (h' : Walked d path entries (· ∈ entries.dirNames) marks') :
  Walked d path entries (· ∈ entries.names) (marks ++ marks')
  := by
  apply (h.append h' ?_).congr
  · intro name
    apply Entries.mem_names_iff
  · intro x y hx hy
    obtain ⟨node, hmem, hnode⟩ := Entries.mem_fileNames_iff.mp hx
    obtain ⟨node', hmem', hnode'⟩ := Entries.mem_dirNames_iff.mp hy
    apply entryBefore_of_isDir ((Entries.find?_eq_some_iff hwf).mpr hmem)
      ((Entries.find?_eq_some_iff hwf).mpr hmem') hnode hnode'

/-- The entries that a scan finds at its root: none if that is no directory. -/
def entriesAt (d : Disk) (root : Path) : Entries := (rootEntries d root).toOption.getD .nil

theorem node?_of_rootEntries {root : Path} {entries : Entries}
    (h : rootEntries d root = .ok entries) :
  entries = .nil ∨ d.node? root = .ok (.dir entries)
  := by
  rw [rootEntries] at h
  cases hl : d.locate .entry root with
  | error fault => simp [hl, bind, Except.bind] at h
  | ok l =>
    cases hnode : d.node? root with
    | error fault => simp [hl, hnode, bind, Except.bind] at h
    | ok node =>
      rw [hl, hnode] at h
      cases node with
      | file bytes =>
        left
        apply (Except.ok.inj h).symm
      | link target =>
        left
        apply (Except.ok.inj h).symm
      | dir found =>
        obtain rfl : found = entries := Except.ok.inj h
        right
        rfl

theorem wellFormed_entriesAt (hd : d.WellFormed) (root : Path) :
  (entriesAt d root).WellFormed
  := by
  rw [entriesAt]
  cases hroot : rootEntries d root with
  | error fault => trivial
  | ok entries =>
    rcases node?_of_rootEntries hroot with rfl | hnode
    · trivial
    · obtain ⟨l, -, hat⟩ := Disk.node?_eq_ok_iff.mp hnode
      apply (hd.root.at? hat).1

end

end

/-! ### What the report tells of a path -/

/-- Whether the report says of no directory on the way down to an entry that it has been skipped
or cannot be listed. -/
def EntersAbove (report : Report) (root : Path) (names : List Name) : Prop :=
  ∀ above, above ≠ [] → above <+: names → above ≠ names →
    root.down above ∉ report.skipped ∧ ∀ fault, .walking (root.down above) fault ∉ report.failures

section

variable {d : Disk} {root : Path} {entries : Entries} {these : Name → Prop} {marks : List Mark}

/-- The path that a deed tells of, in the report or in one of its failures. -/
def Deed.at? : Deed → Option Path
  | .skip path => some path
  | .add path _ _ => some path
  | .note (.reading path _) => some path
  | .note (.walking path _) => some path
  | _ => none

theorem at?_of_fileDeed {path : Path} {deed : Deed} (h : FileDeed path deed) :
  deed.at? = some path
  := by
  cases h <;> rfl

theorem at?_of_dirDeed {path : Path} {deed : Deed} (h : DirDeed path deed) :
  deed.at? = some path
  := by
  cases h <;> rfl

/-- A mark tells of the path that its names lead to. -/
theorem Walked.at?_eq (h : Walked d root entries these marks) {m : Mark} (hm : m ∈ marks) :
  m.deed.at? = some (root.down m.names)
  := by
  obtain ⟨kind, -, hdir, hfile⟩ := h.fits m hm
  by_cases hkind : kind = .dir
  · apply at?_of_dirDeed (hdir hkind)
  · apply at?_of_fileDeed (hfile hkind)

/-- The names of a mark can stand in a path. -/
theorem Walked.valid (h : Walked d root entries these marks) (hwf : entries.WellFormed)
    {m : Mark} (hm : m ∈ marks) :
  ∀ n ∈ m.names, Name.Valid n
  := by
  obtain ⟨kind, hkind, -⟩ := h.fits m hm
  obtain ⟨node, hnode, -⟩ := Option.map_eq_some_iff.mp hkind
  have hdir : (Node.dir entries).WellFormed := hwf
  exact (hdir.at? hnode).2

/-- The entry of a deed in the list of files, without what is said of it. -/
def Deed.file? (deed : Deed) : Option Path := deed.added?.map (·.1)

theorem skipped_record (deeds : List Deed) :
  (deeds.foldl Deed.record .empty).skipped = deeds.filterMap Deed.skipped?
  := by
  rw [skipped_foldl_record]
  rfl

theorem failures_record (deeds : List Deed) :
  (deeds.foldl Deed.record .empty).failures = deeds.filterMap Deed.noted?
  := by
  rw [failures_foldl_record]
  rfl

/-- Where no directory above an entry is told of, none has a mark. -/
theorem Walked.entered (h : Walked d root entries these marks) {names : List Name} {node : Node}
    (hat : (Node.dir entries).at? names = some node)
    (henters : EntersAbove ((marks.map Mark.deed).foldl Deed.record .empty) root names) :
  Entered marks names
  := by
  intro above hne hprefix hproper deed hmem
  obtain ⟨hskip, hwalk⟩ := henters above hne hprefix hproper
  obtain ⟨kind', hkind', hdir, -⟩ := h.fits _ hmem
  obtain ⟨below, rfl⟩ := hprefix
  have habove : (Node.dir entries).kindAt above = some .dir := by
    apply Node.kindAt_of_append (m := below)
    · rintro rfl
      simp at hproper
    · simp [hat]
  obtain rfl : Node.Kind.dir = kind' := Option.some.inj (habove.symm.trans hkind')
  have hdeed : DirDeed (root.down above) deed := hdir rfl
  have hmem := List.mem_map_of_mem (f := Mark.deed) hmem
  rw [skipped_record, List.mem_filterMap] at hskip
  simp only [failures_record, List.mem_filterMap] at hwalk
  cases hdeed with
  | skip => apply hskip ⟨_, hmem, rfl⟩
  | walking fault => apply hwalk fault ⟨_, hmem, rfl⟩

end

/-! ### The whole report -/

end Scan

end Compendium
