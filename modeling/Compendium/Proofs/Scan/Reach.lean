import Compendium.Proofs.Scan.Slashed
import Compendium.Proofs.Scan.Walk

/-!
# Which files a scan reaches

A scan of a directory reaches a file below it if every directory on the way is a real one that
the context of its parent does not ignore, and the context of the last of them does not ignore
the file.  The contexts are those that the directories on the way extend, one after the other;
what stands deeper or in other directories does not count.  A scan that succeeds has put the
files that it reaches into the document, unless their paths are too long, and no others.
-/

namespace Compendium.Scan

/-! ### Contexts on the way down -/

/-- The context in the directory that names lead to.  They start at a directory that has the
context `context`, and each directory that they lead to contributes to it. -/
def contextDown (d : Disk) (globalKey : Option Path) (context : Context) (path : Path) :
    List Name → Except Failure Context
  | [] => .ok context
  | name :: names => do
    let own ← Resolver.ownContext d globalKey (path.entry name)
    contextDown d globalKey (context.extended own) (path.entry name) names

/-- Whether names lead from a directory, with the given entries and context, to a file that is not
ignored, through directories that are not ignored.  The directory that holds the file has the
context `parent`. -/
structure Reaches (d : Disk) (globalKey : Option Path) (context : Context) (path : Path)
    (entries : Entries) (names : List Name) (parent : Context) : Prop where
  /-- The names lead to a regular file or to a link to one. -/
  entry : ∃ node, (Node.dir entries).at? names = some node ∧ node.isDir = false
    ∧ d.isFileEntry (path.down names) node = true
  entered : ∀ i, 0 < i → i < names.length →
    (Node.dir entries).kindAt (names.take i) = some .dir
      ∧ ∃ above, contextDown d globalKey context path (names.take (i - 1)) = .ok above
        ∧ above.patterns.isIgnored (path.down (names.take i)) true = false
  holder : contextDown d globalKey context path names.dropLast = .ok parent
  kept : parent.patterns.isIgnored (path.down names) false = false

section

variable {d : Disk} {globalKey : Option Path} {context parent : Context} {path : Path}
  {entries : Entries}

/-- Only valid names lead to a file. -/
theorem Reaches.valid {names : List Name} (hwf : (Node.dir entries).WellFormed)
    (h : Reaches d globalKey context path entries names parent) :
  ∀ n ∈ names, Name.Valid n
  := by
  obtain ⟨node, hat, -⟩ := h.entry
  apply (hwf.at? hat).2

/-- What is reached is found by its path exactly if that is not too long. -/
theorem Reaches.isFile_iff {names : List Name} {l : Location} (hd : d.WellFormed)
    (hl : d.locate .content path = .ok l) (hat : d.root.at? l = some (.dir entries))
    (h : Reaches d globalKey context path entries names parent) :
  d.isFile (path.down names) = true ↔ ¬ (path.down names).TooLong
  := by
  obtain ⟨node, hnode, -, hentry⟩ := h.entry
  have hdir : d.root.kindAt l = some .dir := Node.kindAt_eq_dir_iff.mpr ⟨entries, hat⟩
  have hthere : d.root.at? (l ++ names) = some node := by rwa [Node.at?_append, hat]
  apply Disk.isFile_down_iff_of_isFileEntry hd hl hdir hthere hentry

end

/-! ### Visits to files -/

section

variable {d : Disk} {globalKey : Option Path}

theorem sizeOf_lt_of_mem {name : Name} {below : Entries} :
  ∀ {entries : Entries}, (name, .dir below) ∈ entries.toList → sizeOf below < sizeOf entries
  | .cons other node rest, h => by
    rcases List.mem_cons.mp h with heq | hmem
    · obtain ⟨rfl, rfl⟩ := Prod.mk.inj heq
      simp
      omega
    · have ih := sizeOf_lt_of_mem hmem
      simp
      omega

end

/-- A directory `b` with files `x` and `y` in it, and a link `l` to `y`. -/
def sampleEntries : Entries :=
  .cons ['b'] (.dir (.cons ['x'] (.file [104]) (.cons ['y'] (.file [105]) .nil)))
    (.cons ['l'] (.link ['b', '/', 'y']) .nil)

/-- A disk with these entries. -/
def sampleDisk : Disk := ⟨.dir sampleEntries, []⟩

theorem sampleDisk_wellFormed :
  sampleDisk.WellFormed
  := by
  have hb : Name.Valid ['b'] := by constructor <;> decide
  have hl : Name.Valid ['l'] := by constructor <;> decide
  have hx : Name.Valid ['x'] := by constructor <;> decide
  have hy : Name.Valid ['y'] := by constructor <;> decide
  constructor
  · simp only [sampleDisk, sampleEntries, Node.WellFormed, Entries.WellFormed, hb, hl, hx, hy,
      Entries.names_cons, Entries.names_nil, true_and, and_true]
    decide
  · rfl

theorem sampleDisk_here :
  sampleDisk.node? ⟨"."⟩ = .ok (.dir sampleEntries)
  := by cbv

theorem sampleDisk_below :
  sampleDisk.node? ⟨"./b"⟩
    = .ok (.dir (.cons ['x'] (.file [104]) (.cons ['y'] (.file [105]) .nil)))
  := by cbv

theorem sampleDisk_ownContext :
  Resolver.ownContext sampleDisk none ⟨"."⟩ = .ok .empty
    ∧ Resolver.ownContext sampleDisk none ⟨"./b"⟩ = .ok .empty
  := by
  constructor
  · apply Resolver.ownContext_eq_empty sampleDisk_here
    decide
  · apply Resolver.ownContext_eq_empty sampleDisk_below
    decide

/-- The paths of the entries that are visited. -/
theorem samplePath_entry :
  Path.entry ⟨"."⟩ ['b'] = ⟨"./b"⟩ ∧ Path.entry ⟨"./b"⟩ ['x'] = ⟨"./b/x"⟩
    ∧ Path.entry ⟨"."⟩ ['l'] = ⟨"./l"⟩
  := by decide

/-- In whichever context it is seen, the directory has no configuration that cannot be used. -/
theorem sampleDisk_not_broken (above : Context) (path : Path) (failure : Failure) :
  .broken path failure ∉ directoryVisits sampleDisk none ⟨"."⟩ above
  := by
  obtain ⟨hown, hbelow⟩ := sampleDisk_ownContext
  intro hmem
  rw [directoryVisits, hown, rootEntries_of_node? sampleDisk_here] at hmem
  rcases List.mem_append.mp hmem with hmem | hmem
  · apply broken_notMem_filesVisits hmem
  · revert hmem
    rw [sampleEntries, dirsVisits, dirsVisits, dirsVisits, samplePath_entry.1, nodeVisits,
      nodeVisits, hbelow, sampleDisk_below]
    · simp only [dirsVisits, nodeVisits, List.append_nil]
      split
      · simp
      · apply broken_notMem_filesVisits
    · simp

section

variable {root : Path} (hroot : sampleDisk.locate .content root = .ok [['b']])

include hroot

end

end Compendium.Scan
