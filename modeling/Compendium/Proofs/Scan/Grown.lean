import Mathlib.Data.List.Find
import Mathlib.Data.List.Sort
import Compendium.Proofs.Disk.Overwritten
import Compendium.Proofs.Scan.Reach

/-!
# Disks on which a file has been made

On a disk on which a file has been made there is one more file, and there may be new directories.
A scan of what was there before, and in which the new file is not, still comes upon the same files
and the same broken configurations, in the same order.  In a new directory there is nothing that
gets into the document, and nothing that stops the scan.
-/

namespace Compendium

/-! ### Entries at a location -/

namespace Entries

theorem isSome_find?_iff {name : Name} {entries : Entries} :
  (entries.find? name).isSome = true ↔ name ∈ entries.names
  := by
  induction entries using induction_along with
  | nil => simp
  | cons other node rest ih =>
    rw [find?_cons, names_cons, List.mem_cons]
    split
    · simp_all
    · rename_i hne
      rw [ih, or_iff_right hne]

theorem WellFormed.pairwise_names :
  ∀ {entries : Entries}, entries.WellFormed → entries.names.Pairwise (· < ·)
  | .nil, _ => .nil
  | .cons _ _ _, h => .cons h.2.1 (WellFormed.pairwise_names h.2.2.2)

/-- What is made of entries one after the other is the same for entries with more names, if
nothing is made of the others. -/
theorem flatMap_toList_eq {α : Type} {entries entries' : Entries} (h : entries.WellFormed)
    (h' : entries'.WellFormed) (hnames : entries.names ⊆ entries'.names)
    {f f' : Name × Node → List α}
    (heq : ∀ name node, (name, node) ∈ entries'.toList →
      f' (name, node) = (entries.find? name).elim [] fun node => f (name, node)) :
  entries'.toList.flatMap f' = entries.toList.flatMap f
  := by
  let shown (name : Name) : List α := (entries.find? name).elim [] fun node => f (name, node)
  have hsame : entries'.names.filter (fun name => (entries.find? name).isSome) = entries.names := by
    apply (h'.pairwise_names.filter _).eq_of_mem_iff h.pairwise_names
    intro name
    rw [List.mem_filter, isSome_find?_iff]
    use And.right
    intro hname
    use hnames hname, hname
  have hskip (names : List Name) :
      names.flatMap shown
        = (names.filter fun name => (entries.find? name).isSome).flatMap shown := by
    induction names with
    | nil => rfl
    | cons name names ih =>
      rw [List.flatMap_cons, List.filter_cons, ih]
      cases hfind : entries.find? name <;> simp [shown, hfind]
  calc
    entries'.toList.flatMap f' = entries'.toList.flatMap fun e => shown e.1 :=
      List.flatMap_congr fun e he => heq e.1 e.2 he
    _ = entries'.names.flatMap shown := by rw [names, List.flatMap_map]
    _ = entries.names.flatMap shown := by rw [hskip, hsame]
    _ = entries.toList.flatMap fun e => shown e.1 := by rw [names, List.flatMap_map]
    _ = entries.toList.flatMap f := by
      apply List.flatMap_congr
      intro e he
      dsimp only [shown]
      rw [(find?_eq_some_iff h).mpr he]
      rfl

end Entries

namespace Node

/-- The entries of a directory.  What is no directory has none. -/
def entries : Node → Entries
  | .dir entries => entries
  | _ => .nil

/-- The entries of what is at a location. -/
def entriesAt (root : Node) (l : Location) : Entries := (root.at? l).elim .nil entries

theorem entriesAt_of_at? {root : Node} {l : Location} {entries : Entries}
    (h : root.at? l = some (.dir entries)) :
  root.entriesAt l = entries
  := by
  rw [entriesAt, h]
  rfl

theorem find?_entriesAt (root : Node) (l : Location) (name : Name) :
  (root.entriesAt l).find? name = root.at? (l ++ [name])
  := by
  rw [at?_append, entriesAt]
  cases root.at? l with
  | none => rfl
  | some node => cases node <;> simp [entries]

theorem WellFormed.entriesAt {root : Node} (h : root.WellFormed) (l : Location) :
  (root.entriesAt l).WellFormed
  := by
  rw [Node.entriesAt]
  cases hat : root.at? l with
  | none => trivial
  | some node =>
    have hnode := (h.at? hat).1
    cases node with
    | dir entries => apply hnode
    | file => trivial
    | link => trivial

end Node

namespace Scan

/-! ### Visits that count -/

/-- Whether a visit can add to the document or stop the scan. -/
def Visit.counts : Visit → Bool
  | .file .. | .broken .. => true
  | .ignored _ | .unlisted .. => false

/-- The visits that can add to the document or stop the scan. -/
def counting (visits : List Visit) : List Visit := visits.filter Visit.counts

@[simp]
theorem counting_append (visits visits' : List Visit) :
  counting (visits ++ visits') = counting visits ++ counting visits'
  := List.filter_append visits visits'

theorem counting_flatMap {α : Type} (as : List α) (f : α → List Visit) :
  counting (as.flatMap f) = as.flatMap fun a => counting (f a)
  := List.filter_flatMap

theorem mem_counting_iff {visit : Visit} {visits : List Visit} :
  visit ∈ counting visits ↔ visit ∈ visits ∧ visit.counts = true
  := List.mem_filter

/-- The visits to the files of a directory, entry by entry. -/
theorem filesVisits_eq_flatMap (d : Disk) (context : Context) (path : Path) (down : List Name)
    (entries : Entries) :
  filesVisits d context path down entries = entries.toList.flatMap fun e =>
    if e.2.isDir then []
    else fileVisits d context (path.entry e.1) (.ofNames (down ++ [e.1])) e.2
  := by
  induction entries using Entries.induction_along with
  | nil => rfl
  | cons name node rest ih => rw [filesVisits, ih, Entries.toList_cons, List.flatMap_cons]

/-- The visits to the directories in a directory, entry by entry. -/
theorem dirsVisits_eq_flatMap (d : Disk) (globalKey : Option Path) (context : Context)
    (path : Path) (down : List Name) (entries : Entries) :
  dirsVisits d globalKey context path down entries = entries.toList.flatMap fun e =>
    nodeVisits d globalKey context (path.entry e.1) (down ++ [e.1]) e.2
  := by
  induction entries using Entries.induction_along with
  | nil => rfl
  | cons name node rest ih => rw [dirsVisits, ih, Entries.toList_cons, List.flatMap_cons]

/-! ### Disks with a new file -/

/-- Two disks without links.  On the second one, a file has been made at a location at which the
first one has nothing, and directories may have been made. -/
structure Grown (l : Location) (d d' : Disk) : Prop where
  left : d.WellFormed
  right : d'.WellFormed
  linkFree : d.LinkFree
  keeps : Disk.Keeps (· = l) d d'
  new : d.root.kindAt l = none

/-- Whether a path leads to nothing but what it led to before a file was made, in which the file
is not. -/
def LeadsAside (l : Location) (d d' : Disk) (path : Path) : Prop :=
  ∀ m, d'.locate .content path = .ok m → d.locate .content path = .ok m ∧ ¬ m <+: l

section

variable {l : Location} {d d' : Disk} (h : Grown l d d')

include h

theorem Grown.linkFree' :
  d'.LinkFree
  := h.keeps.linkFree h.linkFree

/-- What was there before is not where the file has been made. -/
theorem Grown.ne {m : Location} {node : Node} (hat : d.root.at? m = some node) :
  m ≠ l
  := by
  rintro rfl
  have hnew := h.new
  simp [Node.kindAt, hat] at hnew

/-- What was there before is still there, of the same kind. -/
theorem Grown.kindAt {m : Location} {kind : Node.Kind} (hk : d.root.kindAt m = some kind) :
  d'.root.kindAt m = some kind
  := by
  obtain ⟨node, hat, -⟩ := Option.map_eq_some_iff.mp hk
  apply h.keeps.kindAt m kind (h.ne hat) hk

/-- A directory still has the entries that it had. -/
theorem Grown.names_subset (m : Location) :
  (d.root.entriesAt m).names ⊆ (d'.root.entriesAt m).names
  := by
  intro name hname
  rw [← Entries.isSome_find?_iff, Node.find?_entriesAt] at hname ⊢
  obtain ⟨node, hat⟩ := Option.isSome_iff_exists.mp hname
  have hkind : d.root.kindAt (m ++ [name]) = some node.kind := by
    rw [Node.kindAt, hat]
    rfl
  simpa [Node.kindAt] using congrArg Option.isSome (h.kindAt hkind)

/-- A path still leads where it led before. -/
theorem Grown.locate {path : Path} {m : Location} (hm : d.locate .content path = .ok m) :
  d'.locate .content path = .ok m
  := by
  obtain ⟨node, hat, -⟩ := h.left.exists_of_locate hm
  apply h.keeps.locate h.linkFree (h.ne hat) hm

/-- A path that led somewhere reads the same as before. -/
theorem Grown.read {path : Path} {m : Location} (hm : d.locate .content path = .ok m) :
  d'.read path = d.read path
  := by
  have hm' := h.locate hm
  obtain ⟨node, hat, -⟩ := h.left.exists_of_locate hm
  cases node with
  | file bytes =>
    have hread := Disk.read_eq_ok_iff.mpr ⟨m, hm, hat⟩
    rw [hread, h.keeps.read h.linkFree (h.ne hat) hm hread]
  | dir entries =>
    have hdir : d.root.kindAt m = some .dir := Node.kindAt_eq_dir_iff.mpr ⟨entries, hat⟩
    obtain ⟨entries', hat'⟩ := Node.kindAt_eq_dir_iff.mp (h.kindAt hdir)
    rw [Disk.read, Disk.read, Disk.node?_eq_ok_iff.mpr ⟨m, hm, hat⟩,
      Disk.node?_eq_ok_iff.mpr ⟨m, hm', hat'⟩]
    rfl
  | link target =>
    apply absurd _ (h.linkFree m target)
    rw [Node.kindAt, hat]
    rfl

section

variable {root : Path} {m : Location} (hroot : d.locate .content root = .ok m)
  (hdir : d.root.kindAt m = some .dir) (hout : ¬ m <+: l)

omit hroot hdir in
include hout in
/-- Below the root there are only new directories besides what was there. -/
theorem Grown.at?_cases {names : List Name} {node' : Node}
    (hat' : d'.root.at? (m ++ names) = some node') :
  (d.root.at? (m ++ names) = none ∧ ∃ entries, node' = .dir entries)
    ∨ (∃ bytes, d.root.at? (m ++ names) = some (.file bytes) ∧ node' = .file bytes)
    ∨ ∃ entries entries', d.root.at? (m ++ names) = some (.dir entries) ∧ node' = .dir entries'
  := by
  have hne : m ++ names ≠ l := by
    rintro rfl
    apply hout (List.prefix_append m names)
  have hkind' : d'.root.kindAt (m ++ names) = some node'.kind := by rw [Node.kindAt, hat']; rfl
  cases hat : d.root.at? (m ++ names) with
  | none =>
    have hnone : d.root.kindAt (m ++ names) = none := by rw [Node.kindAt, hat]; rfl
    have hnew := h.keeps.new _ hne hnone
    rw [hkind'] at hnew
    left
    use rfl
    apply Node.kind_eq_dir_iff.mp (by simpa using hnew)
  | some node =>
    right
    have hkind : d.root.kindAt (m ++ names) = some node.kind := by rw [Node.kindAt, hat]; rfl
    have hsame : node'.kind = node.kind := by
      simpa using hkind'.symm.trans (h.kindAt hkind)
    cases node with
    | file bytes =>
      left
      have hbytes := h.keeps.bytesAt _ bytes hne (Node.bytesAt_eq_some_iff.mpr hat)
      have hfile := Node.bytesAt_eq_some_iff.mp hbytes
      use bytes, rfl
      apply Option.some.inj (hat'.symm.trans hfile)
    | dir entries =>
      right
      obtain ⟨entries', rfl⟩ := Node.kind_eq_dir_iff.mp hsame
      exact ⟨entries, entries', rfl, rfl⟩
    | link target => apply absurd hkind (h.linkFree _ target)

include hroot hdir in
theorem Grown.locate_eq {names : List Name} {node : Node}
    (hat : d.root.at? (m ++ names) = some node) :
  d'.locate .content (root.down names) = d.locate .content (root.down names)
  := by
  have hsome : (d'.root.kindAt (m ++ names)).isSome = true := by
    have hkind : d.root.kindAt (m ++ names) = some node.kind := by rw [Node.kindAt, hat]; rfl
    rw [h.kindAt hkind]
    rfl
  obtain ⟨node', hat'⟩ : ∃ node', d'.root.at? (m ++ names) = some node' := by
    simpa [Node.kindAt, Option.isSome_iff_exists] using hsome
  rw [h.linkFree.locate_down hroot hdir h.left hat,
    h.linkFree'.locate_down (h.locate hroot) (h.kindAt hdir) h.right hat']

include hroot hdir in
/-- A directory that was there can be listed as it could before. -/
theorem Grown.node?_cases {names : List Name} {entries entries' : Entries}
    (hat : d.root.at? (m ++ names) = some (.dir entries))
    (hat' : d'.root.at? (m ++ names) = some (.dir entries')) :
  (∃ fault, d.node? (root.down names) = .error fault
      ∧ d'.node? (root.down names) = .error fault)
    ∨ d.node? (root.down names) = .ok (.dir entries)
      ∧ d'.node? (root.down names) = .ok (.dir entries')
  := by
  have hlocate := h.locate_eq hroot hdir hat
  have hdown := h.linkFree.locate_down hroot hdir h.left hat
  split at hdown
  · left
    use .nameTooLong
    rw [Disk.node?, Disk.node?, hlocate, hdown]
    constructor
    · rfl
    · rfl
  · right
    use Disk.node?_eq_ok_iff.mpr ⟨_, hdown, hat⟩
    apply Disk.node?_eq_ok_iff.mpr ⟨_, hlocate.trans hdown, hat'⟩

include hroot hdir hout

theorem Grown.isFile_eq {names : List Name} (hv : ∀ n ∈ names, Name.Valid n) :
  d.isFile (root.down names) = d'.isFile (root.down names)
  := by
  rw [Bool.eq_iff_iff, h.linkFree.isFile_down_iff hroot hdir h.left hv,
    h.linkFree'.isFile_down_iff (h.locate hroot) (h.kindAt hdir) h.right hv]
  apply and_congr_right
  intro _
  constructor
  · apply h.kindAt
  · intro hfile
    obtain ⟨bytes', hat'⟩ := Node.kindAt_eq_file_iff.mp hfile
    rcases h.at?_cases hout hat' with ⟨-, entries, heq⟩ | ⟨bytes, hat, -⟩
      | ⟨entries, entries', -, heq⟩
    · simp at heq
    · apply Node.kindAt_eq_file_iff.mpr ⟨bytes, hat⟩
    · simp at heq

/-- Every directory contributes what it did. -/
theorem Grown.ownContext_eq (globalKey : Option Path) {names : List Name}
    (hv : ∀ n ∈ names, Name.Valid n) :
  Resolver.ownContext d globalKey (root.down names)
    = Resolver.ownContext d' globalKey (root.down names)
  := by
  apply Resolver.ownContext_congr
  · rw [Resolver.findConfig?, Resolver.findConfig?]
    apply List.find?_congr
    intro path hpath
    obtain ⟨file, hfile, rfl⟩ := List.mem_map.mp hpath
    rw [← Path.down_concat, h.isFile_eq hroot hdir hout (Resolver.valid_concat_fileName hv hfile)]
  · intro path hpath
    obtain ⟨x, bytes, hx, -⟩ := Disk.exists_of_isFile (Resolver.isFile_of_findConfig? hpath)
    use by rw [Resolver.keyOf, Resolver.keyOf, Disk.canonical, Disk.canonical, hx, h.locate hx]
    rw [h.read hx]

/-! ### Visits below the root -/

omit hroot hdir in
theorem Grown.counting_fileEntry (context : Context) {path relative : Path} {names : List Name}
    {node' : Node} (hat' : d'.root.at? (m ++ names) = some node') :
  counting (if node'.isDir then [] else fileVisits d' context path relative node')
    = (d.root.at? (m ++ names)).elim [] fun node =>
      counting (if node.isDir then [] else fileVisits d context path relative node)
  := by
  rcases h.at?_cases hout hat' with ⟨hat, entries, rfl⟩ | ⟨bytes, hat, rfl⟩
    | ⟨entries, entries', hat, rfl⟩ <;> rw [hat] <;> rfl

/-- A directory that is new has no configuration. -/
theorem Grown.ownContext_of_new (globalKey : Option Path) {names : List Name}
    (hv : ∀ n ∈ names, Name.Valid n) (hnew : d.root.at? (m ++ names) = none) :
  Resolver.ownContext d' globalKey (root.down names) = .ok .empty
  := by
  rw [← h.ownContext_eq hroot hdir hout globalKey hv]
  apply Resolver.ownContext_of_findConfig?
  rw [Resolver.findConfig?, List.find?_eq_none]
  intro path hpath hfile
  obtain ⟨x, bytes, hx, hat⟩ := Disk.exists_of_isFile hfile
  obtain ⟨file, hmem, rfl⟩ := List.mem_map.mp hpath
  rw [← Path.down_concat] at hx
  obtain rfl := Disk.eq_append_of_locate_down hroot hdir (h.linkFree.below m)
    (Resolver.valid_concat_fileName hv hmem) hx
  rw [← List.append_assoc, Node.at?_append, hnew] at hat
  cases hat

/-- What counts in a directory is what counted in it before, if this is so of its entries. -/
theorem Grown.counting_nodeVisits (globalKey : Option Path) (above : Context) {names : List Name}
    (hv : ∀ n ∈ names, Name.Valid n) {node' : Node}
    (hat' : d'.root.at? (m ++ names) = some node')
    (hbelow : ∀ entries' context, node' = .dir entries' →
      counting (entriesVisits d' globalKey context (root.down names) names entries')
        = counting (entriesVisits d globalKey context (root.down names) names
          (d.root.entriesAt (m ++ names)))) :
  counting (nodeVisits d' globalKey above (root.down names) names node')
    = (d.root.at? (m ++ names)).elim [] fun node =>
      counting (nodeVisits d globalKey above (root.down names) names node)
  := by
  rcases h.at?_cases hout hat' with ⟨hat, entries', rfl⟩ | ⟨bytes, hat, rfl⟩
    | ⟨entries, entries', hat, rfl⟩
  · have hnone : d.root.entriesAt (m ++ names) = .nil := by rw [Node.entriesAt, hat]; rfl
    rw [hat, nodeVisits_dir, h.ownContext_of_new hroot hdir hout globalKey hv hat]
    split
    · rfl
    · cases d'.node? (root.down names) with
      | error fault => rfl
      | ok node =>
        dsimp only
        rw [hbelow entries' _ rfl, hnone]
        rfl
  · rw [hat, nodeVisits]
    · rfl
    · simp
  · have hown := h.ownContext_eq hroot hdir hout globalKey hv
    rw [hat, Option.elim_some, nodeVisits_dir, nodeVisits_dir, hown]
    split
    · rfl
    · cases Resolver.ownContext d' globalKey (root.down names) with
      | error failure => rfl
      | ok own =>
        rcases h.node?_cases hroot hdir hat hat' with ⟨fault, hnode, hnode'⟩ | ⟨hnode, hnode'⟩
        · rw [hnode, hnode']
        · rw [hnode, hnode']
          dsimp only
          rw [hbelow entries' _ rfl, Node.entriesAt_of_at? hat]

/-- In a directory, and below it, the visits that count are those that counted before.  If it is
new, there are none. -/
theorem Grown.counting_entriesVisits (globalKey : Option Path) (context : Context)
    {names : List Name} (hv : ∀ n ∈ names, Name.Valid n) :
  counting (entriesVisits d' globalKey context (root.down names) names
      (d'.root.entriesAt (m ++ names)))
    = counting (entriesVisits d globalKey context (root.down names) names
      (d.root.entriesAt (m ++ names)))
  := by
  induction hsize : sizeOf (d'.root.entriesAt (m ++ names)) using Nat.strong_induction_on
    generalizing context names with
  | _ size ih =>
  subst hsize
  have hwf := h.left.root.entriesAt (m ++ names)
  have hwf' := h.right.root.entriesAt (m ++ names)
  have hnames := h.names_subset (m ++ names)
  have hat' {name : Name} {node' : Node}
      (hmem : (name, node') ∈ (d'.root.entriesAt (m ++ names)).toList) :
      d'.root.at? (m ++ (names ++ [name])) = some node' := by
    rw [← List.append_assoc, ← Node.find?_entriesAt]
    apply (Entries.find?_eq_some_iff hwf').mpr hmem
  have hfind (name : Name) :
      (d.root.entriesAt (m ++ names)).find? name = d.root.at? (m ++ (names ++ [name])) := by
    rw [Node.find?_entriesAt, List.append_assoc]
  rw [entriesVisits, entriesVisits, counting_append, counting_append]
  congr 1
  · rw [filesVisits_eq_flatMap, filesVisits_eq_flatMap, counting_flatMap, counting_flatMap]
    apply Entries.flatMap_toList_eq hwf hwf' hnames
    intro name node' hmem
    rw [hfind]
    apply h.counting_fileEntry hout context (hat' hmem)
  · rw [dirsVisits_eq_flatMap, dirsVisits_eq_flatMap, counting_flatMap, counting_flatMap]
    apply Entries.flatMap_toList_eq hwf hwf' hnames
    intro name node' hmem
    rw [hfind]
    simp only [← Path.down_concat]
    have hvalid : ∀ n ∈ names ++ [name], Name.Valid n :=
      fun n hn => (h.right.root.at? (hat' hmem)).2 n (List.mem_append_right m hn)
    apply h.counting_nodeVisits hroot hdir hout globalKey context hvalid (hat' hmem)
    rintro inner' own rfl
    have hinner' := Node.entriesAt_of_at? (hat' hmem)
    rw [← hinner']
    apply ih _ _ own hvalid rfl
    rw [hinner']
    apply sizeOf_lt_of_mem hmem

/-- In a scan of the root, the visits that count are those that counted before. -/
theorem Grown.counting_directoryVisits (globalKey : Option Path) (above : Context) :
  counting (directoryVisits d' globalKey root above)
    = counting (directoryVisits d globalKey root above)
  := by
  obtain ⟨entries, hat⟩ := Node.kindAt_eq_dir_iff.mp hdir
  obtain ⟨entries', hat'⟩ := Node.kindAt_eq_dir_iff.mp (h.kindAt hdir)
  have hvalid : ∀ n ∈ ([] : List Name), Name.Valid n := by simp
  have hown := h.ownContext_eq hroot hdir hout globalKey hvalid
  have hentries (context : Context) :=
    h.counting_entriesVisits hroot hdir hout globalKey context hvalid
  simp only [Path.down_nil, List.append_nil, Node.entriesAt_of_at? hat,
    Node.entriesAt_of_at? hat'] at hown hentries
  rw [directoryVisits, directoryVisits, hown,
    rootEntries_of_node? (Disk.node?_eq_ok_iff.mpr ⟨m, hroot, hat⟩),
    rootEntries_of_node? (Disk.node?_eq_ok_iff.mpr ⟨m, h.locate hroot, hat'⟩)]
  cases Resolver.ownContext d' globalKey root with
  | error failure => rfl
  | ok own => apply hentries (above.extended own)

end

/-! ### Path arguments -/

section

variable {path : Path} (haside : LeadsAside l d d' path)

include haside

/-- A path argument leads to a directory or to a file as before. -/
theorem Grown.argument_cases :
  (∃ m, d.locate .content path = .ok m ∧ d.root.kindAt m = some .dir ∧ ¬ m <+: l
      ∧ d.isDir path = true ∧ d'.isDir path = true)
    ∨ (∃ m, d.locate .content path = .ok m ∧ d.isDir path = false ∧ d'.isDir path = false
      ∧ d.isFile path = true ∧ d'.isFile path = true)
    ∨ d.isDir path = false ∧ d'.isDir path = false ∧ d.isFile path = false
      ∧ d'.isFile path = false
  := by
  cases hm : d.locate .content path with
  | error fault =>
    right
    right
    cases hm' : d'.locate .content path with
    | error fault' => simp [Disk.isDir, Disk.isFile, Disk.node?, hm, hm', bind, Except.bind,
        Except.toOption]
    | ok m => cases hm.symm.trans (haside m hm').1
  | ok m =>
    have hm' := h.locate hm
    obtain ⟨node, hat, -⟩ := h.left.exists_of_locate hm
    have hkind : d.root.kindAt m = some node.kind := by rw [Node.kindAt, hat]; rfl
    obtain ⟨node', hat', hsame⟩ := Option.map_eq_some_iff.mp (h.kindAt hkind)
    have hnode := Disk.node?_eq_ok_iff.mpr ⟨m, hm, hat⟩
    have hnode' := Disk.node?_eq_ok_iff.mpr ⟨m, hm', hat'⟩
    cases node with
    | dir entries =>
      left
      obtain ⟨entries', rfl⟩ := Node.kind_eq_dir_iff.mp hsame
      use m, rfl, hkind, (haside m hm').2
      simp [Disk.isDir, hnode, hnode', Except.toOption, Node.isDir]
    | file bytes =>
      right
      left
      obtain ⟨bytes', rfl⟩ := Node.kind_eq_file_iff.mp hsame
      use m, rfl
      simp [Disk.isDir, Disk.isFile, hnode, hnode', Except.toOption, Node.isDir, Node.isFile]
    | link target => apply absurd hkind (h.linkFree m target)

theorem Grown.counting_argumentVisits (globalKey : Option Path) (scope : Scope) :
  counting (argumentVisits d' globalKey scope path)
    = counting (argumentVisits d globalKey scope path)
  := by
  rw [argumentVisits, argumentVisits]
  rcases h.argument_cases haside with ⟨m, hm, hdir, hout, hisDir, hisDir'⟩
    | ⟨m, -, hisDir, hisDir', hisFile, hisFile'⟩ | ⟨hisDir, hisDir', hisFile, hisFile'⟩
  · rw [if_pos hisDir, if_pos hisDir']
    cases scope.contextAt path with
    | error failure => rfl
    | ok above => apply h.counting_directoryVisits hm hdir hout globalKey above
  · simp only [hisDir, hisDir', hisFile, hisFile', Bool.false_eq_true, if_false, if_true]
  · simp only [hisDir, hisDir', hisFile, hisFile', Bool.false_eq_true, if_false]

/-- A file that a path argument leads to is found as before. -/
theorem Grown.locate_of_mem_argumentVisits {globalKey : Option Path} {scope : Scope}
    {file relative : Path} {context : Context}
    (hvisit : .file file relative context ∈ argumentVisits d globalKey scope path) :
  d'.locate .content file = d.locate .content file
  := by
  rw [argumentVisits] at hvisit
  rcases h.argument_cases haside with ⟨m, hm, hdir, -, hisDir, -⟩ | ⟨m, hm, hisDir, -, hisFile, -⟩
    | ⟨hisDir, -, hisFile, -⟩
  · rw [if_pos hisDir] at hvisit
    obtain ⟨entries, hat⟩ := Node.kindAt_eq_dir_iff.mp hdir
    cases habove : scope.contextAt path with
    | error failure => simp [habove] at hvisit
    | ok above =>
      rw [habove] at hvisit
      obtain ⟨names, hmade⟩ := exists_madeAt_of_mem_directoryVisits h.left
        (Disk.node?_eq_ok_iff.mpr ⟨m, hm, hat⟩) hvisit
      obtain ⟨node, hnode⟩ := Option.isSome_iff_exists.mp hmade.there
      obtain rfl : file = path.down names := hmade.path
      have hthere : d.root.at? (m ++ names) = some node := by
        rw [Node.at?_append, hat]
        apply hnode
      apply h.locate_eq hm hdir hthere
  · have hfile : file = path := by
      simp only [hisDir, hisFile, Bool.false_eq_true, if_false, if_true] at hvisit
      split at hvisit
      · simp at hvisit
      · rw [askedVisits] at hvisit
        split at hvisit <;> simp_all
    rw [hfile, hm, h.locate hm]
  · simp [hisDir, hisFile] at hvisit

end

section

variable {globalKey : Option Path} {scope : Scope} {paths : List Path}
  (haside : ∀ path ∈ paths, LeadsAside l d d' path)

include haside

/-- In a scan of path arguments that lead to what was there before, the visits that count are
those that counted before. -/
theorem Grown.counting_argumentsVisits :
  counting (argumentsVisits d' globalKey scope paths)
    = counting (argumentsVisits d globalKey scope paths)
  := by
  rw [argumentsVisits, argumentsVisits, counting_flatMap, counting_flatMap]
  apply List.flatMap_congr fun path hpath =>
    h.counting_argumentVisits (haside path hpath) globalKey scope

/-- A file that is visited is not the one that has been made, and reads as before. -/
theorem Grown.file_of_mem {file relative : Path} {context : Context}
    (hvisit : .file file relative context ∈ argumentsVisits d globalKey scope paths) :
  d'.locate .content file ≠ .ok l ∧ d'.read file = d.read file
  := by
  obtain ⟨path, hpath, hmem⟩ := List.mem_flatMap.mp hvisit
  have hlocate := h.locate_of_mem_argumentVisits (haside path hpath) hmem
  cases hm : d.locate .content file with
  | error fault =>
    rw [hm] at hlocate
    rw [hlocate, Disk.read_of_locate hm, Disk.read_of_locate hlocate]
    simp
  | ok m =>
    obtain ⟨node, hat, -⟩ := h.left.exists_of_locate hm
    rw [hlocate, hm, h.read hm]
    simp [h.ne hat]

end

end

end Scan

end Compendium
