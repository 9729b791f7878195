import Mathlib.Data.List.Find
import Compendium.Proofs.Scan.Plan
import Compendium.Proofs.Disk.Differing

/-!
# Disks with other configurations in one directory

The configuration file of a directory applies in that directory and below it, and nowhere else.
A scan of two disks that differ in the configuration files of one directory only makes the same
visits outside of it, in the same order.
-/

namespace Compendium

namespace Path

/-- Whether a path is not that of a directory, or below it. -/
def isOutside (top path : Path) : Bool := (path.partsBelow? top).isNone

theorem isOutside_down_iff {root : Path} {below names : List Name}
    (hb : ∀ n ∈ below, Name.Valid n) (hv : ∀ n ∈ names, Name.Valid n) :
  isOutside (root.down below) (root.down names) = true ↔ ¬ below <+: names
  := by
  rw [isOutside, Option.isNone_iff_eq_none, partsBelow?, ← Option.not_isSome_iff_eq_none,
    Option.isSome_iff_exists, not_iff_not, parts_down hb, parts_down hv]
  simp only [partsAfter_eq_some_iff, List.append_assoc, List.append_cancel_left_eq]
  constructor
  · rintro ⟨rest, hrest⟩
    have hprefix : below.map PathPart.name <+: names.map PathPart.name := ⟨rest, hrest.symm⟩
    rwa [List.prefix_map_iff_of_injective fun _ _ hn => PathPart.name.inj hn] at hprefix
  · rintro ⟨rest, rfl⟩
    use rest.map .name
    simp

end Path

namespace Scan

/-- Two disks without links that differ in the configuration files of one directory only, which
the names `below` lead to from the root of a scan at the location `l`. -/
structure Twins (root : Path) (l : Location) (below : List Name) (d d' : Disk) : Prop where
  left : d.WellFormed
  right : d'.WellFormed
  linkFree : d.LinkFree
  linkFree' : d'.LinkFree
  same : Disk.SameBut (l ++ below) d d'
  locate : d.locate .content root = .ok l
  dir : d.root.kindAt l = some .dir
  holds : d.root.kindAt (l ++ below) = some .dir
  ne_nil : below ≠ []

section

variable {root : Path} {l : Location} {below : List Name} {d d' : Disk}
  (h : Twins root l below d d')

include h

theorem Twins.symm :
  Twins root l below d' d
  := ⟨h.right, h.left, h.linkFree', h.linkFree, h.same.symm,
    h.same.locate_of_dir h.left h.right h.linkFree h.linkFree' h.locate h.dir,
    h.same.kindAt_eq_dir h.left h.right h.dir, h.same.kindAt_eq_dir h.left h.right h.holds,
    h.ne_nil⟩

/-! ### Paths below the root -/

omit h in
theorem configPlace_append_iff {names : List Name} :
  Node.ConfigPlace (l ++ below) (l ++ names)
    ↔ ∃ file ∈ Config.fileNames, names = below ++ [file.toList]
  := by
  simp [Node.ConfigPlace]

theorem Twins.isFile_eq {names : List Name} (hv : ∀ n ∈ names, Name.Valid n)
    (hn : ¬ Node.ConfigPlace (l ++ below) (l ++ names)) :
  d.isFile (root.down names) = d'.isFile (root.down names)
  := by
  have h' := h.symm
  rw [Bool.eq_iff_iff, h.linkFree.isFile_down_iff h.locate h.dir h.left hv,
    h'.linkFree.isFile_down_iff h'.locate h'.dir h'.left hv, h.same.kindAt_eq h.left h.right hn]

/-- A path leads to the same place if there is something on both disks. -/
theorem Twins.locate_eq {names : List Name} {node node' : Node}
    (hat : d.root.at? (l ++ names) = some node) (hat' : d'.root.at? (l ++ names) = some node') :
  d.locate .content (root.down names) = d'.locate .content (root.down names)
  := by
  have h' := h.symm
  rw [h.linkFree.locate_down h.locate h.dir h.left hat,
    h'.linkFree.locate_down h'.locate h'.dir h'.left hat']

theorem Twins.read_eq {names : List Name} {bytes : List UInt8}
    (hat : d.root.at? (l ++ names) = some (.file bytes))
    (hn : ¬ Node.ConfigPlace (l ++ below) (l ++ names)) :
  d'.root.at? (l ++ names) = some (.file bytes)
    ∧ d.read (root.down names) = d'.read (root.down names)
  := by
  have hat' : d'.root.at? (l ++ names) = some (.file bytes) := by
    rw [← Node.bytesAt_eq_some_iff] at hat ⊢
    rw [← h.same.bytesAt_eq h.left h.right hn, hat]
  use hat'
  rw [Disk.read, Disk.read, Disk.node?, Disk.node?, h.locate_eq hat hat']
  cases hlocate : d'.locate .content (root.down names) with
  | error fault => rfl
  | ok m =>
    have h' := h.symm
    have hm := h'.linkFree.locate_down h'.locate h'.dir h'.left hat'
    rw [hlocate] at hm
    split at hm
    · simp at hm
    · obtain rfl := Except.ok.inj hm
      simp [bind, Except.bind, hat, hat']

/-- Every directory but the one in which the disks differ contributes the same. -/
theorem Twins.ownContext_eq (globalKey : Option Path) {names : List Name}
    (hv : ∀ n ∈ names, Name.Valid n) (hn : names ≠ below) :
  Resolver.ownContext d globalKey (root.down names)
    = Resolver.ownContext d' globalKey (root.down names)
  := by
  have hplace {file : String} (hfile : file ∈ Config.fileNames) :
      ¬ Node.ConfigPlace (l ++ below) (l ++ (names ++ [file.toList])) := by
    rw [configPlace_append_iff]
    rintro ⟨file', -, heq⟩
    apply hn (List.append_inj_left' heq rfl)
  have hvalid {file : String} (hfile : file ∈ Config.fileNames) :=
    Resolver.valid_concat_fileName hv hfile
  apply Resolver.ownContext_congr
  · rw [Resolver.findConfig?, Resolver.findConfig?]
    apply List.find?_congr
    intro path hpath
    obtain ⟨file, hfile, rfl⟩ := List.mem_map.mp hpath
    rw [← Path.down_concat, h.isFile_eq (hvalid hfile) (hplace hfile)]
  · intro path hpath
    have hisFile := Resolver.isFile_of_findConfig? hpath
    obtain ⟨file, hfile, rfl⟩ := List.mem_map.mp (List.mem_of_find?_eq_some hpath)
    rw [← Path.down_concat] at hisFile ⊢
    obtain ⟨-, hkind⟩ :=
      (h.linkFree.isFile_down_iff h.locate h.dir h.left (hvalid hfile)).mp hisFile
    obtain ⟨bytes, hat⟩ := Node.kindAt_eq_file_iff.mp hkind
    obtain ⟨hat', hread⟩ := h.read_eq hat (hplace hfile)
    use by rw [Resolver.keyOf, Resolver.keyOf, Disk.canonical, Disk.canonical, h.locate_eq hat hat']

theorem Twins.valid {names : List Name} {node : Node}
    (hat : d.root.at? (l ++ names) = some node) :
  ∀ n ∈ names, Name.Valid n
  := fun n hn => (h.left.root.at? hat).2 n (List.mem_append_right l hn)

/-- A directory that is there on both disks can be listed on both or on neither of them. -/
theorem Twins.node?_cases {names : List Name} {entries entries' : Entries}
    (hat : d.root.at? (l ++ names) = some (.dir entries))
    (hat' : d'.root.at? (l ++ names) = some (.dir entries')) :
  (∃ fault, d.node? (root.down names) = .error fault
      ∧ d'.node? (root.down names) = .error fault)
    ∨ d.node? (root.down names) = .ok (.dir entries)
      ∧ d'.node? (root.down names) = .ok (.dir entries')
  := by
  have hlocate := h.locate_eq hat hat'
  have hdown := h.linkFree.locate_down h.locate h.dir h.left hat
  split at hdown
  · left
    use .nameTooLong
    rw [Disk.node?, Disk.node?, ← hlocate, hdown]
    constructor
    · rfl
    · rfl
  · right
    use Disk.node?_eq_ok_iff.mpr ⟨_, hdown, hat⟩
    apply Disk.node?_eq_ok_iff.mpr ⟨_, hlocate ▸ hdown, hat'⟩

/-! ### Visits beside the directory -/

/-- Whether names lead neither to the directory in which the disks differ, nor to one below or
above it. -/
def Beside (below names : List Name) : Prop := ¬ below <+: names ∧ ¬ names <+: below

omit h in
theorem Beside.concat {names : List Name} (hb : Beside below names) (name : Name) :
  Beside below (names ++ [name])
  := by
  constructor
  · intro hprefix
    rcases List.prefix_concat_iff.mp hprefix with heq | hprefix
    · apply hb.2 (heq ▸ List.prefix_append names [name])
    · apply hb.1 hprefix
  · intro hprefix
    apply hb.2 ((List.prefix_append names [name]).trans hprefix)

omit h in
/-- There is no configuration file in which the disks differ, unless names lead into the
directory. -/
theorem not_configPlace {names : List Name} (hn : ¬ below <+: names) :
  ¬ Node.ConfigPlace (l ++ below) (l ++ names)
  := by
  rw [configPlace_append_iff]
  rintro ⟨file, -, rfl⟩
  apply hn (List.prefix_append below _)

theorem Twins.fileVisits_eq {context : Context} {relative : Path} {names : List Name}
    {node : Node} (hat : d.root.at? (l ++ names) = some node)
    (hn : ¬ Node.ConfigPlace (l ++ below) (l ++ names)) :
  fileVisits d context (root.down names) relative node
    = fileVisits d' context (root.down names) relative node
  := by
  rw [fileVisits, fileVisits, Disk.isFileEntry, Disk.isFileEntry, h.isFile_eq (h.valid hat) hn]

/-- Where the entries of a directory are on both disks. -/
def EntriesAt (d d' : Disk) (l : Location) (entries : Entries) : Prop :=
  ∀ name node, (name, node) ∈ entries.toList →
    d.root.at? (l ++ [name]) = some node ∧ d'.root.at? (l ++ [name]) = some node

theorem Twins.filesVisits_eq {context : Context} {names : List Name} (hb : Beside below names) :
  ∀ entries : Entries, EntriesAt d d' (l ++ names) entries →
    filesVisits d context (root.down names) names entries
      = filesVisits d' context (root.down names) names entries
  | .nil, _ => rfl
  | .cons name node rest, hat => by
    obtain ⟨hnode, -⟩ := hat name node List.mem_cons_self
    rw [List.append_assoc] at hnode
    have hrest : EntriesAt d d' (l ++ names) rest := fun other node' hmem =>
      hat other node' (List.mem_cons_of_mem _ hmem)
    rw [filesVisits, filesVisits, Twins.filesVisits_eq hb rest hrest, ← Path.down_concat,
      h.fileVisits_eq hnode (not_configPlace (hb.concat name).1)]

end

mutual

/-- What is the same on both disks is visited in the same way, unless it is above the directory
in which they differ, or in it. -/
theorem Twins.nodeVisits_eq {root : Path} {l : Location} {below : List Name} {d d' : Disk}
    (h : Twins root l below d d') {globalKey : Option Path} {above : Context} {names : List Name}
    (hb : Beside below names) :
  ∀ node : Node, d.root.at? (l ++ names) = some node → d'.root.at? (l ++ names) = some node →
    nodeVisits d globalKey above (root.down names) names node
      = nodeVisits d' globalKey above (root.down names) names node
  | .file _, _, _ => by rw [nodeVisits, nodeVisits] <;> simp
  | .link _, _, _ => by rw [nodeVisits, nodeVisits] <;> simp
  | .dir entries, hat, hat' => by
    have hne : names ≠ below := by
      rintro rfl
      apply hb.1 (List.prefix_refl names)
    have hentries : EntriesAt d d' (l ++ names) entries := by
      intro name node hmem
      have hwf : entries.WellFormed := (h.left.root.at? hat).1
      rw [Node.at?_concat hat, Node.at?_concat hat', Entries.find?_eq_some_iff hwf]
      use hmem, hmem
    rw [nodeVisits, nodeVisits, h.ownContext_eq globalKey (h.valid hat) hne]
    cases Resolver.ownContext d' globalKey (root.down names) with
    | error failure => rfl
    | ok own =>
      rcases h.node?_cases hat hat' with ⟨fault, hleft, hright⟩ | ⟨hleft, hright⟩
      · rw [hleft, hright]
      · simp only [hleft, hright, h.filesVisits_eq hb entries hentries,
          h.dirsVisits_eq hb entries hentries]

theorem Twins.dirsVisits_eq {root : Path} {l : Location} {below : List Name} {d d' : Disk}
    (h : Twins root l below d d') {globalKey : Option Path} {context : Context}
    {names : List Name} (hb : Beside below names) :
  ∀ entries : Entries, EntriesAt d d' (l ++ names) entries →
    dirsVisits d globalKey context (root.down names) names entries
      = dirsVisits d' globalKey context (root.down names) names entries
  | .nil, _ => rfl
  | .cons name node rest, hat => by
    obtain ⟨hnode, hnode'⟩ := hat name node List.mem_cons_self
    rw [List.append_assoc] at hnode hnode'
    have hrest : EntriesAt d d' (l ++ names) rest := fun other node' hmem =>
      hat other node' (List.mem_cons_of_mem _ hmem)
    rw [dirsVisits, dirsVisits, h.dirsVisits_eq hb rest hrest, ← Path.down_concat,
      h.nodeVisits_eq (hb.concat name) node hnode hnode']

end

/-! ### Visits outside the directory -/

/-- The visits that are made outside the directory at a path. -/
def outside (top : Path) (visits : List Visit) : List Visit :=
  visits.filter fun visit => top.isOutside visit.path

theorem outside_cons (top : Path) (visit : Visit) (visits : List Visit) :
  outside top (visit :: visits) =
    if top.isOutside visit.path then visit :: outside top visits else outside top visits
  := List.filter_cons

theorem outside_append (top : Path) (visits visits' : List Visit) :
  outside top (visits ++ visits') = outside top visits ++ outside top visits'
  := List.filter_append _ _

section

variable {root : Path} {l : Location} {below : List Name} {d d' : Disk}
  (h : Twins root l below d d')

include h

/-- In the directory itself, no visit is made outside of it. -/
theorem Twins.outside_nodeVisits_eq_nil {globalKey : Option Path} {above : Context}
    {node : Node} (hat : d.root.at? (l ++ below) = some node) :
  outside (root.down below) (nodeVisits d globalKey above (root.down below) below node) = []
  := by
  have hwf : node.WellFormed := (h.left.root.at? hat).1
  have hb := h.valid hat
  rw [outside, List.filter_eq_nil_iff]
  intro visit hvisit
  obtain ⟨names, hmade⟩ := exists_madeAt_of_mem_nodeVisits node hwf hvisit
  -- Whatever is visited is there, so that its names are valid and its path tells them.
  obtain ⟨found, hfound⟩ := Option.isSome_iff_exists.mp hmade.there
  have hv : ∀ n ∈ below ++ names, Name.Valid n := by
    intro n hn
    rcases List.mem_append.mp hn with hn | hn
    · apply hb n hn
    · apply (hwf.at? hfound).2 n hn
  rw [hmade.path, ← Path.down_append, Path.isOutside_down_iff hb hv, not_not]
  apply List.prefix_append

omit h in
/-- Entries that are the same when one of them is altered have the same names, and the same
nodes but for that one. -/
theorem alter_cons_eq {name other : Name} {f : Node → Node} {node : Node} {rest entries : Entries}
    (heq : (Entries.cons other node rest).alter name f = entries.alter name f) :
  ∃ node' rest', entries = .cons other node' rest'
    ∧ (other ≠ name ∧ node = node' ∧ rest.alter name f = rest'.alter name f
      ∨ other = name ∧ f node = f node' ∧ rest = rest')
  := by
  cases entries with
  | nil =>
    rw [Entries.alter, Entries.alter] at heq
    split at heq <;> simp at heq
  | cons other' node' rest' =>
    rw [Entries.alter, Entries.alter] at heq
    split at heq
    · rename_i hname
      subst hname
      split at heq
      · rename_i hname
        subst hname
        obtain ⟨-, hf, hrest⟩ := Entries.cons.inj heq
        use node', rest', rfl
        right
        use rfl, hf, hrest
      · rename_i hname
        apply absurd (Entries.cons.inj heq).1 hname
    · rename_i hname
      split at heq
      · rename_i hname'
        subst hname'
        apply absurd (Entries.cons.inj heq).1.symm hname
      · obtain ⟨rfl, rfl, hrest⟩ := Entries.cons.inj heq
        use node, rest', rfl
        left
        use Ne.symm hname, rfl, hrest

/-- The entries of a directory above the one in which the disks differ, from one of them on.
The next directory on the way is `name`. -/
structure OnTheWay (d d' : Disk) (here : Location) (name : Name) (f : Node → Node)
    (entries entries' : Entries) : Prop where
  alter : entries.alter name f = entries'.alter name f
  left : ∀ other node, (other, node) ∈ entries.toList → d.root.at? (here ++ [other]) = some node
  right : ∀ other node, (other, node) ∈ entries'.toList →
    d'.root.at? (here ++ [other]) = some node

omit h in
theorem onTheWay_of_dir {here : Location} {name : Name} {f : Node → Node}
    {entries entries' : Entries} (hd : d.WellFormed) (hd' : d'.WellFormed)
    (hat : d.root.at? here = some (.dir entries)) (hat' : d'.root.at? here = some (.dir entries'))
    (halter : entries.alter name f = entries'.alter name f) :
  OnTheWay d d' here name f entries entries'
  := by
  use halter
  · intro other node hmem
    have hwf : entries.WellFormed := (hd.root.at? hat).1
    rw [Node.at?_concat hat, Entries.find?_eq_some_iff hwf]
    apply hmem
  · intro other node hmem
    have hwf : entries'.WellFormed := (hd'.root.at? hat').1
    rw [Node.at?_concat hat', Entries.find?_eq_some_iff hwf]
    apply hmem

omit h in
theorem OnTheWay.eq_nil {here : Location} {name : Name} {f : Node → Node} {entries : Entries}
    (hway : OnTheWay d d' here name f .nil entries) :
  entries = .nil
  := by
  have halter := hway.alter
  cases entries with
  | nil => rfl
  | cons other node rest =>
    rw [Entries.alter, Entries.alter] at halter
    split at halter <;> simp at halter

omit h in
/-- On the way, either the next entry is the same on both disks, or it is the next directory. -/
theorem OnTheWay.cases {here : Location} {name other : Name} {f : Node → Node} {node : Node}
    {rest entries : Entries}
    (hway : OnTheWay d d' here name f (.cons other node rest) entries) :
  ∃ node' rest', entries = .cons other node' rest' ∧ OnTheWay d d' here name f rest rest'
    ∧ d.root.at? (here ++ [other]) = some node ∧ d'.root.at? (here ++ [other]) = some node'
    ∧ (other ≠ name ∧ node = node' ∨ other = name ∧ f node = f node')
  := by
  obtain ⟨node', rest', rfl, hcases⟩ := alter_cons_eq hway.alter
  have hrest : rest.alter name f = rest'.alter name f := by
    rcases hcases with ⟨-, -, hrest⟩ | ⟨-, -, rfl⟩
    · apply hrest
    · rfl
  use node', rest', rfl
  constructor
  · use hrest, fun third node hmem => hway.left third node (List.mem_cons_of_mem _ hmem)
    intro third node hmem
    apply hway.right third node (List.mem_cons_of_mem _ hmem)
  · use hway.left other node List.mem_cons_self, hway.right other node' List.mem_cons_self
    rcases hcases with ⟨hne, heq, -⟩ | ⟨heq, hf, -⟩
    · left
      use hne, heq
    · right
      use heq, hf

omit h in
/-- What is beside the way is beside the directory that it leads to. -/
theorem beside_of_ne {done rest : List Name} {name other : Name} (hn : other ≠ name) :
  Beside (done ++ name :: rest) (done ++ [other])
  := by
  constructor
  · intro hprefix
    rw [List.prefix_append_right_inj, List.cons_prefix_cons] at hprefix
    apply hn hprefix.1.symm
  · intro hprefix
    rw [List.prefix_append_right_inj, List.cons_prefix_cons] at hprefix
    apply hn hprefix.1

/-- Whatever is on the way is a directory. -/
theorem Twins.exists_dir {done rest : List Name} {name : Name} {node : Node}
    (hbelow : below = done ++ name :: rest)
    (hat : d.root.at? (l ++ (done ++ [name])) = some node) :
  ∃ entries, node = .dir entries
  := by
  suffices hkind : d.root.kindAt (l ++ (done ++ [name])) = some .dir by
    obtain ⟨entries, hentries⟩ := Node.kindAt_eq_dir_iff.mp hkind
    use entries
    apply Option.some.inj (hat.symm.trans hentries)
  have hsplit : l ++ below = l ++ (done ++ [name]) ++ rest := by simp [hbelow]
  have hholds := h.holds
  rw [hsplit] at hholds
  by_cases hrest : rest = []
  · subst hrest
    rwa [List.append_nil] at hholds
  · apply Node.kindAt_of_append hrest
    rw [Node.kindAt] at hholds
    simpa using congrArg Option.isSome hholds

theorem Twins.filesVisits_onTheWay {context : Context} {done rest : List Name} {name : Name}
    {f : Node → Node} (hbelow : below = done ++ name :: rest) :
  ∀ entries entries' : Entries, OnTheWay d d' (l ++ done) name f entries entries' →
    filesVisits d context (root.down done) done entries
      = filesVisits d' context (root.down done) done entries'
  | .nil, entries', hway => by
    obtain rfl := hway.eq_nil
    rfl
  | .cons other node rest, entries', hway => by
    obtain ⟨node', rest', rfl, hrest, hat, hat', hcases⟩ := hway.cases
    rw [filesVisits, filesVisits, Twins.filesVisits_onTheWay hbelow rest rest' hrest,
      ← Path.down_concat]
    rw [List.append_assoc] at hat hat'
    rcases hcases with ⟨hne, rfl⟩ | ⟨rfl, -⟩
    · subst hbelow
      rw [h.fileVisits_eq hat (not_configPlace (beside_of_ne hne).1)]
    · obtain ⟨below', rfl⟩ := h.exists_dir hbelow hat
      obtain ⟨below'', rfl⟩ := h.symm.exists_dir hbelow hat'
      rfl

theorem Twins.outside_dirsVisits {globalKey : Option Path} {context : Context}
    {done rest : List Name} {name : Name} {f : Node → Node} (hbelow : below = done ++ name :: rest)
    (hnext : ∀ node node', d.root.at? (l ++ (done ++ [name])) = some node →
      d'.root.at? (l ++ (done ++ [name])) = some node' → f node = f node' →
        outside (root.down below)
            (nodeVisits d globalKey context (root.down (done ++ [name])) (done ++ [name]) node)
          = outside (root.down below)
            (nodeVisits d' globalKey context (root.down (done ++ [name])) (done ++ [name]) node')) :
  ∀ entries entries' : Entries, OnTheWay d d' (l ++ done) name f entries entries' →
    outside (root.down below) (dirsVisits d globalKey context (root.down done) done entries)
      = outside (root.down below)
        (dirsVisits d' globalKey context (root.down done) done entries')
  | .nil, entries', hway => by
    obtain rfl := hway.eq_nil
    rfl
  | .cons other node more, entries', hway => by
    obtain ⟨node', more', rfl, hmore, hat, hat', hcases⟩ := hway.cases
    rw [List.append_assoc] at hat hat'
    rw [dirsVisits, dirsVisits, outside_append, outside_append,
      Twins.outside_dirsVisits hbelow hnext more more' hmore, ← Path.down_concat]
    congr 1
    rcases hcases with ⟨hne, rfl⟩ | ⟨rfl, hf⟩
    · subst hbelow
      rw [h.nodeVisits_eq (beside_of_ne hne) node hat hat']
    · apply hnext node node' hat hat' hf

/-- Down to the directory in which the disks differ, the visits outside of it are the same. -/
theorem Twins.outside_entriesVisits {globalKey : Option Path} {rest : List Name} :
  ∀ {done : List Name} {name : Name} {context : Context} {entries entries' : Entries},
    below = done ++ name :: rest → d.root.at? (l ++ done) = some (.dir entries) →
      d'.root.at? (l ++ done) = some (.dir entries') →
      entries.alter name (Node.withoutConfigsAt rest)
        = entries'.alter name (Node.withoutConfigsAt rest) →
        outside (root.down below) (entriesVisits d globalKey context (root.down done) done entries)
          = outside (root.down below)
            (entriesVisits d' globalKey context (root.down done) done entries')
  := by
  -- On the way down, only the visits to the next directory are left to the induction: all other
  -- entries are the same, and beside the way.
  induction rest with
  | nil =>
    intro done name context entries entries' hbelow hat hat' halter
    have hway : OnTheWay d d' (l ++ done) name (Node.withoutConfigsAt []) entries entries' :=
      onTheWay_of_dir h.left h.right hat hat' halter
    rw [entriesVisits, entriesVisits, outside_append, outside_append,
      h.filesVisits_onTheWay hbelow entries entries' hway,
      h.outside_dirsVisits hbelow _ entries entries' hway]
    intro node node' hnode hnode' _
    rw [← hbelow] at hnode hnode' ⊢
    rw [h.outside_nodeVisits_eq_nil hnode, h.symm.outside_nodeVisits_eq_nil hnode']
  | cons next rest ih =>
    intro done name context entries entries' hbelow hat hat' halter
    have hway : OnTheWay d d' (l ++ done) name (Node.withoutConfigsAt (next :: rest)) entries
        entries' := onTheWay_of_dir h.left h.right hat hat' halter
    rw [entriesVisits, entriesVisits, outside_append, outside_append,
      h.filesVisits_onTheWay hbelow entries entries' hway,
      h.outside_dirsVisits hbelow _ entries entries' hway]
    intro node node' hnode hnode' heq
    obtain ⟨inner, rfl⟩ := h.exists_dir hbelow hnode
    obtain ⟨inner', rfl⟩ := h.symm.exists_dir hbelow hnode'
    have hbelow' : below = (done ++ [name]) ++ next :: rest := by simp [hbelow]
    have hne : done ++ [name] ≠ below := by
      intro hcontra
      rw [← hcontra] at hbelow'
      simp at hbelow'
    rw [nodeVisits_dir, nodeVisits_dir, h.ownContext_eq globalKey (h.valid hnode) hne]
    split
    · rfl
    · cases Resolver.ownContext d' globalKey (root.down (done ++ [name])) with
      | error failure => rfl
      | ok own =>
        rcases h.node?_cases hnode hnode' with ⟨fault, hleft, hright⟩ | ⟨hleft, hright⟩
        · rw [hleft, hright]
        · simp only [hleft, hright]
          apply ih hbelow' hnode hnode'
          simpa [Node.withoutConfigsAt] using heq

/-- The root of the scan is a directory on the disk. -/
theorem Twins.exists_node?_root :
  ∃ entries, d.root.at? l = some (.dir entries) ∧ d.node? root = .ok (.dir entries)
  := by
  obtain ⟨entries, hat⟩ := Node.kindAt_eq_dir_iff.mp h.dir
  use entries, hat
  apply Disk.node?_eq_ok_iff.mpr ⟨l, h.locate, hat⟩

theorem Twins.outside_directoryVisits (globalKey : Option Path) (above : Context) :
  outside (root.down below) (directoryVisits d globalKey root above)
    = outside (root.down below) (directoryVisits d' globalKey root above)
  := by
  obtain ⟨entries, hat, hnode⟩ := h.exists_node?_root
  obtain ⟨entries', hat', hnode'⟩ := h.symm.exists_node?_root
  have hvalid : ∀ n ∈ ([] : List Name), Name.Valid n := by simp
  have hown := h.ownContext_eq globalKey hvalid (Ne.symm h.ne_nil)
  rw [Path.down_nil] at hown
  rw [directoryVisits, directoryVisits, hown, rootEntries_of_node? hnode,
    rootEntries_of_node? hnode']
  cases Resolver.ownContext d' globalKey root with
  | error failure => rfl
  | ok own =>
    obtain ⟨name, rest, hbelow⟩ := List.exists_cons_of_ne_nil h.ne_nil
    have halter : entries.alter name (Node.withoutConfigsAt rest)
        = entries'.alter name (Node.withoutConfigsAt rest) := by
      have hwithout := congrArg (Node.at? · l) h.same.root
      simp only [Node.at?_withoutConfigsAt_append, hat, hat', hbelow, Option.map_some,
        Node.withoutConfigsAt, Option.some.injEq, Node.dir.injEq] at hwithout
      apply hwithout
    have hnil : below = [] ++ name :: rest := hbelow
    rw [← List.append_nil l] at hat hat'
    apply h.outside_entriesVisits hnil hat hat' halter

/-- The visits of a scan of the root are the same outside the directory. -/
theorem Twins.outside_argumentsVisits (globalKey : Option Path) (scope : Scope) :
  outside (root.down below) (argumentsVisits d globalKey scope [root])
    = outside (root.down below) (argumentsVisits d' globalKey scope [root])
  := by
  obtain ⟨entries, -, hnode⟩ := h.exists_node?_root
  obtain ⟨entries', -, hnode'⟩ := h.symm.exists_node?_root
  rw [argumentsVisits_of_isDir _ _ (Disk.isDir_of_node? hnode),
    argumentsVisits_of_isDir _ _ (Disk.isDir_of_node? hnode')]
  cases scope.contextAt root with
  | error failure => rfl
  | ok above => apply h.outside_directoryVisits globalKey above

end

end Scan

end Compendium
