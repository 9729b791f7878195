import Compendium.Proofs.Disk.Below

/-!
# Disks while a file is written

Writing to a file changes nothing but what is in that file.  The skeleton of a tree, in which all
files are empty, stays the same, and so does where every path leads.
-/

namespace Compendium

mutual

/-- The tree with nothing in its files. -/
def Node.skeleton : Node → Node
  | .file _ => .file []
  | .link target => .link target
  | .dir entries => .dir entries.skeleton

/-- The entries with nothing in their files. -/
def Entries.skeleton : Entries → Entries
  | .nil => .nil
  | .cons name node rest => .cons name node.skeleton rest.skeleton

end

namespace Entries

theorem find?_skeleton (name : Name) :
  ∀ entries : Entries, entries.skeleton.find? name = (entries.find? name).map Node.skeleton
  | .nil => by simp [skeleton]
  | .cons other node rest => by
    rw [skeleton, find?_cons, find?_cons, find?_skeleton name rest]
    split <;> rfl

/-- What has been put is found. -/
theorem find?_put_self (name : Name) (node : Node) :
  ∀ entries : Entries, (entries.put name node).find? name = some node
  | .nil => by simp [put, find?_cons]
  | .cons other old rest => by
    rw [put]
    split
    · simp [find?_cons]
    · split
      · simp [find?_cons]
      · rename_i hne _
        rw [find?_cons, if_neg hne, find?_put_self name node rest]

/-- Other entries stay as they are. -/
theorem find?_put_of_ne {name other : Name} (h : name ≠ other) (node : Node) :
  ∀ entries : Entries, (entries.put other node).find? name = entries.find? name
  | .nil => by simp [put, find?_cons, h]
  | .cons third old rest => by
    rw [put]
    split
    · rename_i heq
      subst heq
      simp [find?_cons, h]
    · split
      · simp [find?_cons, h]
      · rw [find?_cons, find?_cons, find?_put_of_ne h node rest]

/-- In the place of an entry, one of the same skeleton does not show. -/
theorem skeleton_put {name : Name} {old new : Node} (hs : new.skeleton = old.skeleton) :
  ∀ {entries : Entries}, entries.WellFormed → entries.find? name = some old →
    (entries.put name new).skeleton = entries.skeleton
  | .cons other node rest, h, hfind => by
    rw [Entries.WellFormed] at h
    rw [find?_cons] at hfind
    rw [put]
    split
    · rename_i heq
      subst heq
      obtain rfl : node = old := by simpa using hfind
      rw [skeleton, skeleton, hs]
    · rename_i hne
      rw [if_neg hne] at hfind
      have hlt : other < name :=
        h.2.1 name (List.mem_map_of_mem (mem_toList_of_find? hfind))
      rw [if_neg (List.lt_asymm hlt), skeleton, skeleton, skeleton_put hs h.2.2.2 hfind]

theorem names_skeleton :
  ∀ entries : Entries, entries.skeleton.names = entries.names
  | .nil => rfl
  | .cons name node rest => by rw [skeleton, names_cons, names_cons, names_skeleton rest]

end Entries

mutual

/-- What is in the files is no matter for whether a tree is well-formed. -/
theorem Node.wellFormed_skeleton :
  ∀ node : Node, node.skeleton.WellFormed ↔ node.WellFormed
  | .file _ => Iff.rfl
  | .link _ => Iff.rfl
  | .dir entries => by
    rw [Node.skeleton, Node.WellFormed, Node.WellFormed]
    apply Entries.wellFormed_skeleton

theorem Entries.wellFormed_skeleton :
  ∀ entries : Entries, entries.skeleton.WellFormed ↔ entries.WellFormed
  | .nil => Iff.rfl
  | .cons name node rest => by
    rw [Entries.skeleton, Entries.WellFormed, Entries.WellFormed, Entries.names_skeleton,
      Node.wellFormed_skeleton node, Entries.wellFormed_skeleton rest]

end

namespace Node

theorem at?_skeleton (root : Node) (l : Location) :
  root.skeleton.at? l = (root.at? l).map skeleton
  := by
  induction l generalizing root with
  | nil => rfl
  | cons name l ih =>
    cases root with
    | file => rfl
    | link => rfl
    | dir entries =>
      rw [skeleton, at?_dir_cons, at?_dir_cons, Entries.find?_skeleton]
      cases entries.find? name with
      | none => rfl
      | some below => apply ih

theorem kind_skeleton (node : Node) :
  node.skeleton.kind = node.kind
  := by
  cases node <;> simp [skeleton, kind]

theorem kindAt_skeleton (root : Node) (l : Location) :
  root.skeleton.kindAt l = root.kindAt l
  := by
  rw [kindAt, kindAt, at?_skeleton]
  cases root.at? l <;> simp [kind_skeleton]

/-- Trees of the same skeleton have the same kinds. -/
theorem kindAt_eq_of_skeleton {root root' : Node} (h : root.skeleton = root'.skeleton)
    (l : Location) :
  root.kindAt l = root'.kindAt l
  := by
  rw [← kindAt_skeleton, h, kindAt_skeleton]

/-- The bytes of a file are not part of the shape. -/
theorem skeleton_putAt {root : Node} {l : Location} (h : root.WellFormed)
    (hl : root.kindAt l = some .file) (bytes : List UInt8) :
  (root.putAt (.file bytes) l).skeleton = root.skeleton
  := by
  induction l generalizing root with
  | nil => cases root <;> simp_all [kindAt, kind, putAt, skeleton]
  | cons name l ih =>
    obtain ⟨entries, below, rfl, hfind, hbelow⟩ := exists_of_kindAt_cons hl
    rw [Node.WellFormed] at h
    obtain ⟨-, hwf⟩ := h.of_mem (Entries.mem_toList_of_find? hfind)
    rw [putAt, skeleton, skeleton, hfind, Option.getD_some,
      Entries.skeleton_put (ih hwf hbelow) h hfind]

/-- Where a file is written, there is what was written to it; other files stay as they are. -/
theorem bytesAt_putAt {root : Node} {l : Location} (hl : root.kindAt l = some .file)
    (bytes : List UInt8) (m : Location) :
  (root.putAt (.file bytes) l).bytesAt m = if m = l then some bytes else root.bytesAt m
  := by
  induction l generalizing root m with
  | nil =>
    obtain ⟨old, rfl⟩ : ∃ old, root = file old := by simpa [kindAt, kind_eq_file_iff] using hl
    cases m with
    | nil => rfl
    | cons => rfl
  | cons name l ih =>
    obtain ⟨entries, below, rfl, hfind, hbelow⟩ := exists_of_kindAt_cons hl
    rw [putAt, hfind, Option.getD_some]
    cases m with
    | nil => rfl
    | cons other m =>
      by_cases hn : other = name
      · subst hn
        have hfind' := Entries.find?_put_self other (below.putAt (.file bytes) l) entries
        rw [bytesAt, at?_dir_cons, hfind', Option.bind_some, ← bytesAt, ih hbelow, bytesAt,
          bytesAt, at?_dir_cons, hfind, Option.bind_some]
        simp
      · rw [bytesAt, at?_dir_cons, Entries.find?_put_of_ne hn]
        simp [hn, bytesAt]

end Node

namespace Disk

/-! ### Disks with the same skeleton -/

/-- Two disks that differ in what is in their files only. -/
structure SameShape (d d' : Disk) : Prop where
  skeleton : d.root.skeleton = d'.root.skeleton
  here : d.here = d'.here

theorem SameShape.refl (d : Disk) :
  SameShape d d
  := ⟨rfl, rfl⟩

/-- To write to a file that is there keeps the shape of the disk. -/
theorem sameShape_withBytes {d : Disk} (hd : d.WellFormed) {l : Location}
    (hl : d.root.kindAt l = some .file) (bytes : List UInt8) :
  SameShape (d.withBytes l bytes) d
  := ⟨Node.skeleton_putAt hd.root hl bytes, rfl⟩

section

variable {d d' : Disk} (h : SameShape d d')

include h

theorem SameShape.kindAt (l : Location) :
  d.root.kindAt l = d'.root.kindAt l
  := Node.kindAt_eq_of_skeleton h.skeleton l

theorem SameShape.wellFormed (hd : d'.WellFormed) :
  d.WellFormed
  := by
  constructor
  · rw [← Node.wellFormed_skeleton, h.skeleton, Node.wellFormed_skeleton]
    apply hd.root
  · rw [h.kindAt, h.here]
    apply hd.here

/-- Every path leads to the same place. -/
theorem SameShape.locate (purpose : Purpose) (path : Path) :
  d.locate purpose path = d'.locate purpose path
  := by
  rw [Disk.locate, Disk.locate, h.here]
  simp only [follow_eq_of_kindAt h.kindAt]

/-- Paths have the same canonical paths on disks of one shape. -/
theorem SameShape.canonical (path : Path) :
  d.canonical path = d'.canonical path
  := by
  rw [Disk.canonical, Disk.canonical, h.locate]

/-- What a path leads to is of the same skeleton, and fails in the same way. -/
theorem SameShape.node? (path : Path) :
  (d.node? path).map Node.skeleton = (d'.node? path).map Node.skeleton
  := by
  rw [Disk.node?, Disk.node?, h.locate]
  cases d'.locate .content path with
  | error fault => rfl
  | ok l =>
    have hat : (d.root.at? l).map Node.skeleton = (d'.root.at? l).map Node.skeleton := by
      rw [← Node.at?_skeleton, ← Node.at?_skeleton, h.skeleton]
    simp only [bind, Except.bind]
    cases hl : d.root.at? l <;> cases hl' : d'.root.at? l <;>
      simp_all [Except.map, pure, Except.pure, throw, throwThe, MonadExceptOf.throw]

/-- A test of what a path leads to that only looks at the skeleton comes out the same. -/
theorem SameShape.any_node? (path : Path) {p : Node → Bool}
    (hp : ∀ node : Node, p node.skeleton = p node) :
  (d.node? path).toOption.any p = (d'.node? path).toOption.any p
  := by
  have hany (found : Except AccessFault Node) :
      found.toOption.any p = (found.map Node.skeleton).toOption.any p := by
    cases found with
    | error fault => rfl
    | ok node => apply (hp node).symm
  rw [hany, h.node?, ← hany]

theorem SameShape.isFile (path : Path) :
  d.isFile path = d'.isFile path
  := by
  apply h.any_node?
  intro node
  cases node <;> rfl

theorem SameShape.isFileEntry (path : Path) (node : Node) :
  d.isFileEntry path node = d'.isFileEntry path node
  := by rw [Disk.isFileEntry, Disk.isFileEntry, h.isFile]

theorem SameShape.isDir (path : Path) :
  d.isDir path = d'.isDir path
  := by
  apply h.any_node?
  intro node
  cases node <;> rfl

end

/-- A file that is not the one being written holds what it held. -/
theorem read_withBytes {d : Disk} (hd : d.WellFormed) {l : Location}
    (hl : d.root.kindAt l = some .file) (bytes : List UInt8) {path : Path}
    (hpath : d.locate .content path ≠ .ok l) :
  (d.withBytes l bytes).read path = d.read path
  := by
  have hshape := sameShape_withBytes hd hl bytes
  rw [read, read, node?, node?, hshape.locate]
  cases hlocate : d.locate .content path with
  | error fault => rfl
  | ok m =>
    have hm : m ≠ l := by
      rintro rfl
      apply hpath hlocate
    have hkind := hshape.kindAt m
    have hbytes := Node.bytesAt_putAt hl bytes m
    rw [if_neg hm] at hbytes
    change (d.withBytes l bytes).root.bytesAt m = _ at hbytes
    simp only [bind, Except.bind]
    cases hat : (d.withBytes l bytes).root.at? m <;> cases hat' : d.root.at? m
    · rfl
    · simp [Node.kindAt, hat, hat'] at hkind
    · simp [Node.kindAt, hat, hat'] at hkind
    · rename_i node node'
      simp only [Node.kindAt, Node.bytesAt, hat, hat', Option.map_some, Option.bind_some,
        Option.some.injEq] at hkind hbytes
      cases node <;> cases node' <;> simp_all [Node.kind, Node.bytes?, pure, Except.pure]

end Disk

end Compendium
