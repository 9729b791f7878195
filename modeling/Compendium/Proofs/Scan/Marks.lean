import Compendium.Proofs.Disk.Writing
import Compendium.Proofs.Scan.Plan
import Compendium.Proofs.Text.Order

/-!
# The order of a walk

A walk leaves a mark where something becomes of an entry.  Two entries are compared where their
ways part: in one directory the entries that are no directories come first, and else the bytes
of the names decide.  The marks of a walk are put together from those of its parts, entry by
entry, and stay in this order.
-/

namespace Compendium.Scan

/-! ### Before and after -/

/-- Whether an entry of the directory at `above` comes before another. -/
def EntryBefore (node : Node) (above : List Name) (x y : Name) : Prop :=
  (node.kindAt (above ++ [x]) ≠ some .dir ∧ node.kindAt (above ++ [y]) = some .dir)
    ∨ ((node.kindAt (above ++ [x]) = some .dir ↔ node.kindAt (above ++ [y]) = some .dir)
      ∧ Text.bytes x < Text.bytes y)

/-- Whether names lead to an entry that comes before another one.  The first names that differ
decide. -/
def Before (node : Node) (a b : List Name) : Prop :=
  ∃ above x y restA restB, a = above ++ x :: restA ∧ b = above ++ y :: restB
    ∧ EntryBefore node above x y

theorem EntryBefore.ne {node : Node} {above : List Name} {x y : Name}
    (h : EntryBefore node above x y) :
  x ≠ y
  := by
  rintro rfl
  rcases h with ⟨hx, hy⟩ | ⟨-, hlt⟩
  · apply hx hy
  · apply List.lt_irrefl _ hlt

theorem before_of_heads {node : Node} {x y : Name} (h : EntryBefore node [] x y)
    (restA restB : List Name) :
  Before node (x :: restA) (y :: restB)
  := ⟨[], x, y, restA, restB, rfl, rfl, h⟩

theorem kindAt_eq_dir_iff_isDir {entries : Entries} {x : Name} {node : Node}
    (hfind : entries.find? x = some node) :
  (Node.dir entries).kindAt ([] ++ [x]) = some .dir ↔ node.isDir = true
  := by
  rw [List.nil_append, Node.kindAt_cons, hfind, Option.bind_some, Node.kindAt_nil]
  cases node <;> simp [Node.kind, Node.isDir]

theorem entryBefore_of_isDir {entries : Entries} {x y : Name} {node node' : Node}
    (hx : entries.find? x = some node) (hy : entries.find? y = some node')
    (hnode : node.isDir = false) (hnode' : node'.isDir = true) :
  EntryBefore (.dir entries) [] x y
  := by
  left
  rw [Ne, kindAt_eq_dir_iff_isDir hx, kindAt_eq_dir_iff_isDir hy]
  simp [hnode, hnode']

/-- The order in a directory is that in the directory above it. -/
theorem Before.cons {entries below : Entries} {name : Name}
    (hfind : entries.find? name = some (.dir below)) {a b : List Name}
    (h : Before (.dir below) a b) :
  Before (.dir entries) (name :: a) (name :: b)
  := by
  obtain ⟨above, x, y, restA, restB, rfl, rfl, hbefore⟩ := h
  use name :: above, x, y, restA, restB, rfl, rfl
  rw [EntryBefore] at hbefore ⊢
  simp only [List.cons_append, Node.kindAt_cons, hfind, Option.bind_some]
  apply hbefore

theorem Before.congr {node node' : Node} (h : ∀ l, node.kindAt l = node'.kindAt l)
    {a b : List Name} (hbefore : Before node a b) :
  Before node' a b
  := by
  obtain ⟨above, x, y, restA, restB, rfl, rfl, hentry⟩ := hbefore
  use above, x, y, restA, restB, rfl, rfl
  rw [EntryBefore, h, h] at hentry
  apply hentry

/-! ### Marks -/

/-- What has become of the entry that names lead to. -/
structure Mark where
  names : List Name
  deed : Deed

/-- The mark of an entry below a directory, seen from above it. -/
def Mark.under (name : Name) (m : Mark) : Mark := ⟨name :: m.names, m.deed⟩

/-- What can become of an entry that is no directory. -/
inductive FileDeed (path : Path) : Deed → Prop where
  | skip : FileDeed path (.skip path)
  | add (how : Inclusion) (block : String) : FileDeed path (.add path how block)
  | reading (fault : AccessFault) : FileDeed path (.note (.reading path fault))

/-- What can become of a directory that is not entered. -/
inductive DirDeed (path : Path) : Deed → Prop where
  | skip : DirDeed path (.skip path)
  | walking (fault : AccessFault) : DirDeed path (.note (.walking path fault))

/-- Whether a mark below the directory at a path is of an entry that is there, and says what can
become of it. -/
def Mark.Fits (path : Path) (entries : Entries) (m : Mark) : Prop :=
  ∃ kind, (Node.dir entries).kindAt m.names = some kind
    ∧ (kind = .dir → DirDeed (path.down m.names) m.deed)
    ∧ (kind ≠ .dir → FileDeed (path.down m.names) m.deed)

/-- Whether no directory on the way to an entry has a mark. -/
def Entered (marks : List Mark) (names : List Name) : Prop :=
  ∀ above, above ≠ [] → above <+: names → above ≠ names → ∀ deed, ⟨above, deed⟩ ∉ marks

/-- What a walk leaves of some entries of a directory and of what is below them: marks in order,
one for each file that can be reached. -/
structure Walked (d : Disk) (path : Path) (entries : Entries) (these : Name → Prop)
    (marks : List Mark) : Prop where
  heads : ∀ m ∈ marks, ∃ name rest, m.names = name :: rest ∧ these name
  sorted : marks.Pairwise fun m m' => Before (.dir entries) m.names m'.names
  fits : ∀ m ∈ marks, m.Fits path entries
  complete : ∀ names node, (Node.dir entries).at? names = some node → node.isDir = false →
    d.isFileEntry (path.down names) node = true → Entered marks names →
    (∃ name rest, names = name :: rest ∧ these name) → ∃ deed, ⟨names, deed⟩ ∈ marks

section

variable {d : Disk} {path : Path} {entries : Entries} {these those : Name → Prop}
variable {marks marks' : List Mark}

theorem Walked.congr (h : Walked d path entries these marks)
    (hiff : ∀ name, those name ↔ these name) :
  Walked d path entries those marks
  := by
  constructor
  · simpa only [hiff] using h.heads
  · apply h.sorted
  · apply h.fits
  · simpa only [hiff] using h.complete

/-- Marks of earlier entries are followed by those of later ones. -/
theorem Walked.append (h : Walked d path entries these marks)
    (h' : Walked d path entries those marks')
    (hbefore : ∀ x y, these x → those y → EntryBefore (.dir entries) [] x y) :
  Walked d path entries (fun name => these name ∨ those name) (marks ++ marks')
  := by
  constructor
  · intro m hm
    rcases List.mem_append.mp hm with hm | hm
    · obtain ⟨name, rest, heq, hname⟩ := h.heads m hm
      use name, rest, heq
      left
      apply hname
    · obtain ⟨name, rest, heq, hname⟩ := h'.heads m hm
      use name, rest, heq
      right
      apply hname
  · rw [List.pairwise_append]
    use h.sorted, h'.sorted
    intro m hm m' hm'
    obtain ⟨x, rest, heq, hx⟩ := h.heads m hm
    obtain ⟨y, rest', heq', hy⟩ := h'.heads m' hm'
    rw [heq, heq']
    apply before_of_heads (hbefore x y hx hy)
  · intro m hm
    rcases List.mem_append.mp hm with hm | hm
    · apply h.fits m hm
    · apply h'.fits m hm
  · rintro names node hat hdir hfile hentered ⟨name, rest, heq, hname | hname⟩
    · have hentered' : Entered marks names := fun above hne hprefix hproper deed hmem =>
        hentered above hne hprefix hproper deed (List.mem_append_left _ hmem)
      obtain ⟨deed, hmem⟩ :=
        h.complete names node hat hdir hfile hentered' ⟨name, rest, heq, hname⟩
      use deed
      apply List.mem_append_left _ hmem
    · have hentered' : Entered marks' names := fun above hne hprefix hproper deed hmem =>
        hentered above hne hprefix hproper deed (List.mem_append_right _ hmem)
      obtain ⟨deed, hmem⟩ :=
        h'.complete names node hat hdir hfile hentered' ⟨name, rest, heq, hname⟩
      use deed
      apply List.mem_append_right _ hmem

section

variable {name : Name}

/-- What a walk leaves below a directory belongs to what it leaves above it. -/
theorem Walked.under {below : Entries} (hfind : entries.find? name = some (.dir below))
    (h : Walked d (path.entry name) below (· ∈ below.names) marks) :
  Walked d path entries (· = name) (marks.map (.under name))
  := by
  have hkind (names : List Name) :
      (Node.dir entries).kindAt (name :: names) = (Node.dir below).kindAt names := by
    rw [Node.kindAt_cons, hfind, Option.bind_some]
  constructor
  · intro m hm
    obtain ⟨m, -, rfl⟩ := List.mem_map.mp hm
    exact ⟨name, m.names, rfl, rfl⟩
  · exact h.sorted.map _ fun m m' hbefore => hbefore.cons hfind
  · intro m hm
    obtain ⟨m, hinner, rfl⟩ := List.mem_map.mp hm
    obtain ⟨kind, hnames, hdir, hfile⟩ := h.fits m hinner
    use kind, (hkind m.names).trans hnames, hdir, hfile
  · rintro names node hat hnode hfile hentered ⟨_, rest, rfl, rfl⟩
    rw [Node.at?_dir_cons, hfind, Option.bind_some] at hat
    cases rest with
    | nil =>
      obtain rfl := Option.some.inj hat
      cases hnode
    | cons other rest =>
      have hother : other ∈ below.names := by
        obtain ⟨next, hnext, -⟩ := Option.bind_eq_some_iff.mp hat
        apply List.mem_map_of_mem (Entries.mem_toList_of_find? hnext)
      have hentered' : Entered marks (other :: rest) := by
        intro above habove hprefix hproper deed hmem
        apply hentered _ (List.cons_ne_nil _ above) (List.cons_prefix_cons.mpr ⟨rfl, hprefix⟩)
          (by simpa using hproper)
        apply List.mem_map_of_mem hmem
      obtain ⟨deed, hdeed⟩ :=
        h.complete _ node hat hnode hfile hentered' ⟨other, rest, rfl, hother⟩
      use deed
      apply List.mem_map_of_mem hdeed

end

end

end Compendium.Scan
