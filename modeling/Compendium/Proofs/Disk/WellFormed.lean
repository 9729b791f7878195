import Compendium.Proofs.Disk.Kind
import Compendium.Proofs.Path.Entry

/-!
# Well-formed disks

On a well-formed disk the entries of every directory have names that can stand in a path, in
increasing order, and relative paths start at a directory.  Different locations on it then have
different absolute paths.
-/

namespace Compendium

namespace Entries

/-- The names of entries, in order. -/
def names (entries : Entries) : List Name := entries.toList.map (·.1)

@[simp]
theorem toList_nil :
  nil.toList = []
  := rfl

@[simp]
theorem toList_cons (name : Name) (node : Node) (rest : Entries) :
  (cons name node rest).toList = (name, node) :: rest.toList
  := rfl

@[simp]
theorem names_nil :
  nil.names = []
  := rfl

@[simp]
theorem names_cons (name : Name) (node : Node) (rest : Entries) :
  (cons name node rest).names = name :: rest.names
  := rfl

@[simp]
theorem find?_nil (name : Name) :
  nil.find? name = none
  := rfl

theorem find?_cons (name other : Name) (node : Node) (rest : Entries) :
  (cons other node rest).find? name = if name = other then some node else rest.find? name
  := rfl

theorem mem_toList_of_find? {name : Name} {node : Node} :
  ∀ {entries : Entries}, entries.find? name = some node → (name, node) ∈ entries.toList
  | .cons other old rest, h => by
    rw [find?_cons] at h
    split at h
    · simp_all
    · simp [mem_toList_of_find? h]

end Entries

mutual

/-- Whether the entries of every directory of a tree are well-formed. -/
def Node.WellFormed : Node → Prop
  | .file _ => True
  | .link _ => True
  | .dir entries => entries.WellFormed

/-- Whether entries have valid names in increasing order, and are well-formed below. -/
def Entries.WellFormed : Entries → Prop
  | .nil => True
  | .cons name node rest =>
    Name.Valid name ∧ (∀ other ∈ rest.names, name < other) ∧ node.WellFormed ∧ rest.WellFormed

end

namespace Entries

/-- Of an entry of well-formed entries, the name is valid and the node is well-formed. -/
theorem WellFormed.of_mem {name : Name} {node : Node} :
  ∀ {entries : Entries}, entries.WellFormed → (name, node) ∈ entries.toList →
    name.Valid ∧ node.WellFormed
  | .cons other old rest, h, hmem => by
    rw [Entries.WellFormed] at h
    rcases List.mem_cons.mp hmem with heq | hmem
    · obtain ⟨rfl, rfl⟩ := Prod.mk.inj heq
      use h.1, h.2.2.1
    · apply WellFormed.of_mem h.2.2.2 hmem

/-- Well-formed entries have no name twice. -/
theorem find?_eq_some_iff {name : Name} {node : Node} :
  ∀ {entries : Entries}, entries.WellFormed →
    (entries.find? name = some node ↔ (name, node) ∈ entries.toList)
  | .nil, _ => by simp
  | .cons other old rest, h => by
    rw [Entries.WellFormed] at h
    rw [find?_cons, toList_cons, List.mem_cons, Prod.mk.injEq]
    by_cases hn : name = other
    · subst hn
      have hrest : (name, node) ∉ rest.toList := by
        intro hmem
        apply List.lt_irrefl name
        apply h.2.1
        apply List.mem_map_of_mem hmem
      simp [hrest, eq_comm]
    · simp [hn, find?_eq_some_iff h.2.2.2]

end Entries

namespace Node

/-- What is in a well-formed tree is well-formed, and is reached by valid names. -/
theorem WellFormed.at? {root node : Node} {l : Location} (h : root.WellFormed)
    (hl : root.at? l = some node) :
  node.WellFormed ∧ ∀ n ∈ l, Name.Valid n
  := by
  induction l generalizing root with
  | nil =>
    obtain rfl : root = node := Option.some.inj hl
    simp [h]
  | cons name l ih =>
    cases root with
    | file => simp at hl
    | link => simp at hl
    | dir entries =>
      rw [Node.WellFormed] at h
      obtain ⟨below, hfind, hbelow⟩ := Option.bind_eq_some_iff.mp hl
      obtain ⟨hname, hwf⟩ := h.of_mem (Entries.mem_toList_of_find? hfind)
      obtain ⟨hnode, hvalid⟩ := ih hwf hbelow
      use hnode
      simpa [hname] using hvalid

/-- There is no link below a directory if there is none below its entries. -/
theorem kindAt_dir_ne_link {entries : Entries} {target : List Char}
    (h : ∀ name node, (name, node) ∈ entries.toList → ∀ l, node.kindAt l ≠ some (.link target))
    (l : Location) :
  (dir entries).kindAt l ≠ some (.link target)
  := by
  cases l with
  | nil => simp [kindAt_nil, kind]
  | cons name l =>
    rw [kindAt_cons]
    cases hfind : entries.find? name with
    | none => simp
    | some node => apply h name node (Entries.mem_toList_of_find? hfind) l

theorem kindAt_file_ne_link (bytes : List UInt8) (target : List Char) (l : Location) :
  (file bytes).kindAt l ≠ some (.link target)
  := by
  cases l with
  | nil => simp [kindAt_nil, kind]
  | cons name l => simp [kindAt]

end Node

namespace Disk

/-- Whether the tree is well-formed, and relative paths start at a directory. -/
structure WellFormed (d : Disk) : Prop where
  root : d.root.WellFormed
  here : d.root.kindAt d.here = some .dir

/-- Whether there are no symbolic links. -/
def LinkFree (d : Disk) : Prop := ∀ l target, d.root.kindAt l ≠ some (.link target)

/-- Whether there are no symbolic links at a location and below it. -/
def LinkFreeBelow (d : Disk) (l : Location) : Prop :=
  ∀ names target, d.root.kindAt (l ++ names) ≠ some (.link target)

theorem LinkFree.below {d : Disk} (h : d.LinkFree) (l : Location) :
  d.LinkFreeBelow l
  := fun names => h (l ++ names)

/-! ### Absolute paths -/

section

variable {l : Location} (h : ∀ n ∈ l, Name.Valid n)

include h

theorem parts_pathOf :
  (pathOf l).parts = .root :: l.map .name
  := by
  have hparts : l.filterMap Path.part? = l.map .name := by
    rw [← List.filterMap_eq_map]
    apply List.filterMap_congr
    intro name hname
    apply Path.part?_of_valid (h name hname)
  have habs : (pathOf l).isAbsolute = true := by simp [Path.isAbsolute, pathOf, Path.ofChars]
  rw [Path.parts, habs, pathOf, Path.ofChars, String.toList_ofList, Text.pieces_cons_self]
  by_cases hl : l = []
  · subst hl
    rfl
  · rw [Text.pieces_join hl (fun n hn => (h n hn).slash_notMem)]
    simp [hparts]

/-- Different locations have different absolute paths. -/
theorem same_pathOf_iff {l' : Location} (h' : ∀ n ∈ l', Name.Valid n) :
  (pathOf l).same (pathOf l') = true ↔ l = l'
  := by
  rw [Path.same, decide_eq_true_iff, parts_pathOf h, parts_pathOf h', List.cons.injEq]
  constructor
  · rintro ⟨-, heq⟩
    apply List.map_injective_iff.mpr (fun _ _ hn => PathPart.name.inj hn) heq
  · rintro rfl
    simp

/-- Locations with the same absolute path are the same. -/
theorem pathOf_inj {l' : Location} (h' : ∀ n ∈ l', Name.Valid n) :
  pathOf l = pathOf l' ↔ l = l'
  := by
  rw [← same_pathOf_iff h h', Path.same, decide_eq_true_iff]
  constructor
  · rintro heq
    rw [heq]
  · intro heq
    rw [(same_pathOf_iff h h').mp (by simpa [Path.same] using heq)]

end

theorem fileName?_pathOf_concat {l : Location} {name : Name}
    (h : ∀ n ∈ l ++ [name], Name.Valid n) :
  (pathOf (l ++ [name])).fileName? = some name
  := by
  rw [Path.fileName?, parts_pathOf h, List.map_append, ← List.cons_append, List.map_singleton,
    List.getLast?_concat]

end Disk

end Compendium
