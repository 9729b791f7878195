import Mathlib.Data.List.Find
import Mathlib.Data.List.Forall2
import Compendium.Proofs.Pattern.Moved
import Compendium.Proofs.Scan.Arguments
import Compendium.Proofs.Scan.Isolation

/-!
# The same tree at two roots

What a scan makes of a tree without links depends on the tree, on the scope and on how long the
paths get, and on nothing else: neither on how the path of the root is spelled, nor on what is
above the root.
-/

namespace Compendium

/-- Whether a global configuration is none of the files at a location and below it. -/
def Resolver.GlobalElsewhere (d : Disk) (l : Location) (globalKey : Option Path) : Prop :=
  ∀ key ∈ globalKey, ∀ names, (d.root.at? (l ++ names)).isSome = true →
    key.same (Disk.pathOf (l ++ names)) = false

namespace Scan

/-- Two paths that lead to directories with the same tree below them, in which there are no
links, and whose entries have paths that are too long from both or from none of them. -/
structure Relocated (root : Path) (l : Location) (d : Disk) (root' : Path) (l' : Location)
    (d' : Disk) : Prop where
  left : d.WellFormed
  right : d'.WellFormed
  locate : d.locate .content root = .ok l
  locate' : d'.locate .content root' = .ok l'
  dir : d.root.kindAt l = some .dir
  same : d.root.at? l = d'.root.at? l'
  linkFree : d.LinkFreeBelow l
  room : ∀ names, (d.root.at? (l ++ names)).isSome = true →
    ((root.down names).TooLong ↔ (root'.down names).TooLong)

section

variable {root root' : Path} {l l' : Location} {d d' : Disk}
  (h : Relocated root l d root' l' d')

include h

/-! ### Paths below the roots -/

theorem Relocated.at?_eq (names : List Name) :
  d'.root.at? (l' ++ names) = d.root.at? (l ++ names)
  := by
  rw [Node.at?_append, Node.at?_append, h.same]

theorem Relocated.kindAt_eq (names : List Name) :
  d'.root.kindAt (l' ++ names) = d.root.kindAt (l ++ names)
  := by
  rw [Node.kindAt, Node.kindAt, h.at?_eq]

theorem Relocated.dir' :
  d'.root.kindAt l' = some .dir
  := by
  have hkind := h.kindAt_eq []
  rw [List.append_nil, List.append_nil] at hkind
  rw [hkind, h.dir]

theorem Relocated.linkFree' :
  d'.LinkFreeBelow l'
  := by
  intro names target
  rw [h.kindAt_eq]
  apply h.linkFree

theorem Relocated.valid {names : List Name} {node : Node}
    (hat : d.root.at? (l ++ names) = some node) :
  ∀ n ∈ names, Name.Valid n
  := fun n hn => (h.left.root.at? hat).2 n (List.mem_append_right l hn)

/-- What is in the tree is found from both roots, or its paths are too long. -/
theorem Relocated.locate_cases {names : List Name} {node : Node}
    (hat : d.root.at? (l ++ names) = some node) :
  (d.locate .content (root.down names) = .error .nameTooLong
      ∧ d'.locate .content (root'.down names) = .error .nameTooLong)
    ∨ d.locate .content (root.down names) = .ok (l ++ names)
      ∧ d'.locate .content (root'.down names) = .ok (l' ++ names)
  := by
  have hroom := h.room names (by rw [hat]; rfl)
  have hat' := (h.at?_eq names).trans hat
  rw [h.linkFree.locate_down h.locate h.dir h.left hat,
    h.linkFree'.locate_down h.locate' h.dir' h.right hat']
  rw [Path.TooLong, Path.TooLong] at hroom
  by_cases hlong : Disk.pathLimit < (Text.bytes (root.down names).text.toList).length
  · left
    rw [if_pos hlong, if_pos (hroom.mp hlong)]
    constructor
    · rfl
    · rfl
  · right
    rw [if_neg hlong, if_neg (hroom.not.mp hlong)]
    constructor
    · rfl
    · rfl

theorem Relocated.isFile_eq {names : List Name} (hv : ∀ n ∈ names, Name.Valid n) :
  d.isFile (root.down names) = d'.isFile (root'.down names)
  := by
  rw [Bool.eq_iff_iff, h.linkFree.isFile_down_iff h.locate h.dir h.left hv,
    h.linkFree'.isFile_down_iff h.locate' h.dir' h.right hv, h.kindAt_eq]
  apply and_congr_left
  intro hfile
  obtain ⟨bytes, hat⟩ := Node.kindAt_eq_file_iff.mp hfile
  rw [← Nat.not_lt, ← Nat.not_lt]
  apply not_congr (h.room names (by rw [hat]; rfl))

/-- What is in the tree can be looked at from both roots, or from none of them. -/
theorem Relocated.node?_cases {names : List Name} {node : Node}
    (hat : d.root.at? (l ++ names) = some node) :
  (d.node? (root.down names) = .error .nameTooLong
      ∧ d'.node? (root'.down names) = .error .nameTooLong)
    ∨ d.node? (root.down names) = .ok node ∧ d'.node? (root'.down names) = .ok node
  := by
  rcases h.locate_cases hat with ⟨hl, hl'⟩ | ⟨hl, hl'⟩
  · left
    rw [Disk.node?, Disk.node?, hl, hl']
    constructor
    · rfl
    · rfl
  · right
    use Disk.node?_eq_ok_iff.mpr ⟨_, hl, hat⟩
    apply Disk.node?_eq_ok_iff.mpr ⟨_, hl', (h.at?_eq names).trans hat⟩

theorem Relocated.read_eq {names : List Name} {node : Node}
    (hat : d.root.at? (l ++ names) = some node) :
  d.read (root.down names) = d'.read (root'.down names)
  := by
  rw [Disk.read, Disk.read]
  rcases h.node?_cases hat with ⟨hnode, hnode'⟩ | ⟨hnode, hnode'⟩
  · rw [hnode, hnode']
  · rw [hnode, hnode']

/-! ### Configurations -/

/-- A directory of the tree has its configuration, if it has one, in the same file. -/
theorem Relocated.findConfig?_cases {names : List Name} (hv : ∀ n ∈ names, Name.Valid n) :
  (Resolver.findConfig? d (root.down names) = none
      ∧ Resolver.findConfig? d' (root'.down names) = none)
    ∨ ∃ file bytes, d.root.at? (l ++ (names ++ [file])) = some (.file bytes)
      ∧ d.locate .content (root.down (names ++ [file])) = .ok (l ++ (names ++ [file]))
      ∧ d'.locate .content (root'.down (names ++ [file])) = .ok (l' ++ (names ++ [file]))
      ∧ Resolver.findConfig? d (root.down names) = some (root.down (names ++ [file]))
      ∧ Resolver.findConfig? d' (root'.down names) = some (root'.down (names ++ [file]))
  := by
  have hvalid {file : String} (hfile : file ∈ Config.fileNames) :=
    Resolver.valid_concat_fileName hv hfile
  have hfind : Config.fileNames.find? (d.isFile ∘ fun file => (root.down names).entry file.toList)
      = Config.fileNames.find? (d'.isFile ∘ fun file => (root'.down names).entry file.toList) := by
    apply List.find?_congr
    intro file hfile
    rw [Function.comp_apply, Function.comp_apply, ← Path.down_concat, ← Path.down_concat,
      h.isFile_eq (hvalid hfile)]
  rw [Resolver.findConfig?, Resolver.findConfig?, List.find?_map, List.find?_map, ← hfind]
  cases hfound : Config.fileNames.find?
      (d.isFile ∘ fun file => (root.down names).entry file.toList) with
  | none =>
    left
    constructor
    · rfl
    · rfl
  | some file =>
    right
    have hisFile := List.find?_some hfound
    rw [Function.comp_apply, ← Path.down_concat] at hisFile
    obtain ⟨-, hkind⟩ := (h.linkFree.isFile_down_iff h.locate h.dir h.left
      (hvalid (List.mem_of_find?_eq_some hfound))).mp hisFile
    obtain ⟨bytes, hat⟩ := Node.kindAt_eq_file_iff.mp hkind
    rcases h.locate_cases hat with ⟨hl, -⟩ | ⟨hl, hl'⟩
    · obtain ⟨m, read, hm, -⟩ := Disk.exists_of_isFile hisFile
      simp [hl] at hm
    · use file.toList, bytes, hat, hl, hl'
      rw [Path.down_concat, Path.down_concat]
      constructor
      · rfl
      · rfl

/-- A directory of the tree contributes the same to the contexts at both roots. -/
theorem Relocated.moved_ownContext {globalKey globalKey' : Option Path}
    (hout : Resolver.GlobalElsewhere d l globalKey)
    (hout' : Resolver.GlobalElsewhere d' l' globalKey') {names : List Name}
    (hv : ∀ n ∈ names, Name.Valid n) :
  Corresponding (Context.Moved root root' names)
    (Resolver.ownContext d globalKey (root.down names))
    (Resolver.ownContext d' globalKey' (root'.down names))
  := by
  have hlocal {d : Disk} {l : Location} {globalKey : Option Path} {path : Path}
      {names : List Name} {node : Node} (hout : Resolver.GlobalElsewhere d l globalKey)
      (hl : d.locate .content path = .ok (l ++ names))
      (hat : d.root.at? (l ++ names) = some node) :
      (globalKey.any fun key => key.same (Resolver.keyOf d path)) = false := by
    have hkey : Resolver.keyOf d path = Disk.pathOf (l ++ names) := by
      rw [Resolver.keyOf, Disk.canonical, hl]
      rfl
    rw [hkey, Option.any_eq_false]
    intro key hmem
    simp [hout key hmem names (by rw [hat]; rfl)]
  rcases h.findConfig?_cases hv with ⟨hnone, hnone'⟩ | ⟨file, bytes, hat, hl, hl', hfind, hfind'⟩
  · rw [Resolver.ownContext_of_findConfig? hnone, Resolver.ownContext_of_findConfig? hnone']
    exact .ok Context.moved_empty
  · have hat' := (h.at?_eq (names ++ [file])).trans hat
    have hread := Disk.read_eq_ok_iff.mpr ⟨_, hl, hat⟩
    have hread' := Disk.read_eq_ok_iff.mpr ⟨_, hl', hat'⟩
    simp only [Resolver.ownContext, hfind, hfind', Resolver.configIn, hread, hread',
      hlocal hout hl hat, hlocal hout' hl' hat']
    rw [Resolver.readConfig, Resolver.readConfig]
    cases Text.ofBytes? bytes with
    | none => exact .ok Context.moved_empty
    | some text =>
      dsimp only
      cases Config.read text with
      | error cause => exact .error _ _
      | ok config => apply Context.moved_ofConfig config _ _

end

/-! ### Visits -/

/-- Whether two visits are made at the entry that the same names lead to from both roots, in the
same way.  What is said of failures may differ. -/
inductive Visit.Moved (root : Path) (l : Location) (d : Disk) (root' : Path) :
    Visit → Visit → Prop
  | ignored (names : List Name) :
    Moved root l d root' (.ignored (root.down names)) (.ignored (root'.down names))
  | file {names : List Name} {bytes : List UInt8} (relative : Path) {context context' : Context}
    (hat : d.root.at? (l ++ names) = some (.file bytes)) (hrules : context.rules = context'.rules) :
    Moved root l d root' (.file (root.down names) relative context)
      (.file (root'.down names) relative context')
  | unlisted (path path' : Path) (fault : AccessFault) :
    Moved root l d root' (.unlisted path fault) (.unlisted path' fault)
  | broken (path path' : Path) (failure failure' : Failure) :
    Moved root l d root' (.broken path failure) (.broken path' failure')

section

variable {root root' : Path} {l l' : Location} {d d' : Disk}
  (h : Relocated root l d root' l' d')

include h

theorem Relocated.moved_fileVisits {context context' : Context} {names : List Name} {name : Name}
    (hc : context.Moved root root' names context') {node : Node} (relative : Path)
    (hat : d.root.at? (l ++ (names ++ [name])) = some node) (hnode : node.isDir = false) :
  List.Forall₂ (Visit.Moved root l d root')
    (fileVisits d context (root.down (names ++ [name])) relative node)
    (fileVisits d' context' (root'.down (names ++ [name])) relative node)
  := by
  rw [fileVisits, fileVisits, hc.patterns.isIgnored_eq (h.valid hat)]
  cases node with
  | dir entries => simp [Node.isDir] at hnode
  | link target =>
    apply absurd _ (h.linkFree (names ++ [name]) target)
    rw [Node.kindAt, hat]
    rfl
  | file bytes =>
    split
    · exact .cons (.ignored _) .nil
    · exact .cons (.file relative hat hc.rules) .nil

/-- The entries of a directory of the tree are where their names say. -/
theorem Relocated.at?_entries {names : List Name} {entries : Entries}
    (hat : d.root.at? (l ++ names) = some (.dir entries)) :
  ∀ name node, (name, node) ∈ entries.toList →
    d.root.at? (l ++ (names ++ [name])) = some node
  := by
  intro name node hmem
  have hwf : entries.WellFormed := (h.left.root.at? hat).1
  rw [← List.append_assoc, Node.at?_concat hat, Entries.find?_eq_some_iff hwf]
  apply hmem

theorem Relocated.moved_filesVisits {context context' : Context} {names : List Name}
    (hc : context.Moved root root' names context') :
  ∀ entries : Entries,
    (∀ name node, (name, node) ∈ entries.toList →
      d.root.at? (l ++ (names ++ [name])) = some node) →
    List.Forall₂ (Visit.Moved root l d root')
      (filesVisits d context (root.down names) names entries)
      (filesVisits d' context' (root'.down names) names entries)
  | .nil, _ => .nil
  | .cons name node rest, hat => by
    rw [filesVisits, filesVisits, ← Path.down_concat, ← Path.down_concat]
    apply List.rel_append
    · cases hnode : node.isDir with
      | true => exact .nil
      | false => apply h.moved_fileVisits hc _ (hat name node List.mem_cons_self) hnode
    · apply Relocated.moved_filesVisits hc rest fun other node' hmem =>
        hat other node' (List.mem_cons_of_mem _ hmem)

end

mutual

/-- A directory of the tree is visited in the same way from both roots, and so is what is in
it. -/
theorem Relocated.moved_nodeVisits {root root' : Path} {l l' : Location} {d d' : Disk}
    (h : Relocated root l d root' l' d') {globalKey globalKey' : Option Path}
    (hout : Resolver.GlobalElsewhere d l globalKey)
    (hout' : Resolver.GlobalElsewhere d' l' globalKey') {above above' : Context}
    {names : List Name} (hc : above.Moved root root' names above') (name : Name) :
  ∀ node : Node, d.root.at? (l ++ (names ++ [name])) = some node →
    List.Forall₂ (Visit.Moved root l d root')
      (nodeVisits d globalKey above (root.down (names ++ [name])) (names ++ [name]) node)
      (nodeVisits d' globalKey' above' (root'.down (names ++ [name])) (names ++ [name]) node)
  | .file _, _ => by rw [nodeVisits, nodeVisits] <;> simp
  | .link _, _ => by rw [nodeVisits, nodeVisits] <;> simp
  | .dir entries, hat => by
    have hown := h.moved_ownContext hout hout' (h.valid hat)
    rw [nodeVisits, nodeVisits, hc.patterns.isIgnored_eq (h.valid hat)]
    split
    · exact .cons (.ignored _) .nil
    · generalize Resolver.ownContext d globalKey (root.down (names ++ [name])) = own,
        Resolver.ownContext d' globalKey' (root'.down (names ++ [name])) = own' at hown
      cases hown with
      | error failure failure' => exact .cons (.broken _ _ _ _) .nil
      | ok hown =>
        have hinner := hc.extended [name] hown
        rcases h.node?_cases hat with ⟨hnode, hnode'⟩ | ⟨hnode, hnode'⟩
        · rw [hnode, hnode']
          exact .cons (.unlisted _ _ _) .nil
        · rw [hnode, hnode']
          apply List.rel_append
          · apply h.moved_filesVisits hinner entries (h.at?_entries hat)
          · apply h.moved_dirsVisits hout hout' hinner entries (h.at?_entries hat)

theorem Relocated.moved_dirsVisits {root root' : Path} {l l' : Location} {d d' : Disk}
    (h : Relocated root l d root' l' d') {globalKey globalKey' : Option Path}
    (hout : Resolver.GlobalElsewhere d l globalKey)
    (hout' : Resolver.GlobalElsewhere d' l' globalKey') {context context' : Context}
    {names : List Name} (hc : context.Moved root root' names context') :
  ∀ entries : Entries,
    (∀ name node, (name, node) ∈ entries.toList →
      d.root.at? (l ++ (names ++ [name])) = some node) →
    List.Forall₂ (Visit.Moved root l d root')
      (dirsVisits d globalKey context (root.down names) names entries)
      (dirsVisits d' globalKey' context' (root'.down names) names entries)
  | .nil, _ => .nil
  | .cons name node rest, hat => by
    rw [dirsVisits, dirsVisits, ← Path.down_concat, ← Path.down_concat]
    apply List.rel_append
    · apply h.moved_nodeVisits hout hout' hc name node (hat name node List.mem_cons_self)
    · apply h.moved_dirsVisits hout hout' hc rest fun other node' hmem =>
        hat other node' (List.mem_cons_of_mem _ hmem)

end

section

variable {root root' : Path} {l l' : Location} {d d' : Disk}
  (h : Relocated root l d root' l' d')

include h

/-- Both roots are directories with the same entries. -/
theorem Relocated.exists_node? :
  ∃ entries, d.root.at? (l ++ []) = some (.dir entries) ∧ d.node? root = .ok (.dir entries)
    ∧ d'.node? root' = .ok (.dir entries)
  := by
  obtain ⟨entries, hat⟩ := Node.kindAt_eq_dir_iff.mp h.dir
  use entries, by rw [List.append_nil, hat], Disk.node?_eq_ok_iff.mpr ⟨l, h.locate, hat⟩
  apply Disk.node?_eq_ok_iff.mpr ⟨l', h.locate', h.same ▸ hat⟩

/-- The visits of scans of the same tree at two roots are made at the same entries, one after the
other. -/
theorem Relocated.moved_argumentsVisits {globalKey globalKey' : Option Path}
    (hout : Resolver.GlobalElsewhere d l globalKey)
    (hout' : Resolver.GlobalElsewhere d' l' globalKey') (scope : Scope) :
  List.Forall₂ (Visit.Moved root l d root') (argumentsVisits d globalKey scope [root])
    (argumentsVisits d' globalKey' scope [root'])
  := by
  obtain ⟨entries, hat, hnode, hnode'⟩ := h.exists_node?
  have hown := h.moved_ownContext hout hout' (h.valid hat)
  rw [Path.down_nil, Path.down_nil] at hown
  have habove := scope.moved_contextAt root root'
  rw [argumentsVisits_of_isDir _ _ (Disk.isDir_of_node? hnode),
    argumentsVisits_of_isDir _ _ (Disk.isDir_of_node? hnode')]
  generalize scope.contextAt root = above, scope.contextAt root' = above' at habove
  cases habove with
  | error failure failure' => exact .cons (.broken _ _ _ _) .nil
  | ok habove =>
    dsimp only
    rw [directoryVisits, directoryVisits, rootEntries_of_node? hnode,
      rootEntries_of_node? hnode']
    generalize Resolver.ownContext d globalKey root = own,
      Resolver.ownContext d' globalKey' root' = own' at hown
    cases hown with
    | error failure failure' => exact .cons (.broken _ _ _ _) .nil
    | ok hown =>
      have hinner := habove.extended [] hown
      apply List.rel_append
      · apply h.moved_filesVisits hinner entries (h.at?_entries hat)
      · apply h.moved_dirsVisits hout hout' hinner entries (h.at?_entries hat)

end

/-! ### Deeds -/

/-- Whether the same has become of an entry that the same names lead to from two roots. -/
inductive Deed.Moved (root root' : Path) : Deed → Deed → Prop
  | skip (names : List Name) : Moved root root' (.skip (root.down names)) (.skip (root'.down names))
  | note (failure failure' : Failure) : Moved root root' (.note failure) (.note failure')
  | add (names : List Name) (how : Inclusion) (block block' : String) :
    Moved root root' (.add (root.down names) how block) (.add (root'.down names) how block')
  | stop (failure failure' : Failure) : Moved root root' (.stop failure) (.stop failure')

/-- How content is in the document depends on the rules of a context only. -/
theorem inclusionOf_congr {context context' : Context} (h : context.rules = context'.rules)
    (relative : Path) (content : Content) :
  inclusionOf relative context content = inclusionOf relative context' content
  := by
  cases content with
  | binary size => rfl
  | text text => rw [inclusionOf, inclusionOf, h]

section

variable {root root' : Path} {l l' : Location} {d d' : Disk}
  (h : Relocated root l d root' l' d')

include h

/-- The same becomes of a visit at both roots, if no file is kept out. -/
theorem Relocated.moved_deed {visit visit' : Visit} (hvisit : visit.Moved root l d root' visit') :
  Deed.Moved root root' (visit.deed d []) (visit'.deed d' [])
  := by
  cases hvisit with
  | ignored names => exact .skip names
  | unlisted path path' fault => exact .note _ _
  | broken path path' failure failure' => exact .stop _ _
  | @file names bytes relative context context' hat hrules =>
    rw [Visit.deed, Visit.deed, fileDeed, fileDeed, h.read_eq hat]
    cases d'.read (root'.down names) with
    | error fault => exact .note _ _
    | ok bytes =>
      have hhow := inclusionOf_congr hrules relative (.ofBytes bytes)
      change Deed.Moved root root' (.add _ _ _) (.add _ _ _)
      rw [hhow]
      exact .add names _ _ _

end

theorem goes_iff_of_moved {root root' : Path} {deeds deeds' : List Deed}
    (h : List.Forall₂ (Deed.Moved root root') deeds deeds') :
  Goes deeds ↔ Goes deeds'
  := by
  induction h with
  | nil => rfl
  | cons hhead _ ih =>
    simp only [Goes, List.mem_cons, not_or, forall_and] at ih ⊢
    rw [ih]
    cases hhead <;> simp

/-- Files that are added at two roots are the same files, taken from their root. -/
theorem exists_added_of_moved {root root' : Path} {deeds deeds' : List Deed}
    (h : List.Forall₂ (Deed.Moved root root') deeds deeds') :
  ∃ files : List (List Name × Inclusion),
    deeds.filterMap Deed.added? = files.map (fun file => (root.down file.1, file.2))
      ∧ deeds'.filterMap Deed.added? = files.map fun file => (root'.down file.1, file.2)
  := by
  induction h with
  | nil => exact ⟨[], rfl, rfl⟩
  | cons hhead _ ih =>
    obtain ⟨files, hfiles, hfiles'⟩ := ih
    rw [List.filterMap_cons, List.filterMap_cons, hfiles, hfiles']
    cases hhead with
    | skip names => exact ⟨files, rfl, rfl⟩
    | note failure failure' => exact ⟨files, rfl, rfl⟩
    | stop failure failure' => exact ⟨files, rfl, rfl⟩
    | add names how block block' => exact ⟨(names, how) :: files, rfl, rfl⟩

theorem exists_skipped_of_moved {root root' : Path} {deeds deeds' : List Deed}
    (h : List.Forall₂ (Deed.Moved root root') deeds deeds') :
  ∃ entries : List (List Name), deeds.filterMap Deed.skipped? = entries.map root.down
    ∧ deeds'.filterMap Deed.skipped? = entries.map root'.down
  := by
  induction h with
  | nil => exact ⟨[], rfl, rfl⟩
  | cons hhead _ ih =>
    obtain ⟨entries, hentries, hentries'⟩ := ih
    rw [List.filterMap_cons, List.filterMap_cons, hentries, hentries']
    cases hhead with
    | skip names => exact ⟨names :: entries, rfl, rfl⟩
    | note failure failure' => exact ⟨entries, rfl, rfl⟩
    | stop failure failure' => exact ⟨entries, rfl, rfl⟩
    | add names how block block' => exact ⟨entries, rfl, rfl⟩

/-! ### Aggregations -/

/-- A global configuration that was read from a file outside of a directory is none of the files
in it. -/
theorem globalElsewhere_of_reached {d : Disk} {searchDirs : List Path} {r : Resolver}
    {selection : Option Resolver.Selection} {l : Location} (hd : d.WellFormed)
    (hr : Reached d searchDirs r selection)
    (hout : ∀ s ∈ selection, ∀ names, d.locate .content s.loaded.path ≠ .ok (l ++ names)) :
  Resolver.GlobalElsewhere d l r.globalKey
  := by
  obtain ⟨-, hkey, hsound⟩ := hr.sound hd
  rw [hkey]
  intro key hmem names hthere
  obtain ⟨s, hs, rfl⟩ := Option.map_eq_some_iff.mp hmem
  obtain ⟨hsame, hconfig⟩ := hsound s hs
  obtain ⟨m, hm, hpath⟩ := Disk.canonical_eq_ok_iff.mp
    (Resolver.canonical_of_isFile (Resolver.isFile_of_configIn hconfig))
  obtain ⟨node, hat⟩ := Option.isSome_iff_exists.mp hthere
  obtain ⟨-, -, hv⟩ := hd.exists_of_locate hm
  rw [← hpath] at hsame
  rw [Bool.eq_false_iff]
  intro hinside
  have heq := (Disk.same_pathOf_iff hv (hd.root.at? hat).2).mp (Path.same_trans hsame hinside)
  apply hout s hs names (heq ▸ hm)

/-- Aggregations of the same tree without links at two roots both succeed or both fail.  If they
succeed, the same files are in both documents, in the same way, and the same entries are skipped,
all of them seen from the root. -/
theorem aggregate_relocated {root root' : Path} {l l' : Location} {d d' : Disk}
    {searchDirs searchDirs' : List Path} {r r' : Resolver}
    {selection selection' : Option Resolver.Selection} {k k' : Sink}
    (h : Relocated root l d root' l' d') (hr : Reached d searchDirs r selection)
    (hr' : Reached d' searchDirs' r' selection')
    (hout : ∀ s ∈ selection, ∀ names, d.locate .content s.loaded.path ≠ .ok (l ++ names))
    (hout' : ∀ s ∈ selection', ∀ names, d'.locate .content s.loaded.path ≠ .ok (l' ++ names))
    (hk : k.Unlimited) (hk' : k'.Unlimited) (scope : Scope) :
  ((∃ report, (aggregate d scope [root] none (start r k)).result = .ok report)
      ↔ ∃ report', (aggregate d' scope [root'] none (start r' k')).result = .ok report')
    ∧ ∀ report report',
      (aggregate d scope [root] none (start r k)).result = .ok report →
      (aggregate d' scope [root'] none (start r' k')).result = .ok report' →
      ∃ (files : List (List Name × Inclusion)) (entries : List (List Name)),
        report.included = files.map (fun file => (root.down file.1, file.2))
          ∧ report'.included = files.map (fun file => (root'.down file.1, file.2))
          ∧ report.skipped = entries.map root.down
          ∧ report'.skipped = entries.map root'.down
  := by
  have hs : Ready d r.globalKey (start r k) :=
    ready_start h.left ((hr.sound h.left).1.faithful h.left) hk.offDisk
  have hs' : Ready d' r'.globalKey (start r' k') :=
    ready_start h.right ((hr'.sound h.right).1.faithful h.right) hk'.offDisk
  have hdeeds : List.Forall₂ (Deed.Moved root root') (dueDeeds d r.globalKey scope none [root])
      (dueDeeds d' r'.globalKey scope none [root']) := by
    rw [dueDeeds, dueDeeds, List.forall₂_map_left_iff, List.forall₂_map_right_iff]
    apply (h.moved_argumentsVisits (globalElsewhere_of_reached h.left hr hout)
      (globalElsewhere_of_reached h.right hr' hout') scope).imp
    intro visit visit' hvisit
    apply h.moved_deed hvisit
  constructor
  · rw [aggregate_succeeds_iff hs hk, aggregate_succeeds_iff hs' hk', goes_iff_of_moved hdeeds]
  · intro report report' hok hok'
    obtain ⟨rfl, hdone⟩ := aggregated_dueDeeds hs hk hok
    obtain ⟨rfl, hdone'⟩ := aggregated_dueDeeds hs' hk' hok'
    obtain ⟨files, hfiles, hfiles'⟩ := exists_added_of_moved hdeeds
    obtain ⟨entries, hentries, hentries'⟩ := exists_skipped_of_moved hdeeds
    use files, entries
    rw [hdone.report, hdone'.report, included_foldl_record, included_foldl_record,
      skipped_foldl_record, skipped_foldl_record]
    use hfiles, hfiles', hentries, hentries'

/-! ### Aggregations of a small disk -/

/-- The names that lead to something on the small disk. -/
theorem mem_of_at?_siblingDisk {names : List Name}
    (h : ((siblingDisk plainEntries).root.at? names).isSome = true) :
  names ∈ [[], [['b']], [['b'], ['x']], [['y']]]
  := by
  match names with
  | [] => simp
  | [name] =>
    simp only [siblingDisk, Node.at?_dir_cons, Entries.find?_cons, Entries.find?_nil] at h
    split at h
    · simp_all
    · split at h <;> simp_all
  | name :: inner :: rest =>
    simp only [siblingDisk, plainEntries, Node.at?_dir_cons, Entries.find?_cons,
      Entries.find?_nil] at h
    split at h
    · simp only [Option.bind_some, Node.at?_dir_cons, Entries.find?_cons, Entries.find?_nil] at h
      split at h
      · cases rest <;> simp_all
      · simp at h
    · split at h <;> simp at h

theorem siblingDisk_relocated :
  Relocated ⟨"."⟩ [] (siblingDisk plainEntries) ⟨"b/.."⟩ [] (siblingDisk plainEntries)
  := by
  have hlocate : (siblingDisk plainEntries).locate .content ⟨"b/.."⟩ = .ok [] := by cbv
  use sibling_twins.left, sibling_twins.left, (siblingDisk_locate plainEntries).1, hlocate, rfl,
    rfl, sibling_twins.linkFree.below []
  intro names hthere
  have hmem := mem_of_at?_siblingDisk hthere
  simp only [List.mem_cons, List.not_mem_nil, or_false] at hmem
  rcases hmem with rfl | rfl | rfl | rfl <;> rw [Path.TooLong, Path.TooLong] <;> decide

/-- The aggregation succeeds at both roots, and has the same files in the document. -/
theorem aggregate_relocated_sample :
  ∃ (report report' : Report) (files : List (List Name × Inclusion)),
    (aggregate (siblingDisk plainEntries) .empty [⟨"."⟩] none inMemory).result = .ok report
    ∧ (aggregate (siblingDisk plainEntries) .empty [⟨"b/.."⟩] none inMemory).result = .ok report'
    ∧ report.included = files.map (fun file => ((⟨"."⟩ : Path).down file.1, file.2))
    ∧ report'.included = files.map fun file => ((⟨"b/.."⟩ : Path).down file.1, file.2)
  := by
  have hfresh : Reached (siblingDisk plainEntries) [] (.empty []) none := .fresh
  have hsink := Sink.unlimited_empty_memory ⟨"out.md"⟩ "maid"
  obtain ⟨hboth, hsame⟩ := aggregate_relocated siblingDisk_relocated hfresh hfresh (by simp)
    (by simp) hsink hsink .empty
  obtain ⟨⟨report, hok⟩, -⟩ := siblings_succeed
  obtain ⟨report', hok'⟩ := hboth.mp ⟨report, hok⟩
  obtain ⟨files, entries, hfiles, hfiles', -⟩ := hsame report report' hok hok'
  use report, report', files, hok, hok', hfiles, hfiles'

/-! ### A root whose path is as long as a path may be -/

/-- A scan of the directory `b` comes upon its file only. -/
theorem siblingDisk_visits_b {root : Path}
    (hroot : (siblingDisk plainEntries).locate .content root = .ok [['b']]) :
  argumentsVisits (siblingDisk plainEntries) none .empty [root]
    = [.file (root.entry ['x']) (.ofNames [['x']]) (Context.empty.extended .empty)]
  := by
  obtain ⟨hnode, hown⟩ := plainEntries_found hroot
  have habove : Scope.empty.contextAt root = .ok .empty := rfl
  rw [argumentsVisits_of_isDir _ _ (Disk.isDir_of_node? hnode), habove]
  dsimp only
  rw [directoryVisits, hown, rootEntries_of_node? hnode]
  rfl

theorem siblingDisk_read_b :
  (siblingDisk plainEntries).locate .content ⟨"b"⟩ = .ok [['b']]
    ∧ (⟨"b"⟩ : Path).entry ['x'] = ⟨"b/x"⟩
    ∧ (siblingDisk plainEntries).read ((⟨"b"⟩ : Path).entry ['x']) = .ok [104]
  := by
  have hpath : (⟨"b"⟩ : Path).entry ['x'] = ⟨"b/x"⟩ := by decide
  rw [hpath]
  refine ⟨by cbv, rfl, by cbv⟩

/-- The aggregation has the file of the directory `b` in the document if that can be read. -/
theorem siblingDisk_included_b {root : Path}
    (hroot : (siblingDisk plainEntries).locate .content root = .ok [['b']]) :
  ∃ report, (aggregate (siblingDisk plainEntries) .empty [root] none inMemory).result = .ok report
    ∧ report.included.length =
      match (siblingDisk plainEntries).read (root.entry ['x']) with
      | .error _ => 0
      | .ok _ => 1
  := by
  have hs := inMemory_ready sibling_twins.left
  have hsink : inMemory.sink.Unlimited := Sink.unlimited_empty_memory ⟨"out.md"⟩ "maid"
  have hgoes : Goes (dueDeeds (siblingDisk plainEntries) none .empty none [root]) := by
    rw [goes_dueDeeds_iff, siblingDisk_visits_b hroot]
    simp
  obtain ⟨report, hok⟩ := (aggregate_succeeds_iff hs hsink).mpr hgoes
  use report, hok
  obtain ⟨rfl, hdone⟩ := aggregated_dueDeeds hs hsink hok
  rw [hdone.report, included_foldl_record, dueDeeds, siblingDisk_visits_b hroot,
    List.map_singleton, Visit.deed, fileDeed]
  cases (siblingDisk plainEntries).read (root.entry ['x']) <;> rfl

/-- A file of a directory that is spelled with many slashes has a path that may be too long, so
that it is no longer in the document. -/
theorem not_relocated_slashed :
  (siblingDisk plainEntries).locate .content ⟨"b"⟩ = .ok [['b']]
    ∧ (siblingDisk plainEntries).locate .content (slashed 4094) = .ok [['b']]
    ∧ ∃ report report',
      (aggregate (siblingDisk plainEntries) .empty [⟨"b"⟩] none inMemory).result = .ok report
      ∧ (aggregate (siblingDisk plainEntries) .empty [slashed 4094] none inMemory).result
        = .ok report'
      ∧ ¬ ∃ files : List (List Name × Inclusion),
        report.included = files.map (fun file => ((⟨"b"⟩ : Path).down file.1, file.2))
          ∧ report'.included = files.map fun file => ((slashed 4094).down file.1, file.2)
  := by
  obtain ⟨hroot, -, hread⟩ := siblingDisk_read_b
  have hroot' : (siblingDisk plainEntries).locate .content (slashed 4094) = .ok [['b']] :=
    locate_slashed (by decide) (by decide) rfl
  have hread' : (siblingDisk plainEntries).read ((slashed 4094).entry ['x'])
      = .error .nameTooLong := Disk.read_of_locate (locate_slashed_entry rfl)
  obtain ⟨report, hok, hcount⟩ := siblingDisk_included_b hroot
  obtain ⟨report', hok', hcount'⟩ := siblingDisk_included_b hroot'
  rw [hread] at hcount
  rw [hread'] at hcount'
  use hroot, hroot', report, report', hok, hok'
  rintro ⟨files, hfiles, hfiles'⟩
  rw [hfiles, List.length_map] at hcount
  rw [hfiles', List.length_map] at hcount'
  simp [hcount] at hcount'

end Scan

end Compendium
