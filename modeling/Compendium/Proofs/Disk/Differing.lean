import Compendium.Config
import Compendium.Proofs.Disk.Below

/-!
# Disks that differ in configuration files

Two disks are the same but for the configuration files in one directory, if they are the same
when those are taken away.  Then they have the same kinds and the same bytes everywhere else, and
a path that leads to one of these files on either disk leads nowhere else on the other.
-/

namespace Compendium

/-- Whether a name is one that configuration files have. -/
def Name.IsConfig (name : Name) : Prop := ∃ file ∈ Config.fileNames, name = file.toList

instance (name : Name) : Decidable name.IsConfig :=
  inferInstanceAs (Decidable (∃ file ∈ Config.fileNames, name = file.toList))

namespace Entries

/-- The entries without the configuration files among them. -/
def withoutConfigs : Entries → Entries
  | .nil => .nil
  | .cons name node rest =>
    if name.IsConfig ∧ node.isFile then rest.withoutConfigs
    else .cons name node rest.withoutConfigs

/-- The entries with a change made to the one of a name. -/
def alter (name : Name) (f : Node → Node) : Entries → Entries
  | .nil => .nil
  | .cons other node rest =>
    if name = other then .cons other (f node) rest else .cons other node (rest.alter name f)

theorem find?_eq_none_of_lt {name : Name} :
  ∀ {entries : Entries}, (∀ other ∈ entries.names, name < other) → entries.find? name = none
  | .nil, _ => rfl
  | .cons other node rest, h => by
    have hne : name ≠ other := by
      rintro rfl
      apply List.lt_irrefl _ (h name List.mem_cons_self)
    rw [find?_cons, if_neg hne,
      find?_eq_none_of_lt fun other hother => h other (List.mem_cons_of_mem _ hother)]

theorem names_withoutConfigs_subset :
  ∀ entries : Entries, entries.withoutConfigs.names ⊆ entries.names
  | .nil => by simp [withoutConfigs]
  | .cons other node rest => by
    have hrest := names_withoutConfigs_subset rest
    rw [withoutConfigs]
    split
    · intro name hname
      apply List.mem_cons_of_mem _ (hrest hname)
    · apply List.cons_subset_cons other hrest

theorem find?_withoutConfigs (name : Name) :
  ∀ {entries : Entries}, entries.WellFormed →
    entries.withoutConfigs.find? name
      = (entries.find? name).filter fun node => !(decide name.IsConfig && node.isFile)
  | .nil, _ => rfl
  | .cons other node rest, hwf => by
    rw [Entries.WellFormed] at hwf
    rw [withoutConfigs, find?_cons]
    by_cases hn : name = other
    · subst hn
      rw [if_pos rfl]
      split
      · rename_i hconfig
        rw [find?_eq_none_of_lt fun other hother =>
          hwf.2.1 other (names_withoutConfigs_subset rest hother)]
        simp [Option.filter, hconfig]
      · rename_i hconfig
        rw [not_and] at hconfig
        simpa [Option.filter, find?_cons] using hconfig
    · rw [if_neg hn, ← find?_withoutConfigs name hwf.2.2.2]
      split
      · rfl
      · rw [find?_cons, if_neg hn]

theorem find?_alter (name other : Name) (f : Node → Node) :
  ∀ entries : Entries, (entries.alter name f).find? other =
    if other = name then (entries.find? other).map f else entries.find? other
  | .nil => by simp [alter]
  | .cons third node rest => by
    rw [alter, find?_cons]
    by_cases hn : name = third
    · subst hn
      rw [if_pos rfl, find?_cons]
      split <;> simp
    · rw [if_neg hn, find?_cons, find?_alter name other f rest]
      by_cases ho : other = third
      · subst ho
        simp [Ne.symm hn]
      · simp [ho]

end Entries

namespace Node

/-- The tree without the configuration files in the directory at a location. -/
def withoutConfigsAt : Location → Node → Node
  | [], .dir entries => .dir entries.withoutConfigs
  | name :: l, .dir entries => .dir (entries.alter name (withoutConfigsAt l))
  | _, node => node

/-- Whether a location is that of a configuration file in the directory at `l`. -/
def ConfigPlace (l m : Location) : Prop := ∃ file ∈ Config.fileNames, m = l ++ [file.toList]

instance (l m : Location) : Decidable (ConfigPlace l m) :=
  inferInstanceAs (Decidable (∃ file ∈ Config.fileNames, m = l ++ [file.toList]))

theorem configPlace_cons {name name' : Name} {l m : Location} :
  ConfigPlace (name :: l) (name' :: m) ↔ name' = name ∧ ConfigPlace l m
  := by
  simp only [ConfigPlace, List.cons_append, List.cons.injEq]
  constructor
  · rintro ⟨file, hfile, rfl, rfl⟩
    exact ⟨rfl, file, hfile, rfl⟩
  · rintro ⟨rfl, file, hfile, rfl⟩
    exact ⟨file, hfile, rfl, rfl⟩

theorem not_configPlace_nil (l : Location) :
  ¬ ConfigPlace l []
  := by
  rintro ⟨file, -, h⟩
  simp at h

theorem configPlace_nil_cons {name : Name} {m : Location} :
  ConfigPlace [] (name :: m) ↔ name.IsConfig ∧ m = []
  := by
  simp only [ConfigPlace, List.nil_append, List.cons.injEq]
  constructor
  · rintro ⟨file, hfile, rfl, rfl⟩
    exact ⟨⟨file, hfile, rfl⟩, rfl⟩
  · rintro ⟨⟨file, hfile, rfl⟩, rfl⟩
    exact ⟨file, hfile, rfl, rfl⟩

/-- A configuration file that is taken away is there no more, and nothing else is taken away.
Of what is there, anything can be told that does not depend on the entries of a directory. -/
theorem map_at?_withoutConfigsAt {α : Type} {f : Node → α}
    (hf : ∀ entries entries', f (.dir entries) = f (.dir entries')) {root : Node}
    (hwf : root.WellFormed) (l m : Location) :
  ((root.withoutConfigsAt l).at? m).map f =
    if ConfigPlace l m ∧ root.kindAt m = some .file then none else (root.at? m).map f
  := by
  induction l generalizing root m with
  | nil =>
    cases root with
    | file => cases m <;> simp [withoutConfigsAt, kindAt, not_configPlace_nil]
    | link => cases m <;> simp [withoutConfigsAt, kindAt, not_configPlace_nil]
    | dir entries =>
      cases m with
      | nil => simp [withoutConfigsAt, kindAt_nil, kind, hf entries.withoutConfigs entries]
      | cons name m =>
        rw [Node.WellFormed] at hwf
        rw [withoutConfigsAt, kindAt_cons, at?_dir_cons, at?_dir_cons,
          Entries.find?_withoutConfigs name hwf]
        simp only [configPlace_nil_cons]
        cases entries.find? name with
        | none => simp
        | some node =>
          by_cases hname : name.IsConfig <;> cases node <;> cases m <;>
            simp [Option.filter, hname, isFile, kindAt, kind]
  | cons name l ih =>
    cases root with
    | file => cases m <;> simp [withoutConfigsAt, kindAt, not_configPlace_nil]
    | link => cases m <;> simp [withoutConfigsAt, kindAt, not_configPlace_nil]
    | dir entries =>
      cases m with
      | nil =>
        simp [withoutConfigsAt, kindAt_nil, kind,
          hf (entries.alter name (withoutConfigsAt l)) entries]
      | cons other m =>
        rw [Node.WellFormed] at hwf
        rw [withoutConfigsAt, kindAt_cons, at?_dir_cons, at?_dir_cons, Entries.find?_alter]
        simp only [configPlace_cons]
        by_cases hn : other = name
        · subst hn
          cases hfind : entries.find? other with
          | none => simp
          | some node =>
            have hnode := (hwf.of_mem (Entries.mem_toList_of_find? hfind)).2
            simpa using ih hnode m
        · simp [hn]

/-- Without the configuration files of a directory, everything else is of the same kind. -/
theorem kindAt_withoutConfigsAt {root : Node} (hwf : root.WellFormed) (l m : Location) :
  (root.withoutConfigsAt l).kindAt m =
    if ConfigPlace l m ∧ root.kindAt m = some .file then none else root.kindAt m
  := by
  apply map_at?_withoutConfigsAt _ hwf
  intro entries entries'
  rfl

theorem bytesAt_withoutConfigsAt {root : Node} (hwf : root.WellFormed) {l m : Location}
    (h : ¬ ConfigPlace l m) :
  (root.withoutConfigsAt l).bytesAt m = root.bytesAt m
  := by
  have hmap : ((root.withoutConfigsAt l).at? m).map bytes? = (root.at? m).map bytes? := by
    rw [map_at?_withoutConfigsAt _ hwf, if_neg fun hplace => h hplace.1]
    intro entries entries'
    rfl
  have hjoin := congrArg (Option.bind · id) hmap
  rwa [Option.bind_map, Option.bind_map] at hjoin

/-- What is taken away in a directory further down is taken away from what is on the way. -/
theorem at?_withoutConfigsAt_append (root : Node) (l m : Location) :
  (root.withoutConfigsAt (l ++ m)).at? l = (root.at? l).map (withoutConfigsAt m)
  := by
  induction l generalizing root with
  | nil => rfl
  | cons name l ih =>
    cases root with
    | file => rfl
    | link => rfl
    | dir entries =>
      rw [List.cons_append, withoutConfigsAt, at?_dir_cons, at?_dir_cons, Entries.find?_alter,
        if_pos rfl]
      cases entries.find? name with
      | none => rfl
      | some node => apply ih

end Node

namespace Disk

/-- Two disks that are the same but for the configuration files in the directory at `l`. -/
structure SameBut (l : Location) (d d' : Disk) : Prop where
  root : d.root.withoutConfigsAt l = d'.root.withoutConfigsAt l
  here : d.here = d'.here

theorem SameBut.symm {l : Location} {d d' : Disk} (h : SameBut l d d') :
  SameBut l d' d
  := ⟨h.root.symm, h.here.symm⟩

section

variable {l : Location} {d d' : Disk} (h : SameBut l d d') (hd : d.WellFormed)
  (hd' : d'.WellFormed)

include h hd hd'

/-- Disks that differ in configuration files only have the same kinds elsewhere. -/
theorem SameBut.kindAt_eq {m : Location} (hm : ¬ Node.ConfigPlace l m) :
  d.root.kindAt m = d'.root.kindAt m
  := by
  have hkind := Node.kindAt_withoutConfigsAt hd.root l m
  rw [h.root, Node.kindAt_withoutConfigsAt hd'.root] at hkind
  simpa [hm] using hkind.symm

theorem SameBut.bytesAt_eq {m : Location} (hm : ¬ Node.ConfigPlace l m) :
  d.root.bytesAt m = d'.root.bytesAt m
  := by
  rw [← Node.bytesAt_withoutConfigsAt hd.root hm, h.root,
    Node.bytesAt_withoutConfigsAt hd'.root hm]

/-- The directories are the same, even those that are named like a configuration file. -/
theorem SameBut.kindAt_eq_dir {m : Location} (hm : d.root.kindAt m = some .dir) :
  d'.root.kindAt m = some .dir
  := by
  have hkind := Node.kindAt_withoutConfigsAt hd.root l m
  rw [h.root, Node.kindAt_withoutConfigsAt hd'.root, hm] at hkind
  simp only [Option.some.injEq, reduceCtorEq, and_false, if_false] at hkind
  split at hkind
  · simp at hkind
  · apply hkind

/-- Where the configuration files are that the disks may differ in. -/
def hiddenIn (l : Location) (d : Disk) (m : Location) : Prop :=
  Node.ConfigPlace l m ∧ d.root.kindAt m ≠ some .dir

theorem SameBut.agreeBut (hfree : d.LinkFree) (hfree' : d'.LinkFree) :
  AgreeBut (hiddenIn l d) d.root d'.root
  := by
  have hkinds {root : Node} (hlink : ∀ m target, root.kindAt m ≠ some (.link target))
      {m : Location} (hm : root.kindAt m ≠ some .dir) :
      root.kindAt m = none ∨ root.kindAt m = some .file := by
    cases hk : root.kindAt m with
    | none =>
      left
      rfl
    | some kind =>
      cases kind with
      | file =>
        right
        rfl
      | dir => apply absurd hk hm
      | link target => apply absurd hk (hlink m target)
  constructor
  · intro m hm
    by_cases hplace : Node.ConfigPlace l m
    · have hdir : d.root.kindAt m = some .dir := by simpa [hiddenIn, hplace] using hm
      rw [hdir, h.kindAt_eq_dir hd hd' hdir]
    · apply h.kindAt_eq hd hd' hplace
  · rintro m ⟨-, hm⟩
    apply hkinds hfree hm
  · rintro m ⟨-, hm⟩
    apply hkinds hfree' fun hdir => hm (h.symm.kindAt_eq_dir hd' hd hdir)

/-- A path leads to the same place on both disks, unless it leads to a configuration file that
they may differ in, or nowhere. -/
theorem SameBut.locate (hfree : d.LinkFree) (hfree' : d'.LinkFree) (purpose : Purpose)
    (path : Path) :
  d.locate purpose path = d'.locate purpose path
    ∨ Concealed (hiddenIn l d) (d.locate purpose path)
      ∧ Concealed (hiddenIn l d) (d'.locate purpose path)
  := by
  rw [Disk.locate, Disk.locate, ← h.here]
  split
  · left
    rfl
  split
  · left
    rfl
  split
  · left
    rfl
  · apply follow_congr (h.agreeBut hd hd' hfree hfree')

/-- A path that leads to a directory leads there on both disks. -/
theorem SameBut.locate_of_dir (hfree : d.LinkFree) (hfree' : d'.LinkFree) {path : Path}
    {m : Location} (hm : d.locate .content path = .ok m) (hdir : d.root.kindAt m = some .dir) :
  d'.locate .content path = .ok m
  := by
  rcases h.locate hd hd' hfree hfree' .content path with heq | ⟨⟨-, hconcealed⟩, -⟩
  · rw [← heq, hm]
  · apply absurd hdir (hconcealed m hm).2

end

end Disk

end Compendium
