import Mathlib.Data.List.Find
import Compendium.Proofs.Disk.Differing
import Compendium.Proofs.Disk.Making
import Compendium.Proofs.Resolver.Local

/-!
# Where a global configuration is looked for

A global configuration is looked for in the working directory and in directories that the home
directory leads to.  When only directories and one file that is no configuration are new on a
disk, it is found where it has been found before.
-/

namespace Compendium

namespace Path

/-- What pieces stand for is kept by joining paths, if empty pieces stand for nothing. -/
theorem filterMap_pieces_join {α : Type} {f : List Char → Option α} (hf : f [] = none) (p : Path)
    {q : Path} (hq : q.isAbsolute = false) :
  (Text.pieces '/' (p.join q).text.toList).filterMap f
    = (Text.pieces '/' p.text.toList).filterMap f ++ (Text.pieces '/' q.text.toList).filterMap f
  := by
  rw [join, hq, Bool.false_or]
  split
  · rename_i hp
    have hnil : p.text.toList = [] := by simpa using hp
    simp [hnil, hf]
  · split
    · rename_i hlast
      obtain ⟨cs, hcs⟩ := List.getLast?_eq_some_iff.mp hlast
      rw [String.toList_append, hcs, List.append_assoc, List.singleton_append, Text.pieces_append,
        Text.pieces_append]
      simp [hf]
    · have htext : (p.text ++ "/" ++ q.text).toList = p.text.toList ++ '/' :: q.text.toList := by
        simp
      rw [htext, Text.pieces_append, List.filterMap_append]

/-- A relative path is seen from where the path before it starts. -/
theorem start_join (p : Path) {q : Path} (hq : q.isAbsolute = false) (here : Location) :
  Disk.start (p.join q).text.toList here = Disk.start p.text.toList here
  := by
  have hhead : q.text.toList.head? ≠ some '/' := by simpa [isAbsolute] using hq
  rw [join, hq, Bool.false_or]
  split
  · rename_i hp
    have hnil : p.text.toList = [] := by simpa using hp
    simp [Disk.start, hnil, hhead]
  · rename_i hp
    have hne : p.text.toList ≠ [] := by simpa using hp
    split <;> simp [Disk.start, List.head?_append_of_ne_nil _ hne]

end Path

namespace Disk

/-- Whether the file at a location does not have the name of a configuration file. -/
def NotNamedConfig (l : Location) : Prop := ∀ above name, l = above ++ [name] → ¬ name.IsConfig

theorem notNamedConfig_iff {l : Location} :
  NotNamedConfig l ↔ ∀ name ∈ l.getLast?, ¬ name.IsConfig
  := by
  constructor
  · intro h name hname
    obtain ⟨above, rfl⟩ := List.getLast?_eq_some_iff.mp hname
    apply h above name rfl
  · rintro h above name rfl
    apply h name List.getLast?_concat

instance (l : Location) : Decidable (NotNamedConfig l) := decidable_of_iff _ notNamedConfig_iff.symm

/-- Whether the way of a path starts with a way over the disk after which it goes no step up. -/
def Steady (d : Disk) (path : Path) : Prop :=
  ∃ before after there, (Text.pieces '/' path.text.toList).filterMap step? = before ++ after
    ∧ .up ∉ after
    ∧ follow d.root .content linkLimit (start path.text.toList d.here) before = .ok there
    ∧ d.root.kindAt there = some .dir

section

variable {d e : Disk} {l : Location}

theorem steps_entry (dir : Path) {name : Name} (hv : name.Valid) :
  steps (dir.entry name).text.toList
    = (Text.pieces '/' dir.text.toList).filterMap step? ++ [.name name]
  := by
  have hnames : ∀ n ∈ [name], Name.Valid n := by simpa using hv
  apply Path.steps_down hnames dir (List.cons_ne_nil name [])

theorem start_entry (dir : Path) {name : Name} (hv : name.Valid) (here : Location) :
  start (dir.entry name).text.toList here = start dir.text.toList here
  := by
  apply Path.start_join
  rw [Path.isAbsolute, Path.ofChars, String.toList_ofList, decide_eq_false_iff_not]
  intro hhead
  apply hv.slash_notMem (List.mem_of_mem_head? hhead)

/-- Where there are no links, the path of an entry leads to a location that ends with its name. -/
theorem exists_concat_of_locate_entry (hfree : d.LinkFree) {dir : Path} {name : Name}
    (hv : name.Valid) {m : Location} (h : d.locate .content (dir.entry name) = .ok m) :
  ∃ above, m = above ++ [name]
  := by
  obtain ⟨-, -, -, hway⟩ := locate_eq_ok_iff.mp h
  rw [steps_entry dir hv] at hway
  obtain ⟨above, -, -, -, hm⟩ := exists_above_of_follow hfree hway
  use above, hm

/-- A way goes over the disk first and up no more if it leads to a directory, or never goes up. -/
theorem steady_of_isDir_or (hd : d.WellFormed) {path : Path}
    (h : d.isDir path = true ∨ .up ∉ steps path.text.toList) :
  d.Steady path
  := by
  rcases h with h | h
  · obtain ⟨-, -, -, there, hway, hdir⟩ := isDir_iff_pieces.mp h
    exact ⟨_, [], there, (List.append_nil _).symm, by simp, hway, hdir⟩
  · use [], (Text.pieces '/' path.text.toList).filterMap step?,
      start path.text.toList d.here, rfl
    use fun hmem => h (List.mem_append_left _ hmem), follow_nil _ _ _ _
    apply kindAt_start hd.here _

theorem Steady.join {path relative : Path} (h : d.Steady path)
    (hrelative : relative.isAbsolute = false)
    (hup : .up ∉ (Text.pieces '/' relative.text.toList).filterMap step?) :
  d.Steady (path.join relative)
  := by
  obtain ⟨before, after, there, hpieces, hafter, hbefore, hdir⟩ := h
  use before, after ++ (Text.pieces '/' relative.text.toList).filterMap step?, there
  rw [Path.filterMap_pieces_join (by rfl) path hrelative, hpieces, Path.start_join path hrelative,
    List.append_assoc]
  simp only [List.mem_append, not_or]
  use trivial, ⟨hafter, hup⟩, hbefore, hdir

/-- The absolute path of a location goes down only. -/
theorem up_notMem_steps_pathOf {l : Location} (h : ∀ n ∈ l, Name.Valid n) :
  .up ∉ steps (pathOf l).text.toList
  := by
  have hup : ∀ n ∈ l, step? n ≠ some .up := by
    intro n hn
    simp [step?, (h n hn).ne_nil, (h n hn).ne_here, (h n hn).ne_up]
  rw [steps, pathOf, Path.ofChars, String.toList_ofList, Text.pieces_cons_self,
    List.filterMap_cons_none (by rfl), List.mem_append, not_or]
  constructor
  · by_cases hl : l = []
    · subst hl
      decide
    · rw [Text.pieces_join hl fun n hn => (h n hn).slash_notMem, List.mem_filterMap]
      rintro ⟨n, hn, hstep⟩
      apply hup n hn hstep
  · split <;> simp

variable (h : Keeps (· = l) d e) (hfree : d.LinkFree) (hl : NotNamedConfig l) {file : String}
  (hfile : file ∈ Config.fileNames) {dir : Path}

include hl hfile

/-- What a path with the name of a configuration file leads to is not at the location. -/
theorem NotNamedConfig.ne (hfree : d.LinkFree) {m : Location}
    (hm : d.locate .content (dir.entry file.toList) = .ok m) :
  m ≠ l
  := by
  rintro rfl
  obtain ⟨above, rfl⟩ :=
    exists_concat_of_locate_entry hfree (Resolver.valid_of_mem_fileNames hfile) hm
  apply hl above _ rfl ⟨file, hfile, rfl⟩

include h hfree

/-- A configuration file is found again. -/
theorem Keeps.isFile_config (hd : d.isFile (dir.entry file.toList) = true) :
  e.isFile (dir.entry file.toList) = true
  := by
  obtain ⟨bytes, hread⟩ := isFile_iff.mp hd
  obtain ⟨m, hm, -⟩ := read_eq_ok_iff.mp hread
  apply isFile_iff.mpr ⟨bytes, h.read hfree (hl.ne hfile hfree hm) hm hread⟩

/-- In a directory to which no new directory can lead, no configuration file is new. -/
theorem Keeps.isFile_config_back (hdir : d.Steady dir)
    (he : e.isFile (dir.entry file.toList) = true) :
  d.isFile (dir.entry file.toList) = true
  := by
  have hv := Resolver.valid_of_mem_fileNames hfile
  have hfree' := h.linkFree hfree
  obtain ⟨m, bytes, hm, hat⟩ := exists_of_isFile he
  have hne : m ≠ l := hl.ne hfile hfree' hm
  have hkind : d.root.kindAt m = some .file := by
    have hkind' : e.root.kindAt m = some .file := Node.kindAt_eq_file_iff.mpr ⟨bytes, hat⟩
    cases hk : d.root.kindAt m with
    | none => rcases h.new m hne hk with hk' | hk' <;> simp [hkind'] at hk'
    | some kind => rw [← h.kindAt m kind hne hk, hkind']
  obtain ⟨before, after, there, hpieces, hup, hbefore, hthere⟩ := hdir
  obtain ⟨hother, -⟩ := h.kindAt_dir hthere
  obtain ⟨hnull, hne', hlen, hway⟩ := locate_eq_ok_iff.mp hm
  rw [steps_entry dir hv, start_entry dir hv, h.here, hpieces, List.append_assoc] at hway
  have hbefore' := h.follow hfree linkLimit hother hbefore
  obtain ⟨links, hfurther⟩ := follow_further hbefore'
  obtain ⟨links', hfurther'⟩ := follow_further hbefore
  rw [hfurther] at hway
  obtain ⟨bytes', hat'⟩ := Node.kindAt_eq_file_iff.mp hkind
  apply isFile_iff.mpr
  use bytes', read_eq_ok_iff.mpr ⟨m, locate_eq_ok_iff.mpr ⟨hnull, hne', hlen, ?_⟩, hat'⟩
  rw [steps_entry dir hv, start_entry dir hv, hpieces, List.append_assoc, hfurther']
  apply h.follow_back hfree links' (by simpa using hup) hne hkind hway

end

end Disk

namespace Resolver

open Disk

variable {d e : Disk} {l : Location}

/-- No configuration file is at a location without the name of one. -/
theorem IsConfig.locate_ne (hfree : d.LinkFree) (hl : NotNamedConfig l) {path : Path}
    (h : IsConfig d path) :
  d.locate .content path ≠ .ok l
  := by
  obtain ⟨dir, hdir⟩ := h
  obtain ⟨file, hfile, rfl⟩ := List.mem_map.mp (List.mem_of_find?_eq_some hdir)
  intro hm
  apply hl.ne hfile hfree hm rfl

/-- Where configuration files are found alike, one is looked for with the same result. -/
theorem findConfig?_congr {dir : Path}
    (h : ∀ file ∈ Config.fileNames,
      d.isFile (dir.entry file.toList) = true ↔ e.isFile (dir.entry file.toList) = true) :
  findConfig? d dir = findConfig? e dir
  := by
  rw [findConfig?, findConfig?]
  apply List.find?_congr
  intro path hpath
  obtain ⟨file, hfile, rfl⟩ := List.mem_map.mp hpath
  apply Bool.eq_iff_iff.mpr (h file hfile)

/-- The ways to the directories in which a global configuration is looked for go up only over what
is there, if the way to the home directory does. -/
theorem steady_of_mem_defaultDirs (hd : d.WellFormed) {home : Option Path}
    (hhome : ∀ path, home = some path → d.isDir path = true ∨ .up ∉ steps path.text.toList)
    {dir : Path} (hdir : dir ∈ defaultDirs (pathOf d.here) home) :
  d.Steady dir
  := by
  have hhere : d.Steady (pathOf d.here) := by
    obtain ⟨entries, hat⟩ := Node.kindAt_eq_dir_iff.mp hd.here
    apply steady_of_isDir_or hd (.inr (up_notMem_steps_pathOf (hd.root.at? hat).2))
  cases home with
  | none =>
    obtain rfl := List.mem_singleton.mp hdir
    apply hhere
  | some path =>
    have hpath := steady_of_isDir_or hd (hhome path rfl)
    simp only [defaultDirs, List.mem_cons, List.not_mem_nil, or_false] at hdir
    rcases hdir with rfl | rfl | rfl | rfl | rfl
    · apply hhere
    · apply hpath
    · apply hpath.join (by decide) (by decide)
    · apply hpath.join (by decide) (by decide)
    · apply hpath.join (by decide) (by decide)

end Resolver

end Compendium
