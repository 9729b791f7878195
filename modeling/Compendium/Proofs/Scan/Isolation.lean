import Compendium.Proofs.Aggregate
import Compendium.Proofs.Scan.Twins

/-!
# What a configuration does not reach

What an aggregation does outside a directory does not depend on the configuration files in it.
The visits that are made there become the same deeds, so that the report and the document agree
on everything outside the directory.
-/

namespace Compendium.Scan

/-- Whether the file that a sink writes to, if it does, is the one that is kept out. -/
def KeepsOut (d : Disk) (k : Sink) (excluded : Option Path) : Prop :=
  ∀ location, k.outlet = .file location →
    ∃ path, excluded = some path ∧ d.locate .content path = .ok location

/-! ### Where files are visited -/

section

variable {root : Path} {l : Location} {below : List Name} {d d' : Disk}
  (h : Twins root l below d d')

include h

/-- A visit of a scan of the root is made below it. -/
theorem Twins.exists_madeAt {globalKey : Option Path} {scope : Scope} {visit : Visit}
    (hvisit : visit ∈ argumentsVisits d globalKey scope [root]) :
  ∃ entries names, d.root.at? l = some (.dir entries) ∧ MadeAt root (.dir entries) names visit
  := by
  obtain ⟨entries, hat, hnode⟩ := h.exists_node?_root
  use entries
  rw [argumentsVisits_of_isDir _ _ (Disk.isDir_of_node? hnode)] at hvisit
  split at hvisit
  · obtain rfl := List.mem_singleton.mp hvisit
    use [], hat, rfl, rfl
    simp
  · obtain ⟨names, hmade⟩ := exists_madeAt_of_mem_directoryVisits h.left hnode hvisit
    use names

/-- A file that is visited outside the directory is there, and is no configuration file in it. -/
theorem Twins.exists_file {globalKey : Option Path} {scope : Scope} {path relative : Path}
    {context : Context}
    (hvisit : .file path relative context ∈ argumentsVisits d globalKey scope [root])
    (houtside : (root.down below).isOutside path = true) :
  ∃ names bytes, path = root.down names ∧ names ≠ []
    ∧ d.root.at? (l ++ names) = some (.file bytes) ∧ ¬ below <+: names
  := by
  obtain ⟨entries, names, hat, hmade⟩ := h.exists_madeAt hvisit
  obtain ⟨node, hnode⟩ := Option.isSome_iff_exists.mp hmade.there
  have hthere : d.root.at? (l ++ names) = some node := by
    rw [Node.at?_append, hat]
    apply hnode
  have hkind := hmade.file path relative context rfl
  rw [Node.kindAt, hnode] at hkind
  obtain rfl : path = root.down names := hmade.path
  obtain ⟨below', hbelow⟩ := Node.kindAt_eq_dir_iff.mp h.holds
  rw [Path.isOutside_down_iff (h.valid hbelow) (h.valid hthere)] at houtside
  cases node with
  | file bytes =>
    use names, bytes, rfl
    constructor
    · rintro rfl
      simp at hnode
    · use hthere, houtside
  | dir inner => apply absurd rfl hkind
  | link target =>
    apply absurd _ (h.linkFree (l ++ names) target)
    rw [Node.kindAt, hthere]
    rfl

/-! ### What is kept out -/

/-- What keeps out a configuration file in the directory does not keep out a file elsewhere. -/
theorem Twins.isKeptOut_eq_false {path : Path} {names : List Name} {node : Node}
    (hconcealed : ∀ m, d.locate .content path = .ok m → Node.ConfigPlace (l ++ below) m)
    (hat : d.root.at? (l ++ names) = some node) (hn : ¬ below <+: names) :
  isKeptOut (keysOf d (some path)) d (root.down names) = false
  := by
  rw [← Bool.not_eq_true, isKeptOut_iff]
  rintro ⟨m, hm, hkey, -⟩
  obtain ⟨_, m', hexcluded, hm', heq⟩ := mem_keysOf_iff.mp hkey
  obtain rfl := Option.some.inj hexcluded
  obtain ⟨-, -, hv⟩ := h.left.exists_of_locate hm
  obtain ⟨-, -, hv'⟩ := h.left.exists_of_locate hm'
  obtain rfl := (Disk.pathOf_inj hv' hv).mp heq
  have hdown := h.linkFree.locate_down h.locate h.dir h.left hat
  rw [hm] at hdown
  split at hdown
  · simp at hdown
  · obtain rfl := Except.ok.inj hdown
    apply not_configPlace hn (hconcealed _ hm')

/-- The same files are kept out outside the directory. -/
theorem Twins.isKeptOut_eq (excluded : Option Path) {names : List Name} {node node' : Node}
    (hat : d.root.at? (l ++ names) = some node) (hat' : d'.root.at? (l ++ names) = some node')
    (hn : ¬ below <+: names) :
  isKeptOut (keysOf d excluded) d (root.down names)
    = isKeptOut (keysOf d' excluded) d' (root.down names)
  := by
  cases excluded with
  | none => rfl
  | some path =>
    -- A path that leads to other places on the two disks leads to a configuration file in the
    -- directory on one of them, and this is not visited outside of it.
    rcases h.same.locate h.left h.right h.linkFree h.linkFree' .content path with
      heq | ⟨⟨-, hconcealed⟩, -, hconcealed'⟩
    · rw [isKeptOut, isKeptOut, keysOf, keysOf, Disk.canonical, Disk.canonical, Disk.canonical,
        Disk.canonical, heq, h.locate_eq hat hat']
    · rw [h.isKeptOut_eq_false (fun m hm => (hconcealed m hm).1) hat hn,
        h.symm.isKeptOut_eq_false (fun m hm => (hconcealed' m hm).1) hat' hn]

/-! ### What becomes of visits -/

/-- A file below the root that the sink writes to is kept out, as its name is that of its
absolute path. -/
theorem Twins.isKeptOut_of_outlet {k : Sink} {excluded : Option Path} {names : List Name}
    {node : Node} {location : Location} (hk : KeepsOut d k excluded)
    (ho : k.outlet = .file location) (hne : names ≠ [])
    (hat : d.root.at? (l ++ names) = some node)
    (hlocate : d.locate .content (root.down names) = .ok location) :
  isKeptOut (keysOf d excluded) d (root.down names) = true
  := by
  obtain ⟨path, rfl, hpath⟩ := hk location ho
  obtain ⟨-, -, hv⟩ := h.left.exists_of_locate hlocate
  have hdown := h.linkFree.locate_down h.locate h.dir h.left hat
  rw [hlocate] at hdown
  split at hdown
  · simp at hdown
  · obtain rfl := Except.ok.inj hdown
    rw [isKeptOut_iff]
    use l ++ names, hlocate, mem_keysOf_iff.mpr ⟨path, l ++ names, rfl, hpath, rfl⟩
    obtain ⟨init, name, rfl⟩ := List.eq_nil_or_concat names |>.resolve_left hne
    rw [List.concat_eq_append] at hv ⊢
    rw [← List.append_assoc] at hv ⊢
    rw [Disk.fileName?_pathOf_concat hv, Path.fileName?_down_concat (hv name (by simp))]

/-- What has been written by the time of a visit does not matter to what becomes of it. -/
theorem Twins.eq_fileDeed {k : Sink} {excluded : Option Path} {names : List Name} {node : Node}
    {relative : Path} {context : Context} {deed : Deed} (hopen : k.OpenOn d)
    (hk : KeepsOut d k excluded) (hne : names ≠ []) (hat : d.root.at? (l ++ names) = some node)
    (hdeed : Becomes d k (keysOf d excluded) (.file (root.down names) relative context) deed) :
  deed = fileDeed d (keysOf d excluded) (root.down names) relative context
  := by
  obtain ⟨k', houtlet, rfl⟩ := hdeed
  have hopen' := hopen.of_outlet houtlet
  rw [Visit.deed, fileDeed, fileDeed, isKeptOut_seenDisk h.left hopen']
  by_cases hout : isKeptOut (keysOf d excluded) d (root.down names) = true
  · rw [if_pos hout, if_pos hout]
  · have hread : (k'.seenDisk d).read (root.down names) = d.read (root.down names) := by
      apply hopen'.read_seenDisk h.left
      intro location ho hlocate
      rw [houtlet] at ho
      apply hout (h.isKeptOut_of_outlet hk ho hne hat hlocate)
    rw [hread]

/-- Outside the directory, a visit becomes the same deed on both disks. -/
theorem Twins.deed_eq {globalKey : Option Path} {scope : Scope} {k : Sink}
    {excluded : Option Path} {visit : Visit} {deed deed' : Deed}
    (hopen : k.OpenOn d) (hopen' : k.OpenOn d') (hk : KeepsOut d k excluded)
    (hk' : KeepsOut d' k excluded)
    (hvisit : visit ∈ outside (root.down below) (argumentsVisits d globalKey scope [root]))
    (hdeed : Becomes d k (keysOf d excluded) visit deed)
    (hdeed' : Becomes d' k (keysOf d' excluded) visit deed') :
  deed = deed'
  := by
  cases visit with
  | file path relative context =>
    rw [outside, List.mem_filter] at hvisit
    obtain ⟨names, bytes, rfl, hne, hat, hn⟩ := h.exists_file hvisit.1 hvisit.2
    obtain ⟨hat', hread⟩ := h.read_eq hat (not_configPlace hn)
    rw [h.eq_fileDeed hopen hk hne hat hdeed, h.symm.eq_fileDeed hopen' hk' hne hat' hdeed',
      fileDeed, fileDeed, h.isKeptOut_eq excluded hat hat' hn, hread]
  | ignored path =>
    obtain ⟨-, -, rfl⟩ := hdeed
    obtain ⟨-, -, rfl⟩ := hdeed'
    rfl
  | unlisted path fault =>
    obtain ⟨-, -, rfl⟩ := hdeed
    obtain ⟨-, -, rfl⟩ := hdeed'
    rfl
  | broken path failure =>
    obtain ⟨-, -, rfl⟩ := hdeed
    obtain ⟨-, -, rfl⟩ := hdeed'
    rfl

end

/-! ### What is told of the outside -/

/-- What deeds tell of entries outside a directory, they tell because of the visits there. -/
theorem exists_forall₂_outside {α : Type} {d : Disk} {k : Sink} {excluded : List Path}
    {told : Deed → Option α} {pathOf : α → Path}
    (htold : ∀ deed a, told deed = some a → deed.path? = some (pathOf a)) (top : Path)
    {visits : List Visit} {deeds : List Deed}
    (h : List.Forall₂ (Becomes d k excluded) visits deeds) :
  ∃ kept, List.Forall₂ (Becomes d k excluded) (outside top visits) kept
    ∧ (deeds.filterMap told).filter (fun a => top.isOutside (pathOf a)) = kept.filterMap told
  := by
  induction h with
  | nil => exact ⟨[], .nil, rfl⟩
  | @cons visit deed visits deeds hhead _ ih =>
    obtain ⟨kept, hkept, heq⟩ := ih
    have hpath : ∀ a, told deed = some a → pathOf a = visit.path := by
      intro a ha
      obtain ⟨k', -, rfl⟩ := hhead
      apply Visit.path?_deed (htold _ a ha)
    by_cases hout : top.isOutside visit.path = true
    · use deed :: kept
      constructor
      · rw [outside_cons, if_pos hout]
        exact .cons hhead hkept
      · rw [List.filterMap_cons, List.filterMap_cons]
        cases ha : told deed with
        | none => apply heq
        | some a =>
          dsimp only
          rw [List.filter_cons_of_pos (by rw [hpath a ha, hout]), heq]
    · use kept
      constructor
      · rw [outside_cons, if_neg hout]
        apply hkept
      · rw [List.filterMap_cons]
        cases ha : told deed with
        | none => apply heq
        | some a =>
          dsimp only
          rw [List.filter_cons_of_neg (by rw [hpath a ha]; exact hout), heq]

theorem eq_of_forall₂ {becomes becomes' : Visit → Deed → Prop} {visits : List Visit}
    {deeds deeds' : List Deed} (h : List.Forall₂ becomes visits deeds)
    (h' : List.Forall₂ becomes' visits deeds')
    (heq : ∀ visit ∈ visits, ∀ deed deed', becomes visit deed → becomes' visit deed' →
      deed = deed') :
  deeds = deeds'
  := by
  induction h generalizing deeds' with
  | nil =>
    cases h'
    rfl
  | cons hhead _ ih =>
    cases h' with
    | cons hhead' htail' =>
      rw [heq _ List.mem_cons_self _ _ hhead hhead',
        ih htail' fun visit hvisit => heq visit (List.mem_cons_of_mem _ hvisit)]

section

variable {root : Path} {l : Location} {below : List Name} {d d' : Disk}
  (h : Twins root l below d d')

include h

/-- Whatever is told of the outside of the directory, it is the same on both disks. -/
theorem Twins.told_eq {α : Type} {globalKey : Option Path} {scope : Scope} {k : Sink}
    {excluded : Option Path} {told : Deed → Option α} {pathOf : α → Path}
    {deeds deeds' : List Deed}
    (htold : ∀ deed a, told deed = some a → deed.path? = some (pathOf a))
    (hopen : k.OpenOn d) (hopen' : k.OpenOn d') (hk : KeepsOut d k excluded)
    (hk' : KeepsOut d' k excluded)
    (hdeeds : List.Forall₂ (Becomes d k (keysOf d excluded))
      (argumentsVisits d globalKey scope [root]) deeds)
    (hdeeds' : List.Forall₂ (Becomes d' k (keysOf d' excluded))
      (argumentsVisits d' globalKey scope [root]) deeds') :
  (deeds.filterMap told).filter (fun a => (root.down below).isOutside (pathOf a))
    = (deeds'.filterMap told).filter fun a => (root.down below).isOutside (pathOf a)
  := by
  obtain ⟨kept, hkept, heq⟩ := exists_forall₂_outside htold (root.down below) hdeeds
  obtain ⟨kept', hkept', heq'⟩ := exists_forall₂_outside htold (root.down below) hdeeds'
  rw [← h.outside_argumentsVisits] at hkept'
  have hsame : kept = kept' := by
    apply eq_of_forall₂ hkept hkept'
    intro visit hvisit deed deed' hdeed hdeed'
    apply h.deed_eq hopen hopen' hk hk' hvisit hdeed hdeed'
  rw [heq, heq', hsame]

end

/-- Aggregations of two disks without links, which differ in the configuration files of one
directory below the root only, have the same files in the document, the same skipped entries and
the same blocks outside of it, if both succeed. -/
theorem aggregate_outside {root : Path} {l : Location} {below : List Name} {d d' : Disk}
    {globalKey : Option Path} {scope : Scope} {r r' : Resolver} {k : Sink}
    {excluded : Option Path} {report report' : Report} (h : Twins root l below d d')
    (hs : Ready d globalKey (start r k)) (hs' : Ready d' globalKey (start r' k))
    (hk : KeepsOut d k excluded) (hk' : KeepsOut d' k excluded)
    (hok : (aggregate d scope [root] excluded (start r k)).result = .ok report)
    (hok' : (aggregate d' scope [root] excluded (start r' k)).result = .ok report') :
  (report.included.filter fun file => (root.down below).isOutside file.1)
      = (report'.included.filter fun file => (root.down below).isOutside file.1)
    ∧ report.skipped.filter (root.down below).isOutside
      = report'.skipped.filter (root.down below).isOutside
    ∧ ∃ placed placed',
      Composed k report (aggregate d scope [root] excluded (start r k)).state.sink.written placed
        ∧ Composed k report' (aggregate d' scope [root] excluded (start r' k)).state.sink.written
          placed'
        ∧ (placed.filter fun file => (root.down below).isOutside file.path)
          = placed'.filter fun file => (root.down below).isOutside file.path
  := by
  obtain ⟨rfl, deeds, hdone⟩ := (meets_aggregate hs scope [root] excluded).of_ok hok
  obtain ⟨rfl, deeds', hdone'⟩ := (meets_aggregate hs' scope [root] excluded).of_ok hok'
  have hsame {α : Type} {told : Deed → Option α} {pathOf : α → Path}
      (htold : ∀ deed a, told deed = some a → deed.path? = some (pathOf a)) :=
    h.told_eq htold hs.openOn hs'.openOn hk hk' hdone.becomes hdone'.becomes
  constructor
  · rw [hdone.report, hdone'.report, included_foldl_record, included_foldl_record]
    apply hsame fun deed a => Deed.path?_of_added?
  constructor
  · rw [hdone.report, hdone'.report, skipped_foldl_record, skipped_foldl_record]
    apply hsame fun deed a => Deed.path?_of_skipped?
  · use deeds.filterMap Deed.placed?, deeds'.filterMap Deed.placed?, hdone.composed,
      hdone'.composed
    apply hsame fun deed p => Deed.path?_of_placed?

/-! ### Aggregations of two small disks -/

/-- A directory `b` with the entries `inner` beside a file `y`. -/
def siblingDisk (inner : Entries) : Disk :=
  ⟨.dir (.cons ['b'] (.dir inner) (.cons ['y'] (.file [105]) .nil)), []⟩

/-- A directory with a file `x`. -/
def plainEntries : Entries := .cons ['x'] (.file [104]) .nil

/-- The name of a configuration file. -/
def siblingName : Name := "maid.json".toList

/-- A configuration that ignores `x`. -/
def siblingConfig : String := "\x7b\"patterns\": [\"x\"]\x7d"

/-- The directory with this configuration in it. -/
def ignoringEntries : Entries :=
  .cons siblingName (.file (Text.bytesOf siblingConfig)) plainEntries

theorem siblingName_isConfig :
  siblingName.IsConfig
  := ⟨"maid.json", by decide, rfl⟩

theorem siblingEntries_isFile :
  (∀ name node, (name, node) ∈ plainEntries.toList → ∃ bytes, node = .file bytes)
    ∧ ∀ name node, (name, node) ∈ ignoringEntries.toList → ∃ bytes, node = .file bytes
  := by
  constructor
  · simp [plainEntries]
  · simp only [ignoringEntries, plainEntries, Entries.toList_cons, Entries.toList_nil,
      List.mem_cons, List.not_mem_nil, or_false, Prod.mk.injEq]
    rintro name node (⟨-, rfl⟩ | ⟨-, rfl⟩)
    · use Text.bytesOf siblingConfig
    · use [104]

theorem siblingEntries_wellFormed :
  plainEntries.WellFormed ∧ ignoringEntries.WellFormed
  := by
  have hx : Name.Valid ['x'] := by constructor <;> decide
  have hconfig : siblingName.Valid :=
    Resolver.valid_of_mem_fileNames (by decide : "maid.json" ∈ Config.fileNames)
  simp only [plainEntries, ignoringEntries, Node.WellFormed, Entries.WellFormed, hx, hconfig,
    Entries.names_cons, Entries.names_nil, true_and, and_true]
  decide

theorem siblingDisk_wellFormed {inner : Entries} (h : inner.WellFormed) :
  (siblingDisk inner).WellFormed
  := by
  have hb : Name.Valid ['b'] := by constructor <;> decide
  have hy : Name.Valid ['y'] := by constructor <;> decide
  constructor
  · simp only [siblingDisk, Node.WellFormed, Entries.WellFormed, hb, hy, h, Entries.names_cons,
      Entries.names_nil, true_and, and_true]
    decide
  · rfl

theorem siblingDisk_linkFree {inner : Entries}
    (h : ∀ name node, (name, node) ∈ inner.toList → ∃ bytes, node = .file bytes) :
  (siblingDisk inner).LinkFree
  := by
  intro l target
  apply Node.kindAt_dir_ne_link
  intro name node hnode
  simp only [Entries.toList_cons, Entries.toList_nil, List.mem_cons, List.not_mem_nil, or_false,
    Prod.mk.injEq] at hnode
  obtain ⟨-, rfl⟩ | ⟨-, rfl⟩ := hnode
  · apply Node.kindAt_dir_ne_link
    intro name node hnode
    obtain ⟨bytes, rfl⟩ := h name node hnode
    apply Node.kindAt_file_ne_link
  · apply Node.kindAt_file_ne_link

theorem siblingDisk_locate (inner : Entries) :
  (siblingDisk inner).locate .content ⟨"."⟩ = .ok []
    ∧ (siblingDisk inner).locate .content ((⟨"."⟩ : Path).entry ['b']) = .ok [['b']]
  := by
  have hentry : (⟨"."⟩ : Path).entry ['b'] = ⟨"./b"⟩ := by decide
  rw [hentry]
  constructor <;> cbv

theorem siblingDisk_node? (inner : Entries) :
  (siblingDisk inner).node? ⟨"."⟩ = .ok (siblingDisk inner).root
    ∧ (siblingDisk inner).node? ((⟨"."⟩ : Path).entry ['b']) = .ok (.dir inner)
  := by
  obtain ⟨hroot, hbelow⟩ := siblingDisk_locate inner
  use Disk.node?_eq_ok_iff.mpr ⟨[], hroot, rfl⟩
  apply Disk.node?_eq_ok_iff.mpr ⟨[['b']], hbelow, rfl⟩

theorem sibling_twins :
  Twins ⟨"."⟩ [] [['b']] (siblingDisk plainEntries) (siblingDisk ignoringEntries)
  := by
  have hx : ¬ Name.IsConfig ['x'] := by decide
  obtain ⟨hplain, hignoring⟩ := siblingEntries_wellFormed
  obtain ⟨hfiles, hfiles'⟩ := siblingEntries_isFile
  have hsame : Disk.SameBut ([] ++ [['b']]) (siblingDisk plainEntries)
      (siblingDisk ignoringEntries) := by
    constructor
    · simp [siblingDisk, plainEntries, ignoringEntries, Node.withoutConfigsAt, Entries.alter,
        Entries.withoutConfigs, hx, siblingName_isConfig, Node.isFile]
    · rfl
  use siblingDisk_wellFormed hplain, siblingDisk_wellFormed hignoring,
    siblingDisk_linkFree hfiles, siblingDisk_linkFree hfiles', hsame,
    (siblingDisk_locate plainEntries).1, rfl, rfl, by simp

theorem ignoringEntries_read :
  (siblingDisk ignoringEntries).read (((⟨"."⟩ : Path).entry ['b']).entry siblingName)
    = .ok (Text.bytesOf siblingConfig)
  := by
  have hat : (siblingDisk ignoringEntries).root.at? ([] ++ [['b'], siblingName])
      = some (.file (Text.bytesOf siblingConfig)) := rfl
  have hdown := sibling_twins.linkFree'.locate_down (siblingDisk_locate ignoringEntries).1 rfl
    sibling_twins.right hat
  rw [if_neg (by decide)] at hdown
  apply Disk.read_eq_ok_iff.mpr ⟨_, hdown, hat⟩

theorem siblingConfig_read (path : Path) :
  Resolver.readConfig path (Text.bytesOf siblingConfig) = .ok ⟨["x"], []⟩
  := by
  have hconfig : Config.read siblingConfig = .ok ⟨["x"], []⟩ := by decide +kernel
  rw [Resolver.readConfig_bytesOf, hconfig]
  rfl

theorem siblingConfig_compiles (base : Path) (origin : String) :
  ∃ own, Context.ofConfig ⟨["x"], []⟩ base origin = .ok own
  := by
  have hsome : (Context.ofConfig ⟨["x"], []⟩ base origin).toOption.isSome = true := by cbv
  cases hown : Context.ofConfig ⟨["x"], []⟩ base origin with
  | ok own => use own
  | error failure => simp [hown, Except.toOption] at hsome

/-- The configuration in `b` can be used. -/
theorem ignoringEntries_ownContext :
  ∃ own, Resolver.ownContext (siblingDisk ignoringEntries) none ((⟨"."⟩ : Path).entry ['b'])
    = .ok own
  := by
  have hfind : Resolver.findConfig? (siblingDisk ignoringEntries) ((⟨"."⟩ : Path).entry ['b'])
      = some (((⟨"."⟩ : Path).entry ['b']).entry siblingName) := by
    have hfile := Disk.isFile_iff.mpr ⟨_, ignoringEntries_read⟩
    rw [Resolver.findConfig?, Config.fileNames, List.map_cons]
    apply List.find?_cons_of_pos hfile
  have hconfig := Resolver.configIn_eq_some_iff.mpr ⟨_, ignoringEntries_read, siblingConfig_read _⟩
  rw [Resolver.ownContext, hfind]
  simp only [hconfig, Option.any_none, Bool.false_eq_true, if_false]
  apply siblingConfig_compiles

theorem siblingDisk_ownContext :
  Resolver.ownContext (siblingDisk plainEntries) none ⟨"."⟩ = .ok .empty
    ∧ Resolver.ownContext (siblingDisk ignoringEntries) none ⟨"."⟩ = .ok .empty
    ∧ Resolver.ownContext (siblingDisk plainEntries) none ((⟨"."⟩ : Path).entry ['b'])
      = .ok .empty
  := by
  obtain ⟨hroot, hbelow⟩ := siblingDisk_node? plainEntries
  obtain ⟨hroot', -⟩ := siblingDisk_node? ignoringEntries
  refine ⟨?_, ?_, ?_⟩
  · apply Resolver.ownContext_eq_empty hroot
    decide
  · apply Resolver.ownContext_eq_empty hroot'
    decide
  · apply Resolver.ownContext_eq_empty hbelow
    decide

/-- However the directory `b` is spelled, there is nothing in it but its file. -/
theorem plainEntries_found {root : Path}
    (hroot : (siblingDisk plainEntries).locate .content root = .ok [['b']]) :
  (siblingDisk plainEntries).node? root = .ok (.dir plainEntries)
    ∧ Resolver.ownContext (siblingDisk plainEntries) none root = .ok .empty
  := by
  have hnode : (siblingDisk plainEntries).node? root = .ok (.dir plainEntries) :=
    Disk.node?_eq_ok_iff.mpr ⟨_, hroot, rfl⟩
  use hnode
  apply Resolver.ownContext_eq_empty hnode
  decide

/-- No configuration is broken if the one in `b` is not. -/
theorem siblingDisk_not_broken {inner : Entries} {scope : Scope} {above own : Context}
    (hcontext : scope.contextAt ⟨"."⟩ = .ok above)
    (hfiles : ∀ name node, (name, node) ∈ inner.toList → ∃ bytes, node = .file bytes)
    (hown : Resolver.ownContext (siblingDisk inner) none ⟨"."⟩ = .ok .empty)
    (hown' : Resolver.ownContext (siblingDisk inner) none ((⟨"."⟩ : Path).entry ['b']) = .ok own)
    (path : Path) (failure : Failure) :
  .broken path failure ∉ argumentsVisits (siblingDisk inner) none scope [⟨"."⟩]
  := by
  obtain ⟨hnode, hbelow⟩ := siblingDisk_node? inner
  have hdirs {context : Context} {path' : Path} {down : List Name} :
      .broken path failure ∉ dirsVisits (siblingDisk inner) none context path' down inner := by
    rw [mem_dirsVisits_iff]
    rintro ⟨name, node, hmem, hvisit⟩
    obtain ⟨bytes, rfl⟩ := hfiles name node hmem
    simp [nodeVisits] at hvisit
  rw [argumentsVisits_of_isDir _ _ (Disk.isDir_of_node? hnode), hcontext]
  simp only [directoryVisits, hown, rootEntries_of_node? hnode, entriesVisits, List.mem_append,
    broken_notMem_filesVisits, false_or]
  simp only [dirsVisits, nodeVisits_dir, hown', hbelow, entriesVisits]
  rw [nodeVisits, List.append_nil, List.append_nil]
  · split
    · simp
    · simp [broken_notMem_filesVisits, hdirs]
  · simp

theorem siblings_succeed :
  (∃ report, (aggregate (siblingDisk plainEntries) .empty [⟨"."⟩] none inMemory).result
      = .ok report)
    ∧ ∃ report, (aggregate (siblingDisk ignoringEntries) .empty [⟨"."⟩] none inMemory).result
      = .ok report
  := by
  obtain ⟨hfiles, hfiles'⟩ := siblingEntries_isFile
  obtain ⟨hplain, hignoring, hbelow⟩ := siblingDisk_ownContext
  obtain ⟨own, hown⟩ := ignoringEntries_ownContext
  have hflush : ∀ limit, inMemory.sink.outlet ≠ .memory limit true := by
    simp [inMemory, start, Sink.empty]
  constructor
  · apply aggregate_succeeds (inMemory_ready sibling_twins.left) _ _ _ inMemory_boundless hflush
    apply siblingDisk_not_broken rfl hfiles hplain hbelow
  · apply aggregate_succeeds (inMemory_ready sibling_twins.right) _ _ _ inMemory_boundless hflush
    apply siblingDisk_not_broken rfl hfiles' hignoring hown

/-- Both aggregations succeed, and have the same files in the document outside of `b`. -/
theorem aggregate_outside_sample :
  ∃ report report',
    (aggregate (siblingDisk plainEntries) .empty [⟨"."⟩] none inMemory).result = .ok report
    ∧ (aggregate (siblingDisk ignoringEntries) .empty [⟨"."⟩] none inMemory).result = .ok report'
    ∧ (report.included.filter fun file => ((⟨"."⟩ : Path).down [['b']]).isOutside file.1)
      = report'.included.filter fun file => ((⟨"."⟩ : Path).down [['b']]).isOutside file.1
  := by
  obtain ⟨⟨report, hok⟩, report', hok'⟩ := siblings_succeed
  have hkeeps {d : Disk} : KeepsOut d inMemory.sink none :=
    fun location ho => absurd ho (by simp [inMemory, start, Sink.empty])
  use report, report', hok, hok'
  apply (aggregate_outside sibling_twins (inMemory_ready sibling_twins.left)
    (inMemory_ready sibling_twins.right) hkeeps hkeeps hok hok').1

end Compendium.Scan
