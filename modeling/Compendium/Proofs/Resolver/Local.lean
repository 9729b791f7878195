import Compendium.Proofs.Action
import Compendium.Proofs.Disk.Below
import Compendium.Proofs.Text.Encoding
import Compendium.Resolver

/-!
# Local configurations

`Resolver.ownContext` is what the configuration file of a directory contributes, said of the
disk alone.  A resolver that is faithful to the disk contributes exactly that, whatever it has
read before and under whichever names, and stays faithful.
-/

namespace Compendium

namespace Path

theorem same_iff {p q : Path} :
  p.same q = true ↔ p.parts = q.parts
  := by
  rw [same, decide_eq_true_iff]

theorem same_refl (p : Path) :
  p.same p = true
  := same_iff.mpr rfl

theorem same_symm {p q : Path} (h : p.same q = true) :
  q.same p = true
  := same_iff.mpr (same_iff.mp h).symm

theorem same_trans {p q r : Path} (h : p.same q = true) (h' : q.same r = true) :
  p.same r = true
  := same_iff.mpr ((same_iff.mp h).trans (same_iff.mp h'))

/-- Paths with the same parts are the same as the same paths. -/
theorem same_congr {p q : Path} (h : p.same q = true) (r : Path) :
  r.same p = r.same q
  := by
  rw [same, same, same_iff.mp h]

end Path

namespace Resolver

/-! ### What the disk says -/

/-- What a configuration file says.  A file that cannot be read as text says nothing. -/
def configIn (d : Disk) (path : Path) : Except Failure (Option Config) :=
  match d.read path with
  | .error _ => .ok none
  | .ok bytes =>
    match readConfig path bytes with
    | .ok config => .ok (some config)
    | .error (.configAccess ..) => .ok none
    | .error failure => .error failure

/-- What the configuration file of a directory contributes to the context in it.  The global
configuration contributes nothing. -/
def ownContext (d : Disk) (globalKey : Option Path) (directory : Path) :
    Except Failure Context :=
  match findConfig? d directory with
  | none => .ok .empty
  | some path =>
    match configIn d path with
    | .error failure => .error failure
    | .ok none => .ok .empty
    | .ok (some config) =>
      if globalKey.any fun key => key.same (keyOf d path) then .ok .empty
      else Context.ofConfig config directory path.text

/-- Whether a path is that of the configuration file of some directory. -/
def IsConfig (d : Disk) (path : Path) : Prop := ∃ directory, findConfig? d directory = some path

/-- Whether the configurations that a resolver has read are those on the disk, under the keys
they have there. -/
structure Faithful (r : Resolver) (d : Disk) : Prop where
  config : ∀ entry ∈ r.loaded, ∀ path, IsConfig d path →
    entry.1.same (keyOf d path) = true → configIn d path = .ok (some entry.2.config)
  key : ∀ entry ∈ r.loaded, entry.1.same (keyOf d entry.2.path) = true

/-- A resolver that has read nothing is faithful to every disk. -/
theorem faithful_empty (searchDirs : List Path) (d : Disk) :
  (empty searchDirs).Faithful d
  := by
  constructor <;> simp [empty]

/-! ### Files and their keys -/

section

variable {d : Disk} {path : Path}

/-- A file that is there has a canonical path, which is its key. -/
theorem canonical_of_isFile (h : d.isFile path = true) :
  d.canonical path = .ok (keyOf d path)
  := by
  obtain ⟨l, bytes, hl, -⟩ := Disk.exists_of_isFile h
  have hkey := Disk.canonical_eq_ok_iff.mpr ⟨l, hl, rfl⟩
  rw [keyOf, hkey]
  rfl

theorem isFile_of_findConfig? {directory : Path} (h : findConfig? d directory = some path) :
  d.isFile path = true
  := List.find?_some h

theorem IsConfig.isFile (h : IsConfig d path) :
  d.isFile path = true
  := by
  obtain ⟨directory, hfind⟩ := h
  apply isFile_of_findConfig? hfind

/-- Whether a text is a configuration does not depend on the path of its file. -/
theorem readConfig_eq_ok {bytes : List UInt8} {config : Config} {path' : Path}
    (h : readConfig path bytes = .ok config) :
  readConfig path' bytes = .ok config
  := by
  rw [readConfig] at h ⊢
  cases htext : Text.ofBytes? bytes with
  | none => simp [htext] at h
  | some text =>
    rw [htext] at h
    cases hread : Config.read text <;> simp_all [Except.mapError]

/-- The bytes of a text are read as the text is. -/
theorem readConfig_bytesOf (text : String) :
  readConfig path (Text.bytesOf text) = (Config.read text).mapError (.configText path)
  := by
  rw [readConfig, Text.ofBytes?_eq_some_iff.mpr rfl]

theorem configIn_eq_some_iff {config : Config} :
  configIn d path = .ok (some config)
    ↔ ∃ bytes, d.read path = .ok bytes ∧ readConfig path bytes = .ok config
  := by
  rw [configIn]
  cases hread : d.read path with
  | error fault => simp
  | ok bytes =>
    cases hconfig : readConfig path bytes with
    | ok found => simp [hconfig]
    | error failure => cases failure <;> simp [hconfig]

/-- Two paths to one file have one configuration. -/
theorem configIn_eq_of_same (hd : d.WellFormed) {path' : Path} (h : d.isFile path = true)
    (h' : d.isFile path' = true) (hsame : (keyOf d path).same (keyOf d path') = true)
    {config : Config} (hconfig : configIn d path = .ok (some config)) :
  configIn d path' = .ok (some config)
  := by
  have hread := hd.read_eq_of_same (canonical_of_isFile h) (canonical_of_isFile h') hsame
  obtain ⟨bytes, hbytes, hc⟩ := configIn_eq_some_iff.mp hconfig
  apply configIn_eq_some_iff.mpr
  use bytes, hread ▸ hbytes
  apply readConfig_eq_ok hc

end

/-! ### What a resolver reads -/

section

variable {d : Disk} {r : Resolver}

theorem mem_of_lookup? {key : Path} {loaded : LoadedConfig} (h : r.lookup? key = some loaded) :
  ∃ entry ∈ r.loaded, entry.1.same key = true ∧ entry.2 = loaded
  := by
  obtain ⟨entry, hfind, rfl⟩ := Option.map_eq_some_iff.mp h
  use entry, List.mem_of_find?_eq_some hfind
  constructor
  · simpa using List.find?_some hfind
  · rfl

/-- The resolver stays faithful when it keeps what it has read. -/
theorem Faithful.insert (hd : d.WellFormed) (hr : r.Faithful d) {path : Path}
    (hfile : d.isFile path = true) {config : Config}
    (hconfig : configIn d path = .ok (some config)) :
  Faithful { r with loaded := r.loaded ++ [(keyOf d path, ⟨path, config⟩)] } d
  := by
  constructor
  · intro entry hentry path' hpath' hsame
    rcases List.mem_append.mp hentry with hold | hnew
    · apply hr.config entry hold path' hpath' hsame
    · obtain rfl := List.mem_singleton.mp hnew
      apply configIn_eq_of_same hd hfile hpath'.isFile hsame hconfig
  · intro entry hentry
    rcases List.mem_append.mp hentry with hold | hnew
    · apply hr.key entry hold
    · obtain rfl := List.mem_singleton.mp hnew
      apply Path.same_refl

/-- What stays as it is while configurations are read. -/
structure Extends (d : Disk) (r r' : Resolver) : Prop where
  faithful : r'.Faithful d
  globalKey : r'.globalKey = r.globalKey

theorem Extends.refl (hr : r.Faithful d) :
  Extends d r r
  := ⟨hr, rfl⟩

theorem Extends.trans {r' r'' : Resolver} (h : Extends d r r') (h' : Extends d r' r'') :
  Extends d r r''
  := ⟨h'.faithful, h'.globalKey.trans h.globalKey⟩

/-- A file is loaded as what the disk says, be it read now or before. -/
theorem meets_loadOnce (hd : d.WellFormed) (hr : r.Faithful d) (path : Path) :
  (loadOnce d path).Meets r
    (fun loaded r' => (IsConfig d path → configIn d path = .ok (some loaded.config))
      ∧ (keyOf d loaded.path).same (keyOf d path) = true ∧ Extends d r r')
    (fun failure r' => r' = r ∧ ((∃ file fault, failure = .configAccess file fault)
        ∧ configIn d path = .ok none
      ∨ (∀ file fault, failure ≠ .configAccess file fault)
        ∧ configIn d path = .error failure))
  := by
  simp only [loadOnce, Action.meets_bind, Action.meets_state]
  cases hlookup : r.lookup? (keyOf d path) with
  | some loaded =>
    obtain ⟨entry, hentry, hsame, rfl⟩ := mem_of_lookup? hlookup
    rw [Action.meets_pure]
    use fun hpath => hr.config entry hentry path hpath hsame
    constructor
    · apply Path.same_trans (Path.same_symm (hr.key entry hentry)) hsame
    · apply Extends.refl hr
  | none =>
    simp only [Action.meets_bind, load, Action.meets_tell]
    cases hread : d.read path with
    | error fault =>
      rw [Action.meets_fail]
      simp [configIn, hread]
    | ok bytes =>
      dsimp only
      cases hconfig : readConfig path bytes with
      | error failure =>
        rw [Action.meets_ofExcept_error]
        use rfl
        cases failure <;> simp [configIn, hread, hconfig]
      | ok config =>
        have hin := configIn_eq_some_iff.mpr ⟨bytes, hread, hconfig⟩
        have hfile := Disk.isFile_iff.mpr ⟨bytes, hread⟩
        simp only [Action.meets_ofExcept_ok, Action.meets_change, Action.meets_pure]
        use fun _ => hin, Path.same_refl _, hr.insert hd hfile hin

/-- A file that cannot be accessed counts as none. -/
theorem meets_orUnreadable {x : Action Resolver LoadedConfig}
    {done : Option LoadedConfig → Resolver → Prop} {failed : Failure → Resolver → Prop} :
  (orUnreadable x).Meets r done failed
    ↔ x.Meets r (fun loaded t => done (some loaded) t) fun failure t =>
        match failure with
        | .configAccess .. => done none t
        | other => failed other t
  := by
  rw [Action.Meets, Action.Meets, orUnreadable]
  cases (x r).result with
  | ok loaded => rfl
  | error failure => cases failure <;> rfl

/-- The configuration of a directory is loaded as what the disk says. -/
theorem meets_loadLocal (hd : d.WellFormed) (hr : r.Faithful d) (directory : Path) :
  (loadLocal d directory).Meets r
    (fun found r' => Extends d r r' ∧ match findConfig? d directory with
      | none => found = none
      | some path => configIn d path = .ok (found.map (·.config))
        ∧ ∀ loaded ∈ found, (keyOf d loaded.path).same (keyOf d path) = true)
    (fun failure r' => Extends d r r' ∧ ∃ path, findConfig? d directory = some path
      ∧ configIn d path = .error failure)
  := by
  rw [loadLocal]
  cases hfind : findConfig? d directory with
  | none =>
    rw [Action.meets_pure]
    use Extends.refl hr
  | some path =>
    simp only [Action.meets_bind, Action.meets_tell, meets_orUnreadable]
    apply (meets_loadOnce hd hr path).mono
    · rintro loaded t ⟨hconfig, hsame, hext⟩
      use hext
      simp [hconfig ⟨directory, hfind⟩, hsame]
    · rintro failure t ⟨rfl, ⟨⟨file, fault, rfl⟩, hnone⟩ | ⟨hne, herror⟩⟩
      · use Extends.refl hr
        simp [hnone]
      · cases failure with
        | configAccess file fault => apply absurd rfl (hne file fault)
        | _ => use Extends.refl hr, path

/-- The configuration that is made the global one has its key remembered. -/
theorem meets_loadExplicit (hd : d.WellFormed) (hr : r.Faithful d) (path : Path) :
  (loadExplicit d path).Meets r
    (fun _ r' => r'.Faithful d ∧ r'.globalKey = some (keyOf d path))
    (fun _ r' => r' = r)
  := by
  rw [loadExplicit, Action.meets_bind]
  apply (meets_loadOnce hd hr path).mono
  · rintro loaded t ⟨-, -, hext⟩
    rw [Action.meets_bind, Action.meets_change, Action.meets_pure]
    constructor
    · use hext.faithful.config, hext.faithful.key
    · rfl
  · rintro failure t ⟨rfl, -⟩
    rfl

/-- A resolver is faithful whatever global configuration has been looked for. -/
theorem meets_loadGlobal (hd : d.WellFormed) (hr : r.Faithful d) :
  (loadGlobal d).Meets r (fun _ r' => r'.Faithful d) (fun _ r' => r' = r)
  := by
  simp only [loadGlobal, Action.meets_bind, Action.meets_state]
  cases r.searchDirs.findSome? (findConfig? d) with
  | none =>
    simp only [Action.meets_bind, Action.meets_tell, Action.meets_pure]
    apply hr
  | some path =>
    simp only [Action.meets_bind, Action.meets_tell, Action.meets_pure]
    apply (meets_loadExplicit hd hr path).mono
    · rintro loaded t ⟨hfaithful, -⟩
      apply hfaithful
    · intro failure t heq
      apply heq

end

/-! ### What a directory contributes -/

theorem readLines_eq_ok {base : Path} {origin : String} {lines : List String}
    {patterns : List ScopedPattern} (h : PatternSet.readLines base origin lines = .ok patterns)
    (origin' : String) :
  PatternSet.readLines base origin' lines = .ok patterns
  := by
  induction lines generalizing patterns with
  | nil => apply h
  | cons raw rest ih =>
    rw [PatternSet.readLines] at h ⊢
    cases hread : Pattern.read raw with
    | error cause => simp [hread] at h
    | ok found =>
      rw [hread] at h
      cases found with
      | none => apply ih h
      | some pattern =>
        dsimp only at h ⊢
        cases hrest : PatternSet.readLines base origin rest with
        | error failure => simp [hrest, Except.map] at h
        | ok tail =>
          rw [ih hrest]
          simpa [hrest, Except.map] using h

theorem readSpecs_eq_ok {origin : String} {specs : List RuleSpec} {rules : List Rule}
    (h : RuleSet.readSpecs origin specs = .ok rules) (origin' : String) :
  RuleSet.readSpecs origin' specs = .ok rules
  := by
  induction specs generalizing rules with
  | nil => apply h
  | cons spec rest ih =>
    rw [RuleSet.readSpecs] at h ⊢
    cases hread : Rule.compile spec with
    | error cause => simp [hread] at h
    | ok rule =>
      rw [hread] at h
      dsimp only at h ⊢
      cases hrest : RuleSet.readSpecs origin rest with
      | error failure => simp [hrest, Except.map] at h
      | ok tail =>
        rw [ih hrest]
        simpa [hrest, Except.map] using h

/-- A configuration contributes the same whatever its file is called. -/
theorem ofConfig_eq_ok {config : Config} {base : Path} {origin : String} {c : Context}
    (h : Context.ofConfig config base origin = .ok c) (origin' : String) :
  Context.ofConfig config base origin' = .ok c
  := by
  rw [Context.ofConfig, PatternSet.ofLines, RuleSet.ofSpecs] at h ⊢
  cases hp : PatternSet.readLines base origin config.patterns with
  | error failure => simp [hp, Except.map, bind, Except.bind] at h
  | ok patterns =>
    cases hr : RuleSet.readSpecs origin config.rules with
    | error failure => simp [hp, hr, Except.map, bind, Except.bind] at h
    | ok rules =>
      rw [readLines_eq_ok hp origin', readSpecs_eq_ok hr origin']
      simpa [hp, hr] using h

section

variable {d : Disk} {r : Resolver}

/-- A directory contributes what its configuration file on the disk says. -/
theorem meets_contribution (hd : d.WellFormed) (hr : r.Faithful d) (directory : Path) :
  (contribution d directory).Meets r
    (fun own r' => Extends d r r' ∧ ownContext d r.globalKey directory = .ok own)
    (fun _ r' => Extends d r r'
      ∧ ∃ failure, ownContext d r.globalKey directory = .error failure)
  := by
  simp only [contribution, Action.meets_bind]
  apply (meets_loadLocal hd hr directory).mono
  · rintro found r' ⟨hext, hfound⟩
    cases hfind : findConfig? d directory with
    | none =>
      simp only [hfind] at hfound
      subst hfound
      rw [Action.meets_pure]
      use hext
      simp [ownContext, hfind]
    | some path =>
      simp only [hfind] at hfound
      obtain ⟨hconfig, hsame⟩ := hfound
      cases found with
      | none =>
        rw [Action.meets_pure]
        use hext
        simp [ownContext, hfind, hconfig]
      | some loaded =>
        have hglobal : r'.isGlobal d loaded
            = r.globalKey.any fun key => key.same (keyOf d path) := by
          rw [isGlobal, hext.globalKey]
          simp only [Path.same_congr (hsame loaded rfl)]
        simp only [Action.meets_bind, Action.meets_state, hglobal]
        have hown : ownContext d r.globalKey directory =
            if r.globalKey.any fun key => key.same (keyOf d path) then .ok .empty
            else Context.ofConfig loaded.config directory path.text := by
          simp [ownContext, hfind, hconfig]
        rw [hown]
        by_cases hg : (r.globalKey.any fun key => key.same (keyOf d path)) = true
        · rw [if_pos hg, if_pos hg, Action.meets_bind, Action.meets_tell, Action.meets_pure]
          use hext
        · rw [if_neg hg, if_neg hg]
          cases hc : Context.ofConfig loaded.config directory loaded.origin with
          | ok own =>
            rw [Action.meets_ofExcept_ok]
            use hext, ofConfig_eq_ok hc path.text
          | error failure =>
            rw [Action.meets_ofExcept_error]
            use hext
            cases hp : Context.ofConfig loaded.config directory path.text with
            | ok own => simp [ofConfig_eq_ok hp loaded.origin] at hc
            | error failure => use failure
  · rintro failure r' ⟨hext, path, hfind, herror⟩
    use hext, failure
    simp [ownContext, hfind, herror]

/-- The context in a directory is that of its parent, followed by what the directory
contributes. -/
theorem meets_extend (hd : d.WellFormed) (hr : r.Faithful d) (parent : Context)
    (directory : Path) :
  (extend d parent directory).Meets r
    (fun context r' => Extends d r r' ∧ ∃ own, ownContext d r.globalKey directory = .ok own
      ∧ context = parent.extended own)
    (fun _ r' => Extends d r r'
      ∧ ∃ failure, ownContext d r.globalKey directory = .error failure)
  := by
  simp only [extend, Action.meets_bind, Action.meets_pure]
  apply (meets_contribution hd hr directory).mono
  · rintro own r' ⟨hext, hown⟩
    use hext, own
  · rintro failure r' h
    apply h

end

/-! ### Directories without a configuration file -/

theorem valid_of_mem_fileNames {name : String} (h : name ∈ Config.fileNames) :
  Name.Valid name.toList
  := by
  simp only [Config.fileNames, List.mem_cons, List.not_mem_nil, or_false] at h
  rcases h with rfl | rfl
  · constructor <;> decide
  · constructor <;> decide

theorem valid_concat_fileName {names : List Name} (hv : ∀ n ∈ names, Name.Valid n) {file : String}
    (hfile : file ∈ Config.fileNames) :
  ∀ n ∈ names ++ [file.toList], Name.Valid n
  := by
  intro n hn
  rcases List.mem_append.mp hn with hn | hn
  · apply hv n hn
  · obtain rfl := List.mem_singleton.mp hn
    apply valid_of_mem_fileNames hfile

/-- A directory has no configuration file if no entry of it has such a name. -/
theorem findConfig?_eq_none {d : Disk} {directory : Path} {entries : Entries}
    (hnode : d.node? directory = .ok (.dir entries))
    (h : ∀ name ∈ Config.fileNames, entries.find? name.toList = none) :
  findConfig? d directory = none
  := by
  obtain ⟨l, hl, hat⟩ := Disk.node?_eq_ok_iff.mp hnode
  have hdir : d.root.kindAt l = some .dir := Node.kindAt_eq_dir_iff.mpr ⟨entries, hat⟩
  obtain ⟨links, hlocate⟩ := Disk.locate_down hl hdir
  rw [findConfig?, List.find?_eq_none]
  intro path hpath
  obtain ⟨name, hname, rfl⟩ := List.mem_map.mp hpath
  intro hfile
  obtain ⟨l', bytes, hl', -⟩ := Disk.exists_of_isFile hfile
  have hdown := hlocate [name.toList] (by simp) (by simpa using valid_of_mem_fileNames hname)
  rw [Path.down_cons, Path.down_nil, hl', List.map_singleton, Disk.follow_name _ _ _ hdir,
    Node.kindAt, Node.at?_concat hat, h name hname] at hdown
  split at hdown
  · simp at hdown
  · split at hdown
    · simp at hdown
    · split at hdown <;> simp at hdown

theorem ownContext_of_findConfig? {d : Disk} {globalKey : Option Path} {directory : Path}
    (h : findConfig? d directory = none) :
  ownContext d globalKey directory = .ok .empty
  := by
  rw [ownContext, h]

/-- A directory without a configuration file has nothing of its own. -/
theorem ownContext_eq_empty {d : Disk} {globalKey : Option Path} {directory : Path}
    {entries : Entries} (hnode : d.node? directory = .ok (.dir entries))
    (h : ∀ name ∈ Config.fileNames, entries.find? name.toList = none) :
  ownContext d globalKey directory = .ok .empty
  := ownContext_of_findConfig? (findConfig?_eq_none hnode h)

/-! ### Disks with the same configurations -/

theorem configIn_congr {d d' : Disk} {path : Path} (h : d.read path = d'.read path) :
  configIn d path = configIn d' path
  := by
  rw [configIn, configIn, h]

/-- What a directory contributes depends on its configuration file only. -/
theorem ownContext_congr {d d' : Disk} {directory : Path} (globalKey : Option Path)
    (hfind : findConfig? d directory = findConfig? d' directory)
    (hpath : ∀ path, findConfig? d directory = some path →
      keyOf d path = keyOf d' path ∧ d.read path = d'.read path) :
  ownContext d globalKey directory = ownContext d' globalKey directory
  := by
  rw [ownContext, ownContext, ← hfind]
  cases hd : findConfig? d directory with
  | none => rfl
  | some path =>
    obtain ⟨hkey, hread⟩ := hpath path hd
    simp only [configIn_congr hread, hkey]

/-- Two disks on which all directories have the same configurations. -/
structure SameConfigs (d d' : Disk) : Prop where
  find : ∀ directory, findConfig? d directory = findConfig? d' directory
  key : ∀ path, keyOf d path = keyOf d' path
  read : ∀ path, IsConfig d path → d.read path = d'.read path

section

variable {d d' : Disk} (h : SameConfigs d d')

include h

theorem SameConfigs.isConfig_iff (path : Path) :
  IsConfig d path ↔ IsConfig d' path
  := by
  simp only [IsConfig, h.find]

theorem SameConfigs.symm :
  SameConfigs d' d
  := by
  constructor
  · intro directory
    rw [h.find]
  · intro path
    rw [h.key]
  · intro path hpath
    rw [h.read path ((h.isConfig_iff path).mpr hpath)]

theorem SameConfigs.ownContext (globalKey : Option Path) (directory : Path) :
  Resolver.ownContext d globalKey directory = Resolver.ownContext d' globalKey directory
  := by
  apply ownContext_congr globalKey (h.find directory)
  intro path hpath
  use h.key path
  apply h.read path ⟨directory, hpath⟩

theorem SameConfigs.faithful {r : Resolver} (hr : r.Faithful d) :
  r.Faithful d'
  := by
  constructor
  · intro entry hentry path hpath hsame
    have hpath := (h.isConfig_iff path).mpr hpath
    rw [← h.key] at hsame
    rw [← configIn_congr (h.read path hpath)]
    apply hr.config entry hentry path hpath hsame
  · intro entry hentry
    rw [← h.key]
    apply hr.key entry hentry

end

end Resolver

end Compendium
