import Compendium.Proofs.Context
import Compendium.Proofs.Resolver.Memory

/-!
# What a failure leaves of a resolver

A resolver reads a file before it changes anything, so that it stays as it is when the file cannot
be used.  Only where a context is extended does something follow the reading that can fail: by the
time the patterns and rules of a configuration are compiled, it is remembered.
-/

namespace Compendium.Resolver

/-! ### Configuration files -/

/-- Whether a path is that of the configuration file of a directory: `maid.json`, or `.maid.json`
if `maid.json` is no file. -/
def IsConfigOf (d : Disk) (directory path : Path) : Prop :=
  d.isFile path = true
    ∧ (path = directory.entry "maid.json".toList
      ∨ path = directory.entry ".maid.json".toList
        ∧ d.isFile (directory.entry "maid.json".toList) = false)

/-- Whether a path is that of the configuration file of the first of some directories that has
one. -/
def IsFirstConfig (d : Disk) (directories : List Path) (path : Path) : Prop :=
  ∃ before directory after, directories = before ++ directory :: after
    ∧ IsConfigOf d directory path ∧ ∀ other ∈ before, ∀ path', ¬IsConfigOf d other path'

section

variable {d : Disk} {directory path : Path}

/-- One of two elements is found if it is the first, or if the first is not what is looked for. -/
theorem find?_pair_eq_some_iff {α : Type} {p : α → Bool} {a b x : α} :
  [a, b].find? p = some x ↔ p x = true ∧ (x = a ∨ x = b ∧ p a = false)
  := by
  rw [List.find?_cons, List.find?_singleton]
  cases ha : p a with
  | true => grind
  | false => grind

theorem findConfig?_eq_some_iff :
  findConfig? d directory = some path ↔ IsConfigOf d directory path
  := by
  rw [findConfig?, Config.fileNames]
  apply find?_pair_eq_some_iff

theorem findConfig?_eq_none_iff :
  findConfig? d directory = none ↔ ∀ path, ¬IsConfigOf d directory path
  := by
  simp only [← findConfig?_eq_some_iff]
  apply Option.eq_none_iff_forall_ne_some

theorem findSome?_findConfig?_eq_some_iff {directories : List Path} :
  directories.findSome? (findConfig? d) = some path ↔ IsFirstConfig d directories path
  := by
  simp only [List.findSome?_eq_some_iff, IsFirstConfig, findConfig?_eq_some_iff,
    findConfig?_eq_none_iff]

/-- Nothing is read from a file that cannot be accessed, or whose text is no configuration. -/
theorem of_configAt_eq_error {failure : Failure} (h : configAt d path = .error failure) :
  (∃ fault, failure = .configAccess path fault) ∨ ∃ cause, failure = .configText path cause
  := by
  rw [configAt] at h
  split at h
  · rename_i fault _
    left
    use fault
    apply (Except.error.inj h).symm
  · rename_i bytes _
    rw [readConfig] at h
    cases htext : Text.ofBytes? bytes with
    | none =>
      rw [htext] at h
      left
      use .notText
      apply (Except.error.inj h).symm
    | some text =>
      rw [htext] at h
      dsimp only at h
      cases hconfig : Config.read text with
      | error cause =>
        rw [hconfig] at h
        right
        use cause
        apply (Except.error.inj h).symm
      | ok config =>
        rw [hconfig] at h
        cases h

end

/-! ### What follows reading -/

section

variable {d : Disk} {r : Resolver} {parent : Context} {directory path : Path} {failure : Failure}

/-- Only a selection changes the global key. -/
theorem globalKey_loadOnce (path : Path) :
  (loadOnce d path r).state.globalKey = r.globalKey
  := by
  rcases loadOnce_cases d r path with
    ⟨known, -, hrun⟩ | ⟨-, ⟨failure, -, hrun⟩ | ⟨config, -, hrun⟩⟩ <;> rw [hrun]

theorem globalKey_loadExplicit (path : Path) :
  (loadExplicit d path r).state.globalKey
    = ((loadExplicit d path r).result.toOption.map fun _ => keyOf d path).or r.globalKey
  := by
  rw [loadExplicit_result, loadExplicit]
  cases hresult : (loadOnce d path r).result with
  | error failure =>
    rw [Action.bind_of_error hresult]
    apply globalKey_loadOnce
  | ok loaded =>
    rw [Action.bind_of_ok hresult]
    rfl

theorem globalKey_loadGlobal :
  (loadGlobal d r).state.globalKey
    = ((r.searchDirs.findSome? (findConfig? d)).bind fun path =>
      (loadGlobal d r).result.toOption.join.map fun _ => keyOf d path).or r.globalKey
  := by
  cases hfind : r.searchDirs.findSome? (findConfig? d) with
  | none =>
    rw [loadGlobal_of_missing hfind]
    rfl
  | some path =>
    rw [loadGlobal_of_found hfind, globalKey_loadExplicit, Option.bind_some]
    cases (loadExplicit d path r).result <;> rfl

/-- To look at the configuration of a directory leaves the global key as it is. -/
theorem globalKey_loadLocal (directory : Path) :
  (loadLocal d directory r).state.globalKey = r.globalKey
  := by
  cases hfind : findConfig? d directory with
  | none => rw [loadLocal_of_missing hfind]
  | some path =>
    rw [loadLocal_of_found hfind]
    apply globalKey_loadOnce

theorem contribution_state :
  (contribution d directory r).state = (loadLocal d directory r).state
  := by
  rw [contribution]
  cases hlocal : (loadLocal d directory r).result with
  | error failure => rw [Action.bind_of_error hlocal]
  | ok found =>
    rw [Action.bind_of_ok hlocal]
    cases found with
    | none => rfl
    | some loaded =>
      dsimp only
      rw [Action.state_bind]
      cases (loadLocal d directory r).state.isGlobal d loaded <;> rfl

/-- A directory fails to contribute if its configuration file is malformed, or if its configuration
is not global and a pattern or a rule of it is faulty. -/
theorem contribution_eq_error_iff :
  (contribution d directory r).result = .error failure
    ↔ (loadLocal d directory r).result = .error failure
      ∨ ∃ loaded, (loadLocal d directory r).result = .ok (some loaded)
        ∧ (loadLocal d directory r).state.isGlobal d loaded = false
        ∧ Context.ofConfig loaded.config directory loaded.origin = .error failure
  := by
  rw [contribution]
  cases hlocal : (loadLocal d directory r).result with
  | error failure' =>
    rw [Action.bind_of_error hlocal]
    simp
  | ok found =>
    rw [Action.bind_of_ok hlocal]
    cases found with
    | none => simp [pure, Action.value]
    | some loaded =>
      dsimp only
      rw [Action.state_bind]
      cases hglobal : (loadLocal d directory r).state.isGlobal d loaded <;>
        simp [hglobal, Action.tell_bind, pure, Action.value, Action.ofExcept]

theorem extend_state :
  (extend d parent directory r).state = (contribution d directory r).state
  := by
  rw [extend]
  cases hown : (contribution d directory r).result with
  | error failure => rw [Action.bind_of_error hown]
  | ok own =>
    rw [Action.bind_of_ok hown]
    rfl

theorem extend_eq_error_iff :
  (extend d parent directory r).result = .error failure
    ↔ (contribution d directory r).result = .error failure
  := by
  rw [extend]
  cases hown : (contribution d directory r).result with
  | error failure' => rw [Action.bind_of_error hown]
  | ok own =>
    rw [Action.bind_of_ok hown]
    simp [pure, Action.value]

theorem globalKey_extend :
  (extend d parent directory r).state.globalKey = r.globalKey
  := by
  rw [extend_state, contribution_state]
  apply globalKey_loadLocal

/-! ### What is left by failures -/

theorem loadOnce_eq_error_iff :
  (loadOnce d path r).result = .error failure
    ↔ r.lookup? (keyOf d path) = none ∧ configAt d path = .error failure
  := by
  cases hlookup : r.lookup? (keyOf d path) with
  | some known => simp [loadOnce_of_known hlookup]
  | none =>
    rw [loadOnce_of_unknown hlookup]
    cases configAt d path <;> simp

theorem loadOnce_state_of_error (h : (loadOnce d path r).result = .error failure) :
  (loadOnce d path r).state = r
  := by
  obtain ⟨hnone, hconfig⟩ := loadOnce_eq_error_iff.mp h
  rw [loadOnce_of_unknown hnone, hconfig]

theorem loadExplicit_state_of_error (h : (loadExplicit d path r).result = .error failure) :
  (loadExplicit d path r).state = r
  := by
  rw [loadExplicit_result] at h
  rw [loadExplicit, Action.bind_of_error h]
  apply loadOnce_state_of_error h

theorem loadGlobal_state_of_error (h : (loadGlobal d r).result = .error failure) :
  (loadGlobal d r).state = r
  := by
  cases hfind : r.searchDirs.findSome? (findConfig? d) with
  | none => rw [loadGlobal_of_missing hfind]
  | some path =>
    rw [loadGlobal_of_found hfind] at h ⊢
    apply loadExplicit_state_of_error (map_eq_error_iff.mp h)

/-- A directory for which nothing is loaded leaves nothing behind, be it that it has no
configuration file, or that this cannot be used. -/
theorem loadLocal_state_of_nothing
    (h : ∀ loaded, (loadLocal d directory r).result ≠ .ok (some loaded)) :
  (loadLocal d directory r).state = r
  := by
  cases hfind : findConfig? d directory with
  | none => rw [loadLocal_of_missing hfind]
  | some path =>
    rw [loadLocal_of_found hfind] at h ⊢
    cases hresult : (loadOnce d path r).result with
    | error failure => apply loadOnce_state_of_error hresult
    | ok loaded =>
      rw [orUnreadable, hresult] at h
      apply absurd rfl (h loaded)

/-- What is loaded for a directory has been remembered, or has been read from its configuration
file and is remembered then. -/
theorem loadLocal_state_cases :
  (loadLocal d directory r).state = r
    ∨ ∃ path config, IsConfigOf d directory path ∧ r.lookup? (keyOf d path) = none
      ∧ configAt d path = .ok config
      ∧ (loadLocal d directory r).state = r.remembering d path config
  := by
  cases hfind : findConfig? d directory with
  | none =>
    rw [loadLocal_of_missing hfind]
    left
    rfl
  | some path =>
    rw [loadLocal_of_found hfind]
    rcases loadOnce_cases d r path with
      ⟨known, -, hrun⟩ | ⟨hnone, ⟨failure, -, hrun⟩ | ⟨config, hconfig, hrun⟩⟩
    · exact .inl (by rw [hrun])
    · exact .inl (by rw [hrun])
    · right
      use path, config, findConfig?_eq_some_iff.mp hfind, hnone, configAt_eq_ok_iff.mpr hconfig
      rw [hrun]
      rfl

/-- When a context cannot be extended, the resolver has changed only if what is wrong is a pattern
or a rule, and then only by what it has read. -/
theorem extend_state_of_error (h : (extend d parent directory r).result = .error failure) :
  (extend d parent directory r).state = r
    ∨ failure.OfContent ∧ ∃ path config, IsConfigOf d directory path
      ∧ r.lookup? (keyOf d path) = none ∧ configAt d path = .ok config
      ∧ (extend d parent directory r).state = r.remembering d path config
  := by
  rw [extend_state, contribution_state]
  rcases contribution_eq_error_iff.mp (extend_eq_error_iff.mp h) with
    hlocal | ⟨loaded, -, -, hown⟩
  · left
    apply loadLocal_state_of_nothing
    simp [hlocal]
  · rcases loadLocal_state_cases with hsame | hread
    · left
      apply hsame
    · right
      constructor
      · apply ofContent_of_ofConfig hown
      · apply hread

/-! ### Files that cannot be used -/

/-- A configuration file of a directory that cannot be accessed counts as none. -/
theorem loadLocal_of_unreadable {fault : AccessFault} (hpath : IsConfigOf d directory path)
    (hnone : r.lookup? (keyOf d path) = none)
    (h : configAt d path = .error (.configAccess path fault)) :
  (loadLocal d directory r).result = .ok none
  := by
  rw [loadLocal_of_found (findConfig?_eq_some_iff.mpr hpath), orUnreadable,
    loadOnce_of_unknown hnone, h]

/-- Loading what is in a directory fails if its configuration file is no configuration. -/
theorem loadLocal_eq_error_iff :
  (loadLocal d directory r).result = .error failure
    ↔ ∃ path cause, IsConfigOf d directory path ∧ r.lookup? (keyOf d path) = none
      ∧ configAt d path = .error (.configText path cause) ∧ failure = .configText path cause
  := by
  constructor
  · intro h
    cases hfind : findConfig? d directory with
    | none =>
      rw [loadLocal_of_missing hfind] at h
      cases h
    | some path =>
      rw [loadLocal_of_found hfind, orUnreadable] at h
      cases hresult : (loadOnce d path r).result with
      | ok loaded =>
        rw [hresult] at h
        cases h
      | error failure' =>
        rw [hresult] at h
        obtain ⟨hnone, hconfig⟩ := loadOnce_eq_error_iff.mp hresult
        rcases of_configAt_eq_error hconfig with ⟨fault, rfl⟩ | ⟨cause, rfl⟩
        · cases h
        · cases h
          exact ⟨path, cause, findConfig?_eq_some_iff.mp hfind, hnone, hconfig, rfl⟩
  · rintro ⟨path, cause, hpath, hnone, hconfig, rfl⟩
    rw [loadLocal_of_found (findConfig?_eq_some_iff.mpr hpath), orUnreadable,
      loadOnce_of_unknown hnone, hconfig]

/-- The first configuration file ends the search, whether or not it can be used. -/
theorem loadGlobal_of_unusable (hpath : IsFirstConfig d r.searchDirs path)
    (hnone : r.lookup? (keyOf d path) = none) (h : configAt d path = .error failure) :
  (loadGlobal d r).result = .error failure
  := by
  rw [loadGlobal_of_found (findSome?_findConfig?_eq_some_iff.mpr hpath), loadExplicit_result,
    loadOnce_of_unknown hnone, h]
  rfl

/-- What a resolver keeps when it is asked for configurations on a disk in vain. -/
structure FailsSafely (d : Disk) (r : Resolver) : Prop where
  explicit : ∀ path failure, (loadExplicit d path r).result = .error failure →
    (loadExplicit d path r).state = r
  global : ∀ failure, (loadGlobal d r).result = .error failure → (loadGlobal d r).state = r
  /-- A global configuration is that of the first directory with a configuration file. -/
  first : ∀ path, IsFirstConfig d r.searchDirs path →
    loadGlobal d r = ⟨(loadExplicit d path r).result.map some, (loadExplicit d path r).state,
      .globalFound path :: (loadExplicit d path r).events⟩
  firstFails : ∀ path failure, IsFirstConfig d r.searchDirs path →
    r.lookup? (keyOf d path) = none → configAt d path = .error failure →
    (loadGlobal d r).result = .error failure
  own : ∀ directory, (∀ loaded, (loadLocal d directory r).result ≠ .ok (some loaded)) →
    (loadLocal d directory r).state = r
  unreadable : ∀ directory path fault, IsConfigOf d directory path →
    r.lookup? (keyOf d path) = none → configAt d path = .error (.configAccess path fault) →
    (loadLocal d directory r).result = .ok none
  /-- Loading what is in a directory fails if its configuration file is no configuration. -/
  malformed : ∀ directory failure, (loadLocal d directory r).result = .error failure
    ↔ ∃ path cause, IsConfigOf d directory path ∧ r.lookup? (keyOf d path) = none
      ∧ configAt d path = .error (.configText path cause) ∧ failure = .configText path cause
  /-- What is loaded for a directory does not become global. -/
  globalKey : ∀ parent directory, (loadLocal d directory r).state.globalKey = r.globalKey
    ∧ (extend d parent directory r).state.globalKey = r.globalKey
  /-- Only patterns and rules can fail after something has been read. -/
  extend : ∀ parent directory failure, (extend d parent directory r).result = .error failure →
    (extend d parent directory r).state = r
      ∨ failure.OfContent ∧ ∃ path config, IsConfigOf d directory path
        ∧ r.lookup? (keyOf d path) = none ∧ configAt d path = .ok config
        ∧ (extend d parent directory r).state = r.remembering d path config

end

/-- A resolver that is asked in vain keeps what it remembers and which configuration is global,
except that it may remember one more, of which a pattern or a rule is wrong. -/
theorem fails_safely (d : Disk) (r : Resolver) :
  FailsSafely d r
  := by
  constructor
  · intro _ _
    apply loadExplicit_state_of_error
  · intro _
    apply loadGlobal_state_of_error
  · intro _ hpath
    apply loadGlobal_of_found (findSome?_findConfig?_eq_some_iff.mpr hpath)
  · intro _ _
    apply loadGlobal_of_unusable
  · intro _
    apply loadLocal_state_of_nothing
  · intro _ _ _
    apply loadLocal_of_unreadable
  · intro _ _
    apply loadLocal_eq_error_iff
  · intro _ directory
    use globalKey_loadLocal directory, globalKey_extend
  · intro _ _ _
    apply extend_state_of_error

/-- A configuration of which the pattern is faulty. -/
def faultyConfig : String := "\x7b\"patterns\": [\"a//b\"]\x7d"

/-- A disk with this configuration. -/
def faultyDisk : Disk :=
  ⟨.dir (.cons "maid.json".toList (.file (Text.bytesOf faultyConfig)) .nil), []⟩

/-- The path of the configuration file. -/
def faultyPath : Path := (⟨"."⟩ : Path).entry "maid.json".toList

theorem faultyDisk_read :
  faultyDisk.read faultyPath = .ok (Text.bytesOf faultyConfig)
  := by
  have hsteps : Disk.steps faultyPath.text.toList = [.stay, .name "maid.json".toList] := by
    decide +kernel
  have hstart : Disk.start faultyPath.text.toList faultyDisk.here = [] := by decide +kernel
  have hroot : faultyDisk.root.kindAt [] = some .dir := rfl
  have hfile : faultyDisk.root.kindAt ([] ++ ["maid.json".toList]) = some .file := by decide +kernel
  have hshort : ¬Disk.nameLimit < (Text.bytes "maid.json".toList).length := by decide +kernel
  have hway : Disk.follow faultyDisk.root .content Disk.linkLimit
      (Disk.start faultyPath.text.toList faultyDisk.here) (Disk.steps faultyPath.text.toList)
      = .ok ["maid.json".toList] := by
    -- Steps are taken by well-founded recursion, which the kernel does not unfold.
    rw [hsteps, hstart, Disk.follow_stay _ _ _ hroot, Disk.follow_name _ _ _ hroot, hfile,
      if_neg (by simp), if_neg hshort]
    apply Disk.follow_nil _ _ _ _
  have hlocate := Disk.locate_eq_ok_iff.mpr
    ⟨by decide +kernel, by decide +kernel, by decide +kernel, hway⟩
  apply Disk.read_eq_ok_iff.mpr ⟨_, hlocate, rfl⟩

theorem faultyDisk_configAt :
  configAt faultyDisk faultyPath = .ok ⟨["a//b"], []⟩
  := by
  have hconfig : Config.read faultyConfig = .ok ⟨["a//b"], []⟩ := by decide +kernel
  rw [configAt, faultyDisk_read]
  dsimp only
  rw [readConfig_bytesOf, hconfig]
  rfl

/-- What is loaded for the directory is what is read from its configuration file. -/
theorem faultyDisk_loadLocal :
  loadLocal faultyDisk ⟨"."⟩ (empty []) = ⟨.ok (some ⟨faultyPath, ⟨["a//b"], []⟩⟩),
    (empty []).remembering faultyDisk faultyPath ⟨["a//b"], []⟩,
    [.localFound faultyPath ⟨"."⟩, .loading faultyPath, .parsed faultyPath 1 0]⟩
  := by
  have hpath : IsConfigOf faultyDisk ⟨"."⟩ faultyPath :=
    ⟨Disk.isFile_iff.mpr ⟨_, faultyDisk_read⟩, .inl rfl⟩
  rw [loadLocal_of_found (findConfig?_eq_some_iff.mpr hpath), orUnreadable,
    loadOnce_of_unknown rfl, faultyDisk_configAt]
  rfl

theorem faultyDisk_extend (parent : Context) :
  (extend faultyDisk parent ⟨"."⟩ (empty [])).result
    = .error (.pattern "a//b" faultyPath.text .emptySegment)
  := by
  have hfault : ∀ origin, Context.ofConfig ⟨["a//b"], []⟩ ⟨"."⟩ origin
      = .error (.pattern "a//b" origin .emptySegment) := by
    intro origin
    cbv
  apply extend_eq_error_iff.mpr
  apply contribution_eq_error_iff.mpr
  rw [faultyDisk_loadLocal]
  exact .inr ⟨_, rfl, rfl, hfault _⟩

/-- With a faulty pattern, the configuration of the directory is remembered nevertheless. -/
theorem fails_safely_faulty_pattern :
  (extend faultyDisk .empty ⟨"."⟩ (empty [])).result
      = .error (.pattern "a//b" faultyPath.text .emptySegment)
    ∧ ∃ config, configAt faultyDisk faultyPath = .ok config
      ∧ (extend faultyDisk .empty ⟨"."⟩ (empty [])).state
        = (empty []).remembering faultyDisk faultyPath config
  := by
  use faultyDisk_extend _
  rcases (fails_safely faultyDisk (empty [])).extend .empty ⟨"."⟩ _ (faultyDisk_extend _) with
    hsame | ⟨-, path, config, hpath, -, hconfig, hstate⟩
  · rw [extend_state, contribution_state, faultyDisk_loadLocal] at hsame
    cases congrArg parsedCount hsame
  · obtain rfl | ⟨-, hmissing⟩ := hpath.2
    · use config, hconfig, hstate
    · cases hmissing.symm.trans (Disk.isFile_iff.mpr ⟨_, faultyDisk_read⟩)

end Compendium.Resolver
