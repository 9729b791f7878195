import Compendium.Proofs.Path.Parent
import Compendium.Proofs.Pattern.Declared
import Compendium.Proofs.Scan.Judged
import Compendium.Proofs.Scan.Milder

/-!
# Paths that are tested

The path of an entry or of a file argument begins with the parts of each directory in which a
pattern that applies there is declared.  So a scan tests patterns on the names that lead to an
entry from where they are declared, however its path arguments are written, and never on a path
that is not below the base of a pattern.
-/

namespace Compendium.Scan

/-! ### Where patterns are declared -/

/-- Where the patterns of a run are declared: those of the scope at the directories that are
scanned and above the files that are asked for, and those of a local configuration in its
directory. -/
inductive DeclaredAt (d : Disk) (scope : Scope) (paths : List Path) :
    ScopedPattern → Path → Prop
  | root {path : Path} {above : Context} {p : ScopedPattern} (hpath : path ∈ paths)
    (hdir : d.isDir path = true) (habove : scope.contextAt path = .ok above)
    (hp : p ∈ above.patterns.patterns) : DeclaredAt d scope paths p path
  | parent {path : Path} {above : Context} {p : ScopedPattern} (hpath : path ∈ paths)
    (hfile : d.isFile path = true) (habove : scope.contextAt (path.parent?.getD ⟨""⟩) = .ok above)
    (hp : p ∈ above.patterns.patterns) :
    DeclaredAt d scope paths p (path.parent?.getD ⟨""⟩)
  | config {root : Path} {names : List Name} {own : Context} {p : ScopedPattern}
    (hroot : root ∈ paths) (hdir : d.isDir root = true) (hv : ∀ n ∈ names, Name.Valid n)
    (hown : Contributes d (root.down names) own) (hp : p ∈ own.patterns.patterns) :
    DeclaredAt d scope paths p (root.down names)

/-- Whether names lead to a path from the base of a pattern, so that the pattern is tested on
them there. -/
structure LeadsTo (p : ScopedPattern) (names : List Name) (path : Path) : Prop where
  ne_nil : names ≠ []
  parts : path.parts = p.base.parts ++ names.map .name
  below : path.partsBelow? p.base = some (names.map .name)
  covers : ∀ isDir, p.covers path isDir = p.pattern.matchesNames names isDir

/-- Whether names lead to a path from where each pattern of a set is declared. -/
def Anchored (d : Disk) (scope : Scope) (paths : List Path) (patterns : PatternSet)
    (path : Path) : Prop :=
  ∀ p ∈ patterns.patterns, ∃ directory names, DeclaredAt d scope paths p directory
    ∧ p.base = directory ∧ LeadsTo p names path

theorem leadsTo_of_parts {p : ScopedPattern} {names : List Name} {path : Path} (hn : names ≠ [])
    (h : path.parts = p.base.parts ++ names.map .name) :
  LeadsTo p names path
  := ⟨hn, h, Path.partsBelow?_of_parts h, p.covers_of_parts h⟩

section

variable {d : Disk} {scope : Scope} {paths : List Path}

theorem Contributes.declaredIn {directory : Path} {own : Context}
    (h : Contributes d directory own) :
  own.patterns.DeclaredIn directory
  := by
  obtain ⟨k, r, hown⟩ := h
  apply (Resolver.meets_contribution_declaredIn (k.seenDisk d) directory r).of_ok hown

/-- A pattern is declared where its base says. -/
theorem DeclaredAt.base_eq {p : ScopedPattern} {directory : Path}
    (h : DeclaredAt d scope paths p directory) :
  p.base = directory
  := by
  cases h with
  | root _ _ habove hp => apply Scope.declaredIn_contextAt habove p hp
  | parent _ _ habove hp => apply Scope.declaredIn_contextAt habove p hp
  | config _ _ _ hown hp => apply hown.declaredIn p hp

/-! ### Contexts below a root -/

section

variable {root : Path} {names : List Name} {context : Context}

theorem Applies.valid (h : Applies d scope root names context) :
  ∀ n ∈ names, Name.Valid n
  := by
  induction h with
  | root => simp
  | further _ hname _ ih =>
    apply List.forall_mem_append.mpr ⟨ih, List.forall_mem_singleton.mpr hname⟩

/-- The patterns in a directory are declared on the way down to it. -/
theorem Applies.declaredAlong (h : Applies d scope root names context) :
  context.patterns.DeclaredAlong root names
  := by
  induction h with
  | root habove hown => apply ((Scope.declaredIn_contextAt habove).append hown.declaredIn).along
  | further _ _ hown ih => apply ih.append hown.declaredIn

theorem Applies.exists_declaredAt (h : Applies d scope root names context)
    (hroot : root ∈ paths) (hdir : d.isDir root = true) {p : ScopedPattern}
    (hp : p ∈ context.patterns.patterns) :
  ∃ directory, DeclaredAt d scope paths p directory
  := by
  induction h with
  | root habove hown =>
    rcases List.mem_append.mp hp with hp | hp
    · use root, .root hroot hdir habove hp
    · have hnil : ∀ n ∈ ([] : List Name), Name.Valid n := by simp
      use root, .config hroot hdir hnil hown hp
  | further h hname hown ih =>
    rcases List.mem_append.mp hp with hp | hp
    · apply ih hp
    · exact ⟨_, .config hroot hdir (h.further hname hown).valid hown hp⟩

end

/-! ### What is tested -/

/-- Wherever a scan tests a path, names lead to it from where the patterns are declared. -/
theorem Tested.anchored {patterns : PatternSet} {path : Path}
    (h : Tested d scope paths patterns path) :
  Anchored d scope paths patterns path
  := by
  intro p hp
  cases h with
  | @entry root names name context hroot hdir h hname =>
    obtain ⟨directory, hdeclared⟩ := h.exists_declaredAt hroot hdir hp
    obtain ⟨before, after, -, -, hparts⟩ := h.declaredAlong.exists_parts_eq hp
    have hv : ∀ n ∈ names ++ [name], Name.Valid n :=
      List.forall_mem_append.mpr ⟨h.valid, List.forall_mem_singleton.mpr hname⟩
    use directory, after ++ [name], hdeclared, hdeclared.base_eq
    apply leadsTo_of_parts (by simp) (hparts [name] hv)
  | argument hpath hfile habove =>
    have hdeclared := DeclaredAt.parent hpath hfile habove hp
    obtain ⟨name, hparts⟩ := Path.parts_of_isFile hfile
    rw [← hdeclared.base_eq] at hparts
    exact ⟨_, [name], hdeclared, hdeclared.base_eq, leadsTo_of_parts (by simp) hparts⟩

end

/-- All that matters of the answers to an aggregation are those to the tests that `Tested`
describes: with a judge who answers these as the patterns do, whatever he says to others, it is
the same.  And at each of these tests names lead to the path from where the patterns are
declared, so that they are tested on just these names. -/
theorem aggregate_tests_anchored {d : Disk} {s : Scan} (hd : d.WellFormed)
    (hs : s.sink.OpenOn d) (scope : Scope) (paths : List Path) (excluded : Option Path) :
  (∀ judge : Judge, judge.Agrees d scope paths →
      aggregateBy judge d scope paths excluded s = aggregate d scope paths excluded s)
    ∧ ∀ patterns path, Tested d scope paths patterns path → Anchored d scope paths patterns path
  := by
  constructor
  · intro judge hagrees
    apply aggregateBy_eq hd hagrees hs excluded
  · intro patterns path htested
    apply htested.anchored

/-! ### An aggregation of a small disk -/

/-- A judge who fails unless the path is below the base of each pattern. -/
def strictJudge : Judge := fun patterns path isDir =>
  if patterns.patterns.all fun p => (path.partsBelow? p.base).any fun parts => !parts.isEmpty then
    pure (patterns.ignoredBy? path isDir)
  else Action.fail (.walking path .notFound)

theorem strictJudge_of_anchored {d : Disk} {scope : Scope} {paths : List Path}
    {patterns : PatternSet} {path : Path} (h : Anchored d scope paths patterns path)
    (isDir : Bool) :
  strictJudge patterns path isDir = pure (patterns.ignoredBy? path isDir)
  := by
  apply if_pos
  rw [List.all_eq_true]
  intro p hp
  obtain ⟨directory, names, -, -, hleads⟩ := h p hp
  rw [hleads.below]
  simpa using hleads.ne_nil

/-- The aggregation succeeds with this judge. -/
theorem aggregate_tests_anchored_sample :
  ∃ report,
    (aggregateBy strictJudge sampleDisk prunedScope [⟨"."⟩] none inMemory).result = .ok report
  := by
  have hopen : inMemory.sink.OpenOn sampleDisk :=
    (inMemory_ready sampleDisk_wellFormed).openOn
  obtain ⟨hsame, hanchored⟩ :=
    aggregate_tests_anchored sampleDisk_wellFormed hopen prunedScope [⟨"."⟩] none
  rw [hsame strictJudge fun patterns path isDir h =>
    strictJudge_of_anchored (hanchored patterns path h) isDir]
  apply sampleAggregate_succeeds prunedScope (by decide)

end Compendium.Scan
