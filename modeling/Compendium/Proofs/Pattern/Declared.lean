import Mathlib.Data.List.Basic
import Compendium.Proofs.Context
import Compendium.Proofs.Path.Entry

/-!
# Where patterns are declared

The patterns of a scope are declared at a root, and those of a configuration in its directory.
So the patterns that apply in a directory below the root are declared on the way down to it, and
an entry there is tested on the names that lead to it from where a pattern is declared.
-/

namespace Compendium

/-! ### What a pattern is tested on -/

namespace Path

/-- Names that lead to a path from a base are all that is left of the path after the base. -/
theorem partsBelow?_of_parts {path base : Path} {names : List Name}
    (h : path.parts = base.parts ++ names.map .name) :
  path.partsBelow? base = some (names.map .name)
  := partsAfter_eq_some_iff.mpr h

theorem namesOf_map_name (names : List Name) :
  namesOf (names.map .name) = names
  := by
  rw [namesOf, List.filterMap_map]
  apply List.filterMap_some

end Path

/-- A pattern is tested on the names among the parts that are left behind its base. -/
theorem ScopedPattern.covers_of_partsBelow? {path base : Path} {rest : List PathPart}
    (h : path.partsBelow? base = some rest) (pattern : Pattern) (isDir : Bool) :
  (mk pattern base).covers path isDir = pattern.matchesNames (Path.namesOf rest) isDir
  := by
  rw [covers, h]

/-- Below the directory that it is declared in, a pattern is tested on the names that lead down
from there. -/
theorem ScopedPattern.covers_of_parts {p : ScopedPattern} {path : Path} {names : List Name}
    (h : path.parts = p.base.parts ++ names.map .name) (isDir : Bool) :
  p.covers path isDir = p.pattern.matchesNames names isDir
  := by
  have hcovers := covers_of_partsBelow? (Path.partsBelow?_of_parts h) p.pattern isDir
  rwa [Path.namesOf_map_name] at hcovers

/-! ### Patterns of a scope and of configurations -/

/-- Whether all patterns of a set are declared in one directory. -/
def PatternSet.DeclaredIn (s : PatternSet) (directory : Path) : Prop :=
  ∀ p ∈ s.patterns, p.base = directory

theorem declaredIn_patternsOn {s : PatternSet} {base : Path} {lines : List String}
    (h : s.patterns = patternsOn base lines) :
  s.DeclaredIn base
  := by
  intro p hp
  rw [h] at hp
  obtain ⟨raw, -, hraw⟩ := List.mem_filterMap.mp hp
  obtain ⟨pattern, -, rfl⟩ := Option.map_eq_some_iff.mp hraw
  rfl

theorem PatternSet.DeclaredIn.append {s t : PatternSet} {directory : Path}
    (hs : s.DeclaredIn directory) (ht : t.DeclaredIn directory) :
  (s ++ t).DeclaredIn directory
  := by
  intro p hp
  rcases List.mem_append.mp hp with hp | hp
  · apply hs p hp
  · apply ht p hp

theorem declaredIn_empty (directory : Path) :
  PatternSet.empty.DeclaredIn directory
  := by simp [PatternSet.DeclaredIn, PatternSet.empty]

theorem Scope.declaredIn_contextAt {scope : Scope} {root : Path} {above : Context}
    (h : scope.contextAt root = .ok above) :
  above.patterns.DeclaredIn root
  := declaredIn_patternsOn (contextAt_eq_ok_iff.mp h).2.1

theorem Context.declaredIn_ofConfig {config : Config} {directory : Path} {origin : String}
    {own : Context} (h : ofConfig config directory origin = .ok own) :
  own.patterns.DeclaredIn directory
  := declaredIn_patternsOn (of_ofConfig_eq_ok h).1

theorem Resolver.meets_contribution_declaredIn (d : Disk) (directory : Path) (r : Resolver) :
  (contribution d directory).Meets r (fun own _ => own.patterns.DeclaredIn directory)
    fun _ _ => True
  := by
  have hempty : Context.empty.patterns.DeclaredIn directory := declaredIn_empty directory
  rw [contribution, Action.meets_bind, Action.meets_iff]
  constructor
  · intro found _
    cases found with
    | none => apply hempty
    | some loaded =>
      rw [Action.meets_bind, Action.meets_state]
      split
      · rw [Action.meets_bind, Action.meets_tell]
        apply hempty
      · cases hown : Context.ofConfig loaded.config directory loaded.origin with
        | error failure => trivial
        | ok own => apply Context.declaredIn_ofConfig hown
  · intro _ _
    trivial

/-! ### On the way down -/

/-- Whether all patterns of a set are declared at a root or in directories on the way down from
it along names. -/
def PatternSet.DeclaredAlong (s : PatternSet) (root : Path) (names : List Name) : Prop :=
  ∀ p ∈ s.patterns, ∃ before, before <+: names ∧ p.base = root.down before

theorem PatternSet.DeclaredIn.along {s : PatternSet} {root : Path} (h : s.DeclaredIn root) :
  s.DeclaredAlong root []
  := fun p hp => ⟨[], List.nil_prefix, h p hp⟩

/-- In a directory the patterns above it are followed by those that are declared in it. -/
theorem PatternSet.DeclaredAlong.append {s own : PatternSet} {root : Path}
    {names further : List Name} (h : s.DeclaredAlong root names)
    (hown : own.DeclaredIn (root.down (names ++ further))) :
  (s ++ own).DeclaredAlong root (names ++ further)
  := by
  intro p hp
  rcases List.mem_append.mp hp with hp | hp
  · obtain ⟨before, hbefore, hbase⟩ := h p hp
    use before, hbefore.trans (List.prefix_append names further), hbase
  · use names ++ further, List.prefix_rfl
    apply hown p hp

/-- Below a directory, names lead to an entry from where a pattern that applies there is
declared: those that lead to the directory and then those that lead on from it. -/
theorem PatternSet.DeclaredAlong.exists_parts_eq {s : PatternSet} {root : Path}
    {names : List Name} (h : s.DeclaredAlong root names) {p : ScopedPattern}
    (hp : p ∈ s.patterns) :
  ∃ before after, names = before ++ after ∧ p.base = root.down before
    ∧ ∀ further, (∀ n ∈ names ++ further, Name.Valid n) →
      (root.down (names ++ further)).parts = p.base.parts ++ (after ++ further).map .name
  := by
  obtain ⟨before, ⟨after, rfl⟩, hbase⟩ := h p hp
  use before, after, rfl, hbase
  intro further hv
  rw [List.append_assoc] at hv ⊢
  rw [hbase, Path.down_append,
    Path.parts_down fun n hn => hv n (List.mem_append_right before hn)]

end Compendium
